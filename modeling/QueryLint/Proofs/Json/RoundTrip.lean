import QueryLint.Proofs.Json.Scalars
import QueryLint.Proofs.Json.Settled

/-!
# Reading written values

A value is read back from its text in every layout that sets items apart by blanks, if the reader
goes deep enough and the value holds no number that is rounded or refused. In its texts, the
characters that stand for halves of pairs are such halves and never themselves.
-/

namespace QueryLint.Json

open Text (isDigit)

mutual

/-- How deeply lists and objects are nested. -/
def nesting : Json → Nat
  | array items => nestingOfItems items + 1
  | object entries => nestingOfEntries entries + 1
  | _ => 0

def nestingOfItems : List Json → Nat
  | [] => 0
  | v :: rest => max (nesting v) (nestingOfItems rest)

def nestingOfEntries : List (String × Json) → Nat
  | [] => 0
  | (_, v) :: rest => max (nesting v) (nestingOfEntries rest)

end

/-- Items stand apart by blanks only. -/
def Layout.IsBlank : Layout → Prop
  | .oneLine => True
  | .indented unit => ∀ c ∈ unit, isSpace c = true

namespace Layout

variable {l : Layout}

theorem isSpace_of_mem_margin {unit : List Char} (h : ∀ c ∈ unit, isSpace c = true) (d : Nat) :
    ∀ c ∈ margin unit d, isSpace c = true := by
  induction d with
  | zero => exact fun c hc => absurd hc List.not_mem_nil
  | succ d ih =>
    intro c hc
    obtain hc | hc := List.mem_append.mp hc
    · exact h c hc
    · exact ih c hc

theorem isSpace_of_mem_break (hl : l.IsBlank) (d : Nat) : ∀ c ∈ l.break_ d, isSpace c = true := by
  cases l with
  | oneLine => exact fun c hc => absurd hc List.not_mem_nil
  | indented unit =>
    intro c hc
    obtain rfl | hc := List.mem_cons.mp hc
    · rfl
    · exact isSpace_of_mem_margin hl d c hc

theorem skipSpace_break (hl : l.IsBlank) (d : Nat) (cs : List Char) :
    skipSpace (l.break_ d ++ cs) = skipSpace cs :=
  List.dropWhile_append_of_pos (isSpace_of_mem_break hl d)

/-- Behind a comma stand only blanks. -/
theorem exists_comma (hl : l.IsBlank) (d : Nat) :
    ∃ blank, l.comma d = ',' :: blank ∧ ∀ cs, skipSpace (blank ++ cs) = skipSpace cs := by
  cases l with
  | oneLine => exact ⟨[' '], rfl, fun cs => rfl⟩
  | indented unit => exact ⟨_, rfl, skipSpace_break hl d⟩

theorem closed_break (l : Layout) (d : Nat) {cs : List Char} (h : Closed cs) :
    Closed (l.break_ d ++ cs) := by
  cases l with
  | oneLine => exact h
  | indented unit =>
    intro c rest heq
    rw [← (List.cons.inj heq).1]
    decide

end Layout

section

variable {depth n : Nat} {cs rest more tail : List Char} {v : Json}

theorem readValue_string {s : String} (h : readString cs = .ok (s, rest)) :
    readValue depth (n + 1) ('"' :: cs) = .ok (string s, rest) := by
  rw [readValue, h]
  rfl

theorem readValue_array {c : Char} {items : List Json} (hcs : skipSpace cs = c :: more)
    (hc : c ≠ ']') (h : readItems depth n (c :: more) = .ok (items, rest)) :
    readValue (depth + 1) (n + 1) ('[' :: cs) = .ok (array items, rest) := by
  rw [readValue, hcs]
  split
  · next heq => exact absurd (List.cons.inj heq).1 hc
  · rw [h]
    rfl

theorem readValue_object {c : Char} {entries : List (String × Json)}
    (hcs : skipSpace cs = c :: more) (hc : c ≠ '\x7d')
    (h : readEntries depth n [] (c :: more) = .ok (entries, rest)) :
    readValue (depth + 1) (n + 1) ('\x7b' :: cs) = .ok (object entries, rest) := by
  rw [readValue, hcs]
  split
  · next heq => exact absurd (List.cons.inj heq).1 hc
  · rw [h]
    rfl

theorem readItems_last (hv : readValue depth n cs = .ok (v, rest))
    (h : skipSpace rest = ']' :: tail) : readItems depth (n + 1) cs = .ok ([v], tail) := by
  simp only [readItems, hv, h, bind, Except.bind, pure, Except.pure]

theorem readItems_comma {items : List Json} (hv : readValue depth n cs = .ok (v, rest))
    (h : skipSpace rest = ',' :: more)
    (hitems : readItems depth n (skipSpace more) = .ok (items, tail)) :
    readItems depth (n + 1) cs = .ok (v :: items, tail) := by
  simp only [readItems, hv, h, hitems, bind, Except.bind, pure, Except.pure]

variable {key : String} {done : List (String × Json)}

theorem readEntries_last (hkey : readString cs = .ok (key, rest))
    (hcolon : skipSpace rest = ':' :: more)
    (hv : readValue depth n (skipSpace more) = .ok (v, tail)) {tail' : List Char}
    (h : skipSpace tail = '\x7d' :: tail') :
    readEntries depth (n + 1) done ('"' :: cs) = .ok (setKey key v done, tail') := by
  simp only [readEntries, hkey, hcolon, hv, h, bind, Except.bind, pure, Except.pure]

theorem readEntries_comma (hkey : readString cs = .ok (key, rest))
    (hcolon : skipSpace rest = ':' :: more)
    (hv : readValue depth n (skipSpace more) = .ok (v, tail)) {tail' : List Char}
    (h : skipSpace tail = ',' :: tail') :
    readEntries depth (n + 1) done ('"' :: cs) =
      readEntries depth n (setKey key v done) (skipSpace tail') := by
  simp only [readEntries, hkey, hcolon, hv, h, bind, Except.bind]

theorem ne_of_isDigit {c d : Char} (hc : isDigit c = true) (hd : isDigit d = false) : d ≠ c := by
  rintro rfl
  exact absurd (hd.symm.trans hc) (by decide)

theorem after?_of_head {w : List Char} {c d : Char} (h : d ≠ c) :
    after? (d :: w) (c :: cs) = none := by
  rw [after?, if_neg]
  simp [h]

/-- No word starts like a number. -/
theorem readWord_digit {c : Char} (h : isDigit c = true) : readWord (c :: cs) = none := by
  have hne : ∀ d, isDigit d = false → d ≠ c := fun d => ne_of_isDigit h
  simp only [readWord, wordValues, List.findSome?_cons, List.findSome?_nil,
    after?_of_head (hne 'n' (by decide)), after?_of_head (hne 't' (by decide)),
    after?_of_head (hne 'f' (by decide)), after?_of_head (hne 'N' (by decide)),
    after?_of_head (hne 'I' (by decide)), after?_of_head (hne '-' (by decide)), Option.map_none]

theorem readWord_minus_digit {c : Char} (h : isDigit c = true) :
    readWord ('-' :: c :: cs) = none := by
  have hc : 'I' ≠ c := ne_of_isDigit h (by decide)
  have hinfinite :
      after? ['-', 'I', 'n', 'f', 'i', 'n', 'i', 't', 'y'] ('-' :: c :: cs) = none := by
    rw [after?, if_neg]
    simp [hc]
  simp only [readWord, wordValues, List.findSome?_cons, List.findSome?_nil, hinfinite,
    after?_of_head (show 'n' ≠ '-' by decide), after?_of_head (show 't' ≠ '-' by decide),
    after?_of_head (show 'f' ≠ '-' by decide), after?_of_head (show 'N' ≠ '-' by decide),
    after?_of_head (show 'I' ≠ '-' by decide), Option.map_none]

theorem readValue_number {c : Char} (hc : isDigit c = true ∨ c = '-')
    (h : readWord (c :: cs) = none) :
    readValue depth (n + 1) (c :: cs) = readNumber (c :: cs) := by
  have hne : ∀ d, isDigit d = false → d ≠ '-' → c ≠ d := by
    intro d hd hminus
    obtain hc | rfl := hc
    · exact (ne_of_isDigit hc hd).symm
    · exact hminus.symm
  rw [readValue]
  · rw [h]
  · intro more heq
    exact hne '"' (by decide) (by decide) (List.cons.inj heq).1
  · intro more heq
    exact hne '[' (by decide) (by decide) (List.cons.inj heq).1
  · intro more heq
    exact hne '\x7b' (by decide) (by decide) (List.cons.inj heq).1

end

/-- A written whole number starts with a digit or with a sign and a digit. -/
theorem exists_writeInt (k : Int) :
    (∃ c cs, writeInt k = c :: cs ∧ isDigit c = true) ∨
      ∃ c cs, writeInt k = '-' :: c :: cs ∧ isDigit c = true := by
  have hdigits := @isDigit_of_mem_toDigits k.natAbs
  unfold writeInt
  cases hcs : Nat.toDigits 10 k.natAbs with
  | nil => exact absurd hcs Nat.toDigits_ne_nil
  | cons c cs =>
    have hc : isDigit c = true := hdigits (by rw [hcs]; exact List.mem_cons_self)
    split_ifs
    · exact .inr ⟨c, cs, rfl, hc⟩
    · exact .inl ⟨c, cs, rfl, hc⟩

theorem readValue_writeInt {k : Int} (hk : k.natAbs < Binary64.pow10 Text.maxDecimalDigits)
    {rest : List Char} (h : Closed rest) (depth n : Nat) :
    readValue depth (n + 1) (writeInt k ++ rest) = .ok (int k, rest) := by
  rw [← readNumber_writeInt hk h]
  obtain ⟨c, cs, heq, hc⟩ | ⟨c, cs, heq, hc⟩ := exists_writeInt k
  · rw [heq]
    exact readValue_number (.inl hc) (readWord_digit hc)
  · rw [heq]
    exact readValue_number (.inr rfl) (readWord_minus_digit hc)

theorem isSpace_of_isDigit {c : Char} (h : isDigit c = true) : isSpace c = false := by
  have hne : ∀ d, isDigit d = false → (c == d) = false :=
    fun d hd => beq_eq_false_iff_ne.mpr (ne_of_isDigit h hd).symm
  rw [isSpace, hne ' ' (by decide), hne '\t' (by decide), hne '\n' (by decide),
    hne '\r' (by decide)]
  rfl

/-- A written value starts with neither a blank nor the end of a list. -/
theorem head_writeAt {j : Json} (hj : j.IsReadable) (l : Layout) (d : Nat) :
    ∃ c cs, writeAt l d j = c :: cs ∧ isSpace c = false ∧ c ≠ ']' := by
  cases j with
  | null => exact ⟨'n', _, rfl, rfl, by decide⟩
  | bool b =>
    cases b with
    | false => exact ⟨'f', _, rfl, rfl, by decide⟩
    | true => exact ⟨'t', _, rfl, rfl, by decide⟩
  | int k =>
    obtain ⟨c, cs, heq, hc⟩ | ⟨c, cs, heq, hc⟩ := exists_writeInt k
    · exact ⟨c, cs, by rw [writeAt, heq], isSpace_of_isDigit hc,
        (ne_of_isDigit hc (by decide)).symm⟩
    · exact ⟨'-', c :: cs, by rw [writeAt, heq], rfl, by decide⟩
  | float x => exact hj.elim
  | string s => exact ⟨'"', _, by rw [writeAt]; rfl, rfl, by decide⟩
  | array items =>
    cases items with
    | nil => exact ⟨'[', _, by rw [writeAt], rfl, by decide⟩
    | cons v rest => exact ⟨'[', _, by rw [writeAt]; rfl, rfl, by decide⟩
  | object entries =>
    cases entries with
    | nil => exact ⟨'\x7b', _, by rw [writeAt], rfl, by decide⟩
    | cons e rest => exact ⟨'\x7b', _, by rw [writeAt]; rfl, rfl, by decide⟩

theorem skipSpace_writeAt {j : Json} (hj : j.IsReadable) (l : Layout) (d : Nat)
    (rest : List Char) : skipSpace (writeAt l d j ++ rest) = writeAt l d j ++ rest := by
  obtain ⟨c, cs, heq, hc, -⟩ := head_writeAt hj l d
  rw [heq]
  exact List.dropWhile_cons_of_neg (by rw [hc]; decide)

section

variable {l : Layout}

/-- The items of a list at the given depth, from one of them to the end, and what follows. -/
def itemsFrom (l : Layout) (d : Nat) (v : Json) (items : List Json) (rest : List Char) :
    List Char :=
  writeAt l (d + 1) v ++ (writeItems l (d + 1) items ++ (l.break_ d ++ ']' :: rest))

/-- The entries of an object at the given depth, from one of them to the end, and what follows. -/
def entriesFrom (l : Layout) (d : Nat) (k : String) (v : Json) (entries : List (String × Json))
    (rest : List Char) : List Char :=
  writeString k ++ (':' :: ' ' :: (writeAt l (d + 1) v ++
    (writeEntries l (d + 1) entries ++ (l.break_ d ++ '\x7d' :: rest))))

theorem writeAt_array_append (d : Nat) (v : Json) (items : List Json) (rest : List Char) :
    writeAt l d (array (v :: items)) ++ rest =
      '[' :: (l.break_ (d + 1) ++ itemsFrom l d v items rest) := by
  simp [writeAt, itemsFrom]

theorem writeAt_object_append (d : Nat) (k : String) (v : Json) (entries : List (String × Json))
    (rest : List Char) :
    writeAt l d (object ((k, v) :: entries)) ++ rest =
      '\x7b' :: (l.break_ (d + 1) ++ entriesFrom l d k v entries rest) := by
  simp [writeAt, entriesFrom]

theorem writeItems_append (d : Nat) (v : Json) (items : List Json) (rest : List Char) :
    writeItems l (d + 1) (v :: items) ++ (l.break_ d ++ ']' :: rest) =
      l.comma (d + 1) ++ itemsFrom l d v items rest := by
  simp [writeItems, itemsFrom]

theorem writeEntries_append (d : Nat) (k : String) (v : Json) (entries : List (String × Json))
    (rest : List Char) :
    writeEntries l (d + 1) ((k, v) :: entries) ++ (l.break_ d ++ '\x7d' :: rest) =
      l.comma (d + 1) ++ entriesFrom l d k v entries rest := by
  simp [writeEntries, entriesFrom]

theorem skipSpace_itemsFrom {v : Json} (hv : v.IsReadable) (d : Nat) (items : List Json)
    (rest : List Char) : skipSpace (itemsFrom l d v items rest) = itemsFrom l d v items rest :=
  skipSpace_writeAt hv l (d + 1) _

theorem skipSpace_entriesFrom (d : Nat) (k : String) (v : Json) (entries : List (String × Json))
    (rest : List Char) :
    skipSpace (entriesFrom l d k v entries rest) = entriesFrom l d k v entries rest := rfl

theorem readString_writeString (s : String) (rest : List Char) :
    ∃ cs, writeString s ++ rest = '"' :: cs ∧ readString cs = .ok (settledText s, rest) := by
  refine ⟨s.toList.flatMap escapedChar ++ '"' :: rest, ?_, readString_written s rest⟩
  rw [writeString, List.cons_append, List.cons_append, List.append_assoc]
  rfl

theorem readValue_itemsFrom (hl : l.IsBlank) {v : Json} (hv : v.IsReadable) (d : Nat)
    {items read : List Json} {depth n : Nat} {rest : List Char}
    (h : readItems depth n (itemsFrom l d v items rest) = .ok (read, rest)) :
    readValue (depth + 1) (n + 1) (writeAt l d (array (v :: items)) ++ rest) =
      .ok (array read, rest) := by
  obtain ⟨c, cs, heq, -, hclose⟩ := head_writeAt hv l (d + 1)
  have hhead : itemsFrom l d v items rest =
      c :: (cs ++ (writeItems l (d + 1) items ++ (l.break_ d ++ ']' :: rest))) := by
    rw [itemsFrom, heq, List.cons_append]
  rw [writeAt_array_append]
  refine readValue_array ?_ hclose (hhead ▸ h)
  rw [l.skipSpace_break hl, skipSpace_itemsFrom hv, hhead]

theorem readValue_entriesFrom (hl : l.IsBlank) {k : String} {v : Json} {d : Nat}
    {entries read : List (String × Json)} {depth n : Nat} {rest : List Char}
    (h : readEntries depth n [] (entriesFrom l d k v entries rest) = .ok (read, rest)) :
    readValue (depth + 1) (n + 1) (writeAt l d (object ((k, v) :: entries)) ++ rest) =
      .ok (object read, rest) := by
  rw [writeAt_object_append]
  refine readValue_object ?_ (show '"' ≠ '\x7d' by decide) h
  rw [l.skipSpace_break hl, skipSpace_entriesFrom]
  rfl

theorem closed_cons {c : Char} (hc : c ∈ [',', '\n', ']', '\x7d']) (cs : List Char) :
    Closed (c :: cs) := by
  intro c' cs' heq
  rw [← (List.cons.inj heq).1]
  exact hc

theorem closed_items (hl : l.IsBlank) (d : Nat) (items : List Json) (rest : List Char) :
    Closed (writeItems l (d + 1) items ++ (l.break_ d ++ ']' :: rest)) := by
  cases items with
  | nil => exact l.closed_break d (closed_cons (by decide) rest)
  | cons v items =>
    obtain ⟨blank, hcomma, -⟩ := l.exists_comma hl (d + 1)
    rw [writeItems_append, hcomma]
    exact closed_cons (by decide) _

theorem closed_entries (hl : l.IsBlank) (d : Nat) (entries : List (String × Json))
    (rest : List Char) :
    Closed (writeEntries l (d + 1) entries ++ (l.break_ d ++ '\x7d' :: rest)) := by
  cases entries with
  | nil => exact l.closed_break d (closed_cons (by decide) rest)
  | cons e entries =>
    obtain ⟨blank, hcomma, -⟩ := l.exists_comma hl (d + 1)
    rw [writeEntries_append, hcomma]
    exact closed_cons (by decide) _

-- The length of a text bounds the steps that reading it takes.
mutual

theorem readValue_writeAt (hl : l.IsBlank) (j : Json) (d depth n : Nat)
    (hj : ∀ p ∈ j.parts, p.IsReadable) (hdepth : j.nesting ≤ depth)
    (hn : (writeAt l d j).length < n) {rest : List Char} (hrest : Closed rest) :
    readValue depth n (writeAt l d j ++ rest) = .ok (j.settled, rest) := by
  match j, depth, n with
  | null, _, n + 1 => rfl
  | bool false, _, n + 1 => rfl
  | bool true, _, n + 1 => rfl
  | int k, depth, n + 1 => exact readValue_writeInt (hj _ List.mem_cons_self) hrest depth n
  | float x, _, _ => exact (hj _ List.mem_cons_self).elim
  | string s, _, n + 1 =>
    obtain ⟨cs, hcs, hs⟩ := readString_writeString s rest
    rw [writeAt, hcs, readValue_string hs, settled]
  | array [], depth + 1, n + 1 => rfl
  | array (v :: items), depth + 1, n + 1 =>
    have hparts : ∀ p ∈ partsOfItems (v :: items), p.IsReadable :=
      fun p hp => hj p (List.mem_cons_of_mem _ hp)
    refine readValue_itemsFrom hl (isReadable_of_parts fun p hp =>
      hparts p (List.mem_append_left _ hp)) d ?_
    refine readItems_itemsFrom hl v items d depth n hparts (Nat.le_of_succ_le_succ hdepth) ?_ rest
    simp only [writeAt, List.length_cons, List.length_append, List.length_nil] at hn
    omega
  | object [], depth + 1, n + 1 => rfl
  | object ((k, v) :: entries), depth + 1, n + 1 =>
    refine readValue_entriesFrom hl ?_
    refine readEntries_entriesFrom hl k v entries [] d depth n
      (fun p hp => hj p (List.mem_cons_of_mem _ hp)) (Nat.le_of_succ_le_succ hdepth) ?_ rest
    simp only [writeAt, List.length_cons, List.length_append, List.length_nil] at hn
    omega
termination_by sizeOf j

theorem readItems_itemsFrom (hl : l.IsBlank) (v : Json) (items : List Json) (d depth n : Nat)
    (hparts : ∀ p ∈ partsOfItems (v :: items), p.IsReadable)
    (hdepth : nestingOfItems (v :: items) ≤ depth)
    (hn : (writeAt l (d + 1) v).length + (writeItems l (d + 1) items).length + 1 < n)
    (rest : List Char) :
    readItems depth n (itemsFrom l d v items rest) = .ok (settledItems (v :: items), rest) := by
  match items, n with
  | [], n + 1 =>
    have hv := readValue_writeAt hl v (d + 1) depth n
      (fun p hp => hparts p (List.mem_append_left _ hp)) ((Nat.le_max_left _ _).trans hdepth)
      (by omega) (closed_items hl d [] rest)
    refine readItems_last hv ?_
    rw [writeItems, List.nil_append, l.skipSpace_break hl]
    rfl
  | w :: items, n + 1 =>
    have hv := readValue_writeAt hl v (d + 1) depth n
      (fun p hp => hparts p (List.mem_append_left _ hp)) ((Nat.le_max_left _ _).trans hdepth)
      (by omega) (closed_items hl d (w :: items) rest)
    have hparts' : ∀ p ∈ partsOfItems (w :: items), p.IsReadable :=
      fun p hp => hparts p (List.mem_append_right _ hp)
    obtain ⟨blank, hcomma, hblank⟩ := l.exists_comma hl (d + 1)
    have hread := readItems_itemsFrom hl w items d depth n hparts'
      ((Nat.le_max_right _ _).trans hdepth)
      (by simp only [writeItems, hcomma, List.length_cons, List.length_append] at hn; omega) rest
    rw [itemsFrom]
    rw [writeItems_append, hcomma, List.cons_append] at hv ⊢
    refine readItems_comma hv rfl ?_
    rw [hblank, skipSpace_itemsFrom]
    · exact hread
    · exact isReadable_of_parts fun p hp => hparts' p (List.mem_append_left _ hp)
termination_by sizeOf (v :: items)

theorem readEntries_entriesFrom (hl : l.IsBlank) (k : String) (v : Json)
    (entries done : List (String × Json)) (d depth n : Nat)
    (hparts : ∀ p ∈ partsOfEntries ((k, v) :: entries), p.IsReadable)
    (hdepth : nestingOfEntries ((k, v) :: entries) ≤ depth)
    (hn : (writeAt l (d + 1) v).length + (writeEntries l (d + 1) entries).length + 1 < n)
    (rest : List Char) :
    readEntries depth n done (entriesFrom l d k v entries rest) =
      .ok (settledEntries done ((k, v) :: entries), rest) := by
  obtain ⟨cs, hcs, hkey⟩ := readString_writeString k (':' :: ' ' :: (writeAt l (d + 1) v ++
    (writeEntries l (d + 1) entries ++ (l.break_ d ++ '\x7d' :: rest))))
  have hskip : skipSpace (' ' :: (writeAt l (d + 1) v ++ (writeEntries l (d + 1) entries ++
      (l.break_ d ++ '\x7d' :: rest)))) = writeAt l (d + 1) v ++
        (writeEntries l (d + 1) entries ++ (l.break_ d ++ '\x7d' :: rest)) :=
    skipSpace_writeAt (isReadable_of_parts fun p hp => hparts p (List.mem_append_left _ hp)) l _ _
  rw [entriesFrom, hcs]
  match entries, n with
  | [], n + 1 =>
    have hv := readValue_writeAt hl v (d + 1) depth n
      (fun p hp => hparts p (List.mem_append_left _ hp)) ((Nat.le_max_left _ _).trans hdepth)
      (by omega) (closed_entries hl d [] rest)
    refine readEntries_last hkey rfl (hskip ▸ hv) ?_
    rw [writeEntries, List.nil_append, l.skipSpace_break hl]
    rfl
  | (k', w) :: entries, n + 1 =>
    have hv := readValue_writeAt hl v (d + 1) depth n
      (fun p hp => hparts p (List.mem_append_left _ hp)) ((Nat.le_max_left _ _).trans hdepth)
      (by omega) (closed_entries hl d ((k', w) :: entries) rest)
    obtain ⟨blank, hcomma, hblank⟩ := l.exists_comma hl (d + 1)
    have hread := readEntries_entriesFrom hl k' w entries (setKey (settledText k) v.settled done)
      d depth n (fun p hp => hparts p (List.mem_append_right _ hp))
      ((Nat.le_max_right _ _).trans hdepth)
      (by simp only [writeEntries, hcomma, List.length_cons, List.length_append] at hn; omega) rest
    rw [writeEntries_append, hcomma, List.cons_append] at hv hkey hskip
    rw [readEntries_comma hkey rfl (hskip ▸ hv) rfl, hblank, skipSpace_entriesFrom]
    exact hread
termination_by sizeOf ((k, v) :: entries)

end

/-- A written value is read as its texts and keys settle. -/
theorem readWithin_writeIn (hl : l.IsBlank) {j : Json} {depth : Nat}
    (hj : ∀ p ∈ j.parts, p.IsReadable) (hdepth : j.nesting ≤ depth) :
    readWithin depth (j.writeIn l).toList = .ok j.settled := by
  have hend : Closed [] := fun c cs heq => nomatch heq
  have hread := readValue_writeAt hl j 0 depth ((writeAt l 0 j).length + 1) hj hdepth
    (Nat.lt_succ_self _) hend
  have hskip := skipSpace_writeAt (isReadable_of_parts hj) l 0 []
  rw [List.append_nil] at hread hskip
  rw [readWithin, writeIn, String.toList_ofList, hskip, hread]
  rfl

end

/-- An indentation that can be written: none, or a number of blanks that can be counted and that
there is room for. -/
def IsIndent (room : Int) (indent : Option Int) : Prop := ∀ n ∈ indent, Text.IsRepeatable room n

theorem isIndent_none {room : Int} : IsIndent room none :=
  fun n hn => absurd hn (Option.not_mem_none n)

theorem layout_eq_ok_iff {room : Int} {indent : Option Int} {l : Layout} :
    Layout.ofJson (indent.elim .null .int) room = .ok l ↔
      IsIndent room indent ∧ l = .ofIndent indent := by
  cases indent with
  | none =>
    rw [Option.elim_none, Layout.ofJson, Except.ok.injEq, and_iff_right isIndent_none, eq_comm]
    rfl
  | some n =>
    have hindent : IsIndent room (some n) ↔ Text.IsRepeatable room n := by simp [IsIndent]
    have hlayout : Layout.ofJson (int n) room = (Text.repetitions n room).map .blanks := rfl
    rw [Option.elim_some, hindent, hlayout]
    cases hcount : Text.repetitions n room with
    | error failure =>
      refine ⟨nofun, fun h => ?_⟩
      cases hcount.symm.trans (Text.repetitions_eq_ok_iff.2 ⟨h.1, rfl⟩)
    | ok count =>
      obtain ⟨hn, rfl⟩ := Text.repetitions_eq_ok_iff.1 hcount
      rw [and_iff_right hn, Except.map, Except.ok.injEq, eq_comm]
      rfl

theorem isBlank_ofIndent (indent : Option Int) : (Layout.ofIndent indent).IsBlank := by
  cases indent with
  | none => trivial
  | some n =>
    intro c hc
    rw [(List.mem_replicate.mp hc).2]
    rfl

theorem writeUnder_eq_ok_iff {layout : Except Failure Layout} {j : Json} {text : String} :
    j.writeUnder layout = .ok text ↔
      ∃ l, layout = .ok l ∧ j.isHuge = false ∧ j.writeIn l = text := by
  unfold writeUnder
  cases layout with
  | error failure => simp [bind, Except.bind]
  | ok l =>
    cases j.isHuge <;>
      simp [bind, Except.bind, pure, Except.pure, throw, throwThe, MonadExceptOf.throw]

end QueryLint.Json
