import QueryLint.Proofs.Grammar.Brackets

/-!
# Notes in brackets

A description is cleaned in three passes, each of which looks for notes of one kind from the left
and puts something in their place. Here is what holds of any such pass, as long as every replacement
uses up an opening bracket, and what exactly the three kinds of notes are.
-/

namespace QueryLint

namespace Text

theorem afterPrefix?_eq_some_iff {beginning cs rest : List Char} :
    afterPrefix? beginning cs = some rest ↔ cs = beginning ++ rest := by
  fun_induction afterPrefix? beginning cs with
  | case1 cs => simp
  | case2 b bs => simp
  | case3 b bs c cs hbc ih => simp [ih, beq_iff_eq.1 hbc]
  | case4 b bs c cs hbc =>
    have hne : c ≠ b := fun h => hbc (by simp [h])
    simp [hne]

/-- A text is cut in one way only before the first of some character. -/
theorem append_cons_inj {a b x y : List Char} {c : Char} (ha : c ∉ a) (hb : c ∉ b) :
    a ++ c :: x = b ++ c :: y ↔ a = b ∧ x = y := by
  constructor
  · intro h
    obtain ⟨more, rfl, hmore⟩ | ⟨more, rfl, hmore⟩ := List.append_eq_append_iff.1 h
    all_goals
      cases more with
      | nil => simpa [eq_comm] using hmore
      | cons d more =>
        obtain ⟨rfl, -⟩ := List.cons.inj hmore
        simp at ha hb
  · rintro ⟨rfl, rfl⟩
    rfl

end Text

namespace Description

section

variable {recognize : List Char → Option (List Char × List Char)}

/-- What is put in place of a note has fewer opening brackets than the note. -/
def Consumes (recognize : List Char → Option (List Char × List Char)) : Prop :=
  ∀ ⦃cs shown rest⦄, recognize cs = some (shown, rest) →
    ∃ note, cs = note ++ rest ∧ shown.count '<' < note.count '<'

theorem Consumes.length_lt (hg : Consumes recognize) {cs shown rest : List Char}
    (h : recognize cs = some (shown, rest)) : rest.length < cs.length := by
  obtain ⟨note, rfl, hcount⟩ := hg h
  have hnote := note.count_le_length (a := '<')
  rw [List.length_append]
  omega

/-- Every replacement shortens what is left to do, so that there is always enough fuel. -/
theorem replaceFrom_congr (hg : Consumes recognize) {fuel fuel' : Nat} {cs : List Char}
    (h : cs.length ≤ fuel) (h' : cs.length ≤ fuel') :
    replaceFrom recognize fuel cs = replaceFrom recognize fuel' cs := by
  induction fuel generalizing fuel' cs with
  | zero =>
    obtain rfl := List.length_eq_zero_iff.1 (Nat.le_zero.1 h)
    simp [replaceFrom]
  | succ fuel ih =>
    cases cs with
    | nil => simp [replaceFrom]
    | cons c cs =>
      obtain ⟨fuel', rfl⟩ : ∃ n, fuel' = n + 1 := Nat.exists_eq_add_one.2 (by simp at h'; omega)
      rw [replaceFrom, replaceFrom]
      cases hgroup : recognize (c :: cs) with
      | none =>
        dsimp only
        rw [ih (Nat.le_of_succ_le_succ h) (Nat.le_of_succ_le_succ h')]
      | some found =>
        obtain ⟨shown, rest⟩ := found
        have hlength := hg.length_lt hgroup
        simp only [List.length_cons] at h h' hlength
        dsimp only
        have hfuel : rest.length ≤ fuel := by omega
        have hfuel' : rest.length ≤ fuel' := by omega
        rw [ih hfuel hfuel']

theorem replace_nil : replace recognize [] = [] := rfl

theorem replace_cons_of_none {c : Char} {cs : List Char} (h : recognize (c :: cs) = none) :
    replace recognize (c :: cs) = c :: replace recognize cs := by
  rw [replace, List.length_cons, replaceFrom, h, replace]

theorem replace_cons_of_some (hg : Consumes recognize) {c : Char} {cs shown rest : List Char}
    (h : recognize (c :: cs) = some (shown, rest)) :
    replace recognize (c :: cs) = shown ++ replace recognize rest := by
  have hlength := hg.length_lt h
  rw [List.length_cons] at hlength
  rw [replace, List.length_cons, replaceFrom, h]
  dsimp only
  rw [replace, replaceFrom_congr hg (by omega) (Nat.le_succ _)]

/-- A pass goes over a text unchanged if no note starts in it, be it one that ends behind it. -/
theorem replace_append_of_none (text rest : List Char)
    (h : ∀ left, left <:+ text → left ≠ [] → recognize (left ++ rest) = none) :
    replace recognize (text ++ rest) = text ++ replace recognize rest := by
  induction text with
  | nil => rfl
  | cons c text ih =>
    have hfirst : recognize (c :: (text ++ rest)) = none :=
      h (c :: text) List.suffix_rfl (List.cons_ne_nil c text)
    rw [List.cons_append, replace_cons_of_none hfirst,
      ih fun left hleft => h left (hleft.trans (List.suffix_cons c text))]
    rfl

theorem count_replace_lt_of_some (hg : Consumes recognize) {c : Char} {cs shown rest : List Char}
    (h : recognize (c :: cs) = some (shown, rest))
    (hrest : (replace recognize rest).count '<' ≤ rest.count '<') :
    (replace recognize (c :: cs)).count '<' < (c :: cs).count '<' := by
  obtain ⟨note, hnote, hcount⟩ := hg h
  rw [replace_cons_of_some hg h, hnote, List.count_append, List.count_append]
  omega

/-- A pass that changes anything loses an opening bracket. -/
theorem replace_eq_self_or_count_lt (hg : Consumes recognize) (cs : List Char) :
    replace recognize cs = cs ∨ (replace recognize cs).count '<' < cs.count '<' := by
  induction hn : cs.length using Nat.strong_induction_on generalizing cs with
  | _ n ih =>
    subst hn
    cases cs with
    | nil => exact .inl rfl
    | cons c cs =>
      cases hfound : recognize (c :: cs) with
      | none =>
        rw [replace_cons_of_none hfound, List.count_cons, List.count_cons]
        refine (ih cs.length (Nat.lt_succ_self _) cs rfl).imp (congrArg (c :: ·)) fun hlt => ?_
        omega
      | some found =>
        obtain ⟨shown, rest⟩ := found
        refine .inr (count_replace_lt_of_some hg hfound ?_)
        obtain heq | hlt := ih rest.length (hg.length_lt hfound) rest rfl
        · rw [heq]
        · exact hlt.le

theorem count_replace_le (hg : Consumes recognize) (cs : List Char) :
    (replace recognize cs).count '<' ≤ cs.count '<' := by
  obtain heq | hlt := replace_eq_self_or_count_lt hg cs
  · rw [heq]
  · exact hlt.le

theorem replace_eq_self_iff (hg : Consumes recognize) {cs : List Char} :
    replace recognize cs = cs ↔ ∀ left, left <:+ cs → left ≠ [] → recognize left = none := by
  constructor
  · intro h
    induction cs with
    | nil => exact fun left hleft hne => absurd (List.suffix_nil.1 hleft) hne
    | cons c cs ih =>
      have hfirst : recognize (c :: cs) = none := by
        cases hfound : recognize (c :: cs) with
        | none => rfl
        | some found =>
          have hlt := count_replace_lt_of_some hg hfound (count_replace_le hg _)
          rw [h] at hlt
          exact absurd hlt (Nat.lt_irrefl _)
      rw [replace_cons_of_none hfirst] at h
      intro left hleft hne
      obtain rfl | hleft := List.suffix_cons_iff.1 hleft
      · exact hfirst
      · exact ih (List.cons.inj h).2 left hleft hne
  · intro h
    have hself := @replace_append_of_none recognize cs []
    simp only [List.append_nil] at hself
    rw [hself h, replace_nil, List.append_nil]

end

open Text (isBlank isWordChar afterPrefix? afterPrefix?_eq_some_iff)

/-- At least one character, and none that a word cannot have. -/
structure IsWord (w : List Char) : Prop where
  ne_nil : w ≠ []
  isWordChar : ∀ c ∈ w, isWordChar c = true

theorem not_mem_of_forall_isWordChar {w : List Char} (hw : ∀ c ∈ w, isWordChar c = true) {c : Char}
    (h : isWordChar c = false) : c ∉ w := by
  intro hc
  rw [hw c hc] at h
  cases h

/-- A text in brackets. -/
def note (inner : List Char) : List Char := '<' :: (inner ++ ['>'])

theorem note_append (inner rest : List Char) :
    note inner ++ rest = '<' :: (inner ++ '>' :: rest) := by
  rw [note, List.cons_append, List.append_assoc]
  rfl

/-- Words with a dot after each of them. -/
def dotted (path : List (List Char)) : List Char := path.flatMap (· ++ ['.'])

def classOpening : List Char := "class '".toList

/-- What stands in the brackets for a class: its path and its name. -/
def classInner (path : List (List Char)) (name : List Char) : List Char :=
  classOpening ++ (dotted path ++ name ++ ['\''])

def tokenOpening : List Char := "Token token_type: TokenType.".toList

def textMark : List Char := ", text: ".toList

def lineMark : List Char := ", line: ".toList

/-- What stands in the brackets for a token: its type, its text and what follows the text. -/
def tokenInner (type text tail : List Char) : List Char :=
  tokenOpening ++ (type ++ (textMark ++ (text ++ (lineMark ++ tail))))

/-- What is put in place of a token. -/
def describe (type text : List Char) : List Char :=
  if type = "SENTINEL".toList ∨ text = [] then "end of input".toList
  else '\'' :: (text ++ ['\''])

theorem dotted_cons (w : List Char) (path : List (List Char)) (rest : List Char) :
    dotted (w :: path) ++ rest = w ++ '.' :: (dotted path ++ rest) := by
  simp [dotted]

theorem IsWord.dot_not_mem {w : List Char} (h : IsWord w) : '.' ∉ w :=
  not_mem_of_forall_isWordChar h.isWordChar (by decide)

theorem eq_nil_of_dot_not_mem {cs name : List Char} {path : List (List Char)}
    (h : cs = dotted path ++ name) (hdot : '.' ∉ cs) : path = [] := by
  cases path with
  | nil => rfl
  | cons w path =>
    rw [h, dotted_cons] at hdot
    simp at hdot

/-- Up to the first dot stands the first word of the path. -/
theorem append_dot_eq_dotted_iff {w cs name : List Char} (hdot : '.' ∉ w) :
    (∃ path, (∀ w ∈ path, IsWord w) ∧ IsWord name ∧ w ++ '.' :: cs = dotted path ++ name) ↔
      w ≠ [] ∧ (∀ c ∈ w, isWordChar c = true) ∧
        ∃ path, (∀ w ∈ path, IsWord w) ∧ IsWord name ∧ cs = dotted path ++ name := by
  constructor
  · rintro ⟨path, hpath, hname, heq⟩
    cases path with
    | nil =>
      have hmem : '.' ∈ dotted [] ++ name := heq ▸ List.mem_append_right w List.mem_cons_self
      exact absurd hmem hname.dot_not_mem
    | cons w' path =>
      obtain ⟨hw, htail⟩ := List.forall_mem_cons.1 hpath
      rw [dotted_cons] at heq
      obtain ⟨rfl, hcs⟩ := (Text.append_cons_inj hdot hw.dot_not_mem).1 heq
      exact ⟨hw.ne_nil, hw.isWordChar, path, htail, hname, hcs⟩
  · rintro ⟨hne, hw, path, hpath, hname, rfl⟩
    exact ⟨w :: path, List.forall_mem_cons.2 ⟨⟨hne, hw⟩, hpath⟩, hname, (dotted_cons _ _ _).symm⟩

theorem lastWord?_eq_some_iff {word cs name : List Char}
    (hword : ∀ c ∈ word, isWordChar c = true) (hcs : ∀ c ∈ cs, (isWordChar c || c == '.') = true) :
    lastWord? word cs = some name ↔ ∃ path, (∀ w ∈ path, IsWord w) ∧ IsWord name ∧
      word.reverse ++ cs = dotted path ++ name := by
  induction cs generalizing word with
  | nil =>
    have hreverse : ∀ c ∈ word.reverse, isWordChar c = true :=
      fun c hc => hword c (List.mem_reverse.1 hc)
    have hdot := not_mem_of_forall_isWordChar hreverse (by decide : isWordChar '.' = false)
    rw [lastWord?, List.append_nil]
    constructor
    · intro h
      split at h
      · cases h
      next hne =>
        obtain rfl := Option.some.inj h
        exact ⟨[], List.forall_mem_nil _, ⟨by simpa using hne, hreverse⟩, rfl⟩
    · rintro ⟨path, -, hname, heq⟩
      obtain rfl := eq_nil_of_dot_not_mem heq hdot
      obtain rfl : word.reverse = name := heq
      rw [if_neg (by simpa using hname.ne_nil)]
  | cons c cs ih =>
    obtain ⟨hc, hcs'⟩ := List.forall_mem_cons.1 hcs
    rw [lastWord?]
    by_cases hdot : c = '.'
    · subst hdot
      have hreverse : ∀ c ∈ word.reverse, isWordChar c = true :=
        fun c hc => hword c (List.mem_reverse.1 hc)
      rw [if_pos rfl, append_dot_eq_dotted_iff
        (not_mem_of_forall_isWordChar hreverse (by decide : isWordChar '.' = false))]
      have hrest := @ih [] (List.forall_mem_nil _) hcs'
      rw [List.reverse_nil, List.nil_append] at hrest
      split
      next hempty => simp [List.isEmpty_iff.1 hempty]
      next hne => rw [hrest, and_iff_right (by simpa using hne), and_iff_right hreverse]
    · have hc' : isWordChar c = true := by simpa [hdot] using hc
      have hrest := @ih (c :: word) (List.forall_mem_cons.2 ⟨hc', hword⟩) hcs'
      rw [List.reverse_cons, List.append_assoc] at hrest
      rw [if_neg hdot]
      exact hrest

theorem isDotted_of_mem {path : List (List Char)} {name : List Char} (hpath : ∀ w ∈ path, IsWord w)
    (hname : IsWord name) : ∀ c ∈ dotted path ++ name, (isWordChar c || c == '.') = true := by
  intro c hc
  obtain hc | hc := List.mem_append.1 hc
  · obtain ⟨w, hw, hc⟩ := List.mem_flatMap.1 hc
    obtain hc | hc := List.mem_append.1 hc
    · rw [(hpath w hw).isWordChar c hc, Bool.true_or]
    · rw [List.mem_singleton.1 hc, beq_self_eq_true, Bool.or_true]
  · rw [hname.isWordChar c hc, Bool.true_or]

theorem class?_eq_some_iff {cs shown rest : List Char} :
    class? cs = some (shown, rest) ↔ ∃ path, (∀ w ∈ path, IsWord w) ∧ IsWord shown ∧
      cs = note (classInner path shown) ++ rest := by
  have hstop : ¬ (isWordChar '\'' || '\'' == '.') = true := by decide
  have hopen : "<class '".toList = '<' :: classOpening := rfl
  have hclose : "'>".toList = ['\'', '>'] := rfl
  simp only [class?, Option.bind_eq_bind, Option.bind_eq_some_iff, afterPrefix?_eq_some_iff,
    Option.some.injEq, Prod.mk.injEq, hopen, hclose]
  constructor
  · rintro ⟨inner, rfl, name, hname, rest', hrest, rfl, rfl⟩
    obtain ⟨path, hpath, hword, heq⟩ := (lastWord?_eq_some_iff (List.forall_mem_nil _)
      fun c => List.mem_takeWhile_imp).1 hname
    refine ⟨path, hpath, hword, ?_⟩
    have hpath' : inner.takeWhile (fun c => isWordChar c || c == '.') = dotted path ++ name := heq
    rw [← List.takeWhile_append_dropWhile (p := fun c => isWordChar c || c == '.') (l := inner),
      hrest, hpath', note_append, classInner]
    simp only [List.append_assoc, List.cons_append, List.nil_append]
  · rintro ⟨path, hpath, hword, rfl⟩
    have hpass := isDotted_of_mem hpath hword
    refine ⟨dotted path ++ shown ++ '\'' :: '>' :: rest, ?_, shown, ?_, rest, ?_, rfl, rfl⟩
    · rw [note_append, classInner]
      simp only [List.append_assoc, List.cons_append, List.nil_append]
    · rw [List.takeWhile_append_of_pos hpass, List.takeWhile_cons_of_neg
        (p := fun c => isWordChar c || c == '.') hstop, List.append_nil]
      exact (lastWord?_eq_some_iff (List.forall_mem_nil _) hpass).2 ⟨path, hpath, hword, rfl⟩
    · rw [List.dropWhile_append_of_pos hpass, List.dropWhile_cons_of_neg
        (p := fun c => isWordChar c || c == '.') hstop]
      rfl

theorem tokenEnd?_eq_some_iff {cs rest : List Char} :
    tokenEnd? cs = some rest ↔ ∃ tail, '>' ∉ tail ∧ cs = lineMark ++ (tail ++ '>' :: rest) := by
  have hmark : ", line: ".toList = lineMark := rfl
  simp only [tokenEnd?, Option.bind_eq_bind, Option.bind_eq_some_iff, afterPrefix?_eq_some_iff,
    hmark]
  constructor
  · rintro ⟨after, rfl, h⟩
    split at h
    next c rest' hdrop =>
      cases h
      have hc := List.head?_dropWhile_not (· != '>') after
      rw [hdrop] at hc
      obtain rfl : c = '>' := by simpa using hc
      have hnot : '>' ∉ after.takeWhile (· != '>') := fun hmem => by
        simpa using List.mem_takeWhile_imp hmem
      refine ⟨after.takeWhile (· != '>'), hnot, ?_⟩
      rw [← hdrop, List.takeWhile_append_dropWhile]
    next => cases h
  · rintro ⟨tail, htail, rfl⟩
    refine ⟨_, rfl, ?_⟩
    rw [dropWhile_ne_close htail]

/-- Two marks never overlap. -/
theorem lineMark_prefix_of_append {text rest : List Char}
    (h : lineMark <+: text ++ (lineMark ++ rest)) (hne : text ≠ []) : lineMark <+: text := by
  obtain ⟨more, hmore⟩ := h
  obtain ⟨after, hmark, hafter⟩ | ⟨after, htext, -⟩ := List.append_eq_append_iff.1 hmore.symm
  · -- the second mark would start inside the first one, which has a comma only in front
    cases after with
    | nil => exact ⟨[], by rw [hmark, List.append_nil, List.append_nil]⟩
    | cons c after =>
      have hcomma : ',' ∈ lineMark.drop text.length := by
        rw [hmark, List.drop_left, ← (List.cons.inj hafter).1]
        exact List.mem_cons_self
      obtain ⟨n, hn⟩ : ∃ n, text.length = n + 1 :=
        Nat.exists_eq_add_one.2 (List.length_pos_iff.2 hne)
      rw [hn, Nat.add_comm, ← List.drop_drop] at hcomma
      exact absurd (List.mem_of_mem_drop hcomma) (by decide)
  · exact ⟨after, htext.symm⟩

theorem isSome_tokenEnd? {after : List Char} (h : '>' ∈ after) :
    ∃ rest, tokenEnd? (lineMark ++ after) = some rest := by
  obtain ⟨tail, rest, rfl, htail⟩ := List.eq_append_cons_of_mem h
  exact ⟨rest, tokenEnd?_eq_some_iff.2 ⟨tail, htail, rfl⟩⟩

/-- A text with the end of its token behind it, and none before. -/
def IsTokenText (text rest cs : List Char) : Prop :=
  '\n' ∉ text ∧ ¬ lineMark <:+: text ∧
    ∃ tail, '>' ∉ tail ∧ cs = text ++ (lineMark ++ (tail ++ '>' :: rest))

theorem isTokenText_nil_iff {cs rest : List Char} :
    IsTokenText [] rest cs ↔ tokenEnd? cs = some rest := by
  have hempty : ¬ lineMark <:+: [] := by decide
  rw [IsTokenText, tokenEnd?_eq_some_iff, and_iff_right List.not_mem_nil, and_iff_right hempty]
  rfl

theorem IsTokenText.eq_nil {text rest cs rest' : List Char} (h : IsTokenText text rest cs)
    (hend : tokenEnd? cs = some rest') : text = [] := by
  obtain ⟨-, hmark, tail, -, heq⟩ := h
  obtain ⟨tail', -, heq'⟩ := tokenEnd?_eq_some_iff.1 hend
  by_contra hne
  have hprefix : lineMark <+: text ++ (lineMark ++ (tail ++ '>' :: rest)) :=
    ⟨_, heq'.symm.trans heq⟩
  exact hmark (lineMark_prefix_of_append hprefix hne).isInfix

theorem isTokenText_cons_iff {c d : Char} {text rest cs : List Char}
    (hend : tokenEnd? (c :: cs) = none) :
    IsTokenText (d :: text) rest (c :: cs) ↔ d = c ∧ c ≠ '\n' ∧ IsTokenText text rest cs := by
  constructor
  · rintro ⟨hline, hmark, tail, htail, heq⟩
    obtain ⟨rfl, rfl⟩ := List.cons.inj heq
    obtain ⟨hc, hline⟩ := List.ne_and_not_mem_of_not_mem_cons hline
    exact ⟨rfl, hc.symm, hline, fun h => hmark (List.infix_cons h), tail, htail, rfl⟩
  · rintro ⟨rfl, hc, hline, hmark, tail, htail, rfl⟩
    refine ⟨List.not_mem_cons_of_ne_of_not_mem hc.symm hline, fun hinfix => ?_, tail, htail, rfl⟩
    obtain ⟨more, hmore⟩ | hinfix := List.infix_cons_iff.1 hinfix
    · -- the end of the token would already be here
      have hafter : '>' ∈ more ++ (lineMark ++ (tail ++ '>' :: rest)) := by simp
      obtain ⟨rest', hrest⟩ := isSome_tokenEnd? hafter
      rw [← List.append_assoc, hmore, List.cons_append, hend] at hrest
      cases hrest
    · exact hmark hinfix

theorem tokenText?_eq_some_iff {cs text rest : List Char} :
    tokenText? cs = some (text, rest) ↔ IsTokenText text rest cs := by
  induction cs generalizing text with
  | nil =>
    rw [tokenText?]
    refine iff_of_false (fun h => nomatch h) ?_
    rintro ⟨-, -, tail, -, heq⟩
    have hlength := congrArg List.length heq
    simp at hlength
  | cons c cs ih =>
    rw [tokenText?]
    cases hend : tokenEnd? (c :: cs) with
    | some rest' =>
      constructor
      · intro h
        cases h
        exact isTokenText_nil_iff.2 hend
      · intro h
        obtain rfl := h.eq_nil hend
        rw [isTokenText_nil_iff, hend] at h
        cases h
        rfl
    | none =>
      cases text with
      | nil =>
        rw [isTokenText_nil_iff, hend]
        dsimp only
        split <;> simp
      | cons d text =>
        rw [isTokenText_cons_iff hend]
        dsimp only
        split
        next hc => simp [hc]
        next hc =>
          rw [Option.map_eq_some_iff, and_iff_right hc]
          constructor
          · rintro ⟨⟨text', rest'⟩, h, heq⟩
            cases heq
            exact ⟨rfl, ih.1 h⟩
          · rintro ⟨rfl, h⟩
            exact ⟨(text, rest), ih.2 h, rfl⟩

/-- Behind the type of a token everything depends on its text. -/
theorem token?_of_type {type : List Char} (htype : IsWord type) (after : List Char) :
    token? ('<' :: (tokenOpening ++ (type ++ (textMark ++ after)))) =
      (tokenText? after).map fun found => (describe type found.1, found.2) := by
  have hopen : "<Token token_type: TokenType.".toList = '<' :: tokenOpening := rfl
  have hmark : ", text: ".toList = textMark := rfl
  have hmark' : textMark = ',' :: " text: ".toList := rfl
  have htake : (type ++ (textMark ++ after)).takeWhile isWordChar = type := by
    rw [List.takeWhile_append_of_pos htype.isWordChar, hmark', List.cons_append,
      List.takeWhile_cons_of_neg (by decide), List.append_nil]
  have hdrop : (type ++ (textMark ++ after)).dropWhile isWordChar = textMark ++ after := by
    rw [List.dropWhile_append_of_pos htype.isWordChar, hmark', List.cons_append,
      List.dropWhile_cons_of_neg (by decide)]
  have hstart : afterPrefix? "<Token token_type: TokenType.".toList
      ('<' :: (tokenOpening ++ (type ++ (textMark ++ after)))) =
        some (type ++ (textMark ++ after)) :=
    afterPrefix?_eq_some_iff.2 (by rw [hopen, List.cons_append])
  have htext : afterPrefix? ", text: ".toList (textMark ++ after) = some after :=
    afterPrefix?_eq_some_iff.2 (by rw [hmark])
  have hne : type.isEmpty = false := by simpa using htype.ne_nil
  rw [token?, hstart]
  simp only [Option.bind_eq_bind, Option.bind_some, htake, hdrop, htext, hne, Bool.false_eq_true,
    if_false]
  cases tokenText? after with
  | none => rfl
  | some found =>
    simp only [Option.bind_some, Option.map_some, describe, Bool.or_eq_true, decide_eq_true_eq,
      List.isEmpty_iff]
    split <;> rfl

theorem exists_type_of_token? {cs : List Char} {found : List Char × List Char}
    (h : token? cs = some found) : ∃ type after, IsWord type ∧
      cs = '<' :: (tokenOpening ++ (type ++ (textMark ++ after))) := by
  have hopen : "<Token token_type: TokenType.".toList = '<' :: tokenOpening := rfl
  have hmark : ", text: ".toList = textMark := rfl
  rw [token?, Option.bind_eq_bind, Option.bind_eq_some_iff] at h
  obtain ⟨inner, hinner, h⟩ := h
  dsimp only at h
  split at h
  · cases h
  next hne =>
    obtain ⟨after, hafter, -⟩ := Option.bind_eq_some_iff.1 h
    rw [afterPrefix?_eq_some_iff] at hinner hafter
    refine ⟨inner.takeWhile isWordChar, after,
      ⟨by simpa using hne, fun c => List.mem_takeWhile_imp⟩, ?_⟩
    rw [hinner, hopen, ← hmark, ← hafter, List.takeWhile_append_dropWhile, List.cons_append]

theorem token?_eq_some_iff {cs shown rest : List Char} :
    token? cs = some (shown, rest) ↔ ∃ type text tail, IsWord type ∧ '\n' ∉ text ∧
      ¬ lineMark <:+: text ∧ '>' ∉ tail ∧ shown = describe type text ∧
      cs = note (tokenInner type text tail) ++ rest := by
  have hnote : ∀ type text tail, note (tokenInner type text tail) ++ rest = '<' ::
      (tokenOpening ++ (type ++ (textMark ++ (text ++ (lineMark ++ (tail ++ '>' :: rest)))))) := by
    intro type text tail
    simp only [note_append, tokenInner, List.append_assoc]
  constructor
  · intro h
    obtain ⟨type, after, htype, rfl⟩ := exists_type_of_token? h
    rw [token?_of_type htype, Option.map_eq_some_iff] at h
    obtain ⟨⟨text, rest'⟩, htext, heq⟩ := h
    cases heq
    obtain ⟨hline, hmark, tail, htail, rfl⟩ := tokenText?_eq_some_iff.1 htext
    exact ⟨type, text, tail, htype, hline, hmark, htail, rfl, (hnote type text tail).symm⟩
  · rintro ⟨type, text, tail, htype, hline, hmark, htail, rfl, rfl⟩
    rw [hnote, token?_of_type htype,
      tokenText?_eq_some_iff.2 ⟨hline, hmark, tail, htail, rfl⟩, Option.map_some]

theorem count_note (inner : List Char) : (note inner).count '<' = inner.count '<' + 1 := by
  rw [note, List.count_cons_self, List.count_append]
  rfl

theorem count_describe_le (type text : List Char) :
    (describe type text).count '<' ≤ text.count '<' := by
  unfold describe
  split
  · have hnone : "end of input".toList.count '<' = 0 := by decide
    rw [hnone]
    exact Nat.zero_le _
  · simp

theorem consumes_class? : Consumes class? := by
  intro cs shown rest h
  obtain ⟨path, -, hname, rfl⟩ := class?_eq_some_iff.1 h
  refine ⟨note (classInner path shown), rfl, ?_⟩
  rw [count_note, List.count_eq_zero_of_not_mem
    (not_mem_of_forall_isWordChar hname.isWordChar (by decide))]
  exact Nat.succ_pos _

theorem consumes_token? : Consumes token? := by
  intro cs shown rest h
  obtain ⟨type, text, tail, -, -, -, -, rfl, rfl⟩ := token?_eq_some_iff.1 h
  refine ⟨note (tokenInner type text tail), rfl, ?_⟩
  have hle := count_describe_le type text
  simp only [count_note, tokenInner, List.count_append]
  omega

theorem consumes_group? : Consumes group? := by
  intro cs shown rest h
  obtain ⟨rfl, blanks, inner, -, -, -, rfl⟩ := group?_eq_some_iff.1 h
  refine ⟨blanks ++ note inner, by rw [List.append_assoc, note_append], ?_⟩
  rw [List.count_nil, List.count_append, count_note]
  omega

end Description

end QueryLint
