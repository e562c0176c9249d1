import QueryLint.Proofs.Grammar.Segments

/-!
# Texts of tokens in descriptions

A token that the grammar names in a description is to be shown by its text in quotes. The last pass
does not know which brackets have come with such a text, and takes what looks like a note out of it.
So a text is kept exactly if it has no closing bracket after an opening one: `>=` and `->` are kept,
`<>` is not.
-/

namespace QueryLint

namespace Text

theorem trimLeft_eq_self {cs : List Char} (hstart : ∀ c ∈ cs.head?, isBlank c = false) :
    trimLeft cs = cs := by
  cases cs with
  | nil => rfl
  | cons c cs => exact List.dropWhile_cons_of_neg (by simpa using hstart c rfl)

theorem trim_eq_self {cs : List Char} (hstart : ∀ c ∈ cs.head?, isBlank c = false)
    (hend : ∀ c ∈ cs.getLast?, isBlank c = false) : trim cs = cs := by
  have hright : trimRight cs = cs := by
    refine List.rdropWhile_eq_self_iff.2 fun hne => ?_
    rw [hend _ (List.getLast?_eq_some_getLast hne)]
    decide
  rw [trim, trimLeft_eq_self hstart, hright]

/-- Trimming takes nothing from the left of a text that does not start with a blank. -/
theorem trim_prefix {cs : List Char} (hstart : ∀ c ∈ cs.head?, isBlank c = false) :
    trim cs <+: cs := by
  rw [trim, trimLeft_eq_self hstart]
  exact List.rdropWhile_prefix isBlank cs

end Text

namespace Description

open Text (isBlank isWordChar)

def isBracket (c : Char) : Bool := c == '<' || c == '>'

theorem Bare.filter_isBracket {cs : List Char} (h : Bare cs) : cs.filter isBracket = [] := by
  refine List.filter_eq_nil_iff.2 fun c hc => ?_
  have hopen : c ≠ '<' := fun heq => h.open_not_mem (heq ▸ hc)
  have hclose : c ≠ '>' := fun heq => h.close_not_mem (heq ▸ hc)
  simp [isBracket, hopen, hclose]

/-- An opening bracket with a closing one somewhere after it. -/
def HasPair (cs : List Char) : Prop := List.Sublist ['<', '>'] cs

instance (cs : List Char) : Decidable (HasPair cs) :=
  inferInstanceAs (Decidable (List.Sublist ['<', '>'] cs))

theorem hasPair_iff_filter (cs : List Char) : HasPair cs ↔ HasPair (cs.filter isBracket) :=
  ⟨fun h => h.filter isBracket, fun h => h.trans List.filter_sublist⟩

/-- Texts without brackets around another one do not matter. -/
theorem hasPair_append_iff {before after : List Char} (hbefore : Bare before) (hafter : Bare after)
    (cs : List Char) : HasPair (before ++ (cs ++ after)) ↔ HasPair cs := by
  rw [hasPair_iff_filter, List.filter_append, List.filter_append, hbefore.filter_isBracket,
    hafter.filter_isBracket, List.nil_append, List.append_nil, ← hasPair_iff_filter]

/-- The last opening bracket that is closed starts a group. -/
theorem exists_group?_of_hasPair {cs : List Char} (h : HasPair cs) :
    ∃ left, left <:+ cs ∧ left ≠ [] ∧ group? left ≠ none := by
  induction cs with
  | nil => cases h
  | cons c cs ih =>
    by_cases htail : HasPair cs
    · obtain ⟨left, hleft, hgroup⟩ := ih htail
      exact ⟨left, hleft.trans (List.suffix_cons c cs), hgroup⟩
    · cases h with
      | cons _ h => exact absurd h htail
      | cons_cons _ h =>
        obtain ⟨inner, rest, rfl, hclose⟩ :=
          List.eq_append_cons_of_mem (List.singleton_sublist.1 h)
        have hopen : '<' ∉ inner := fun hmem => htail <|
          (List.singleton_sublist.2 hmem).append ((List.nil_sublist rest).cons_cons '>')
        have hfound : group? ('<' :: (inner ++ '>' :: rest)) = some ([], rest) :=
          group?_eq_some_iff.2 ⟨rfl, [], inner, List.forall_mem_nil _, hopen, hclose, rfl⟩
        exact ⟨_, List.suffix_rfl, List.cons_ne_nil _ _, by simp [hfound]⟩

/-- The last pass leaves a text as it is exactly if it has no such pair. -/
theorem replace_group?_eq_self_iff {cs : List Char} :
    replace group? cs = cs ↔ ¬ HasPair cs := by
  rw [replace_eq_self_iff consumes_group?]
  constructor
  · intro h hpair
    obtain ⟨left, hleft, hne, hgroup⟩ := exists_group?_of_hasPair hpair
    exact hgroup (h left hleft hne)
  · intro h left hleft _
    refine Option.eq_none_iff_forall_ne_some.2 fun ⟨shown, rest⟩ hfound => h ?_
    obtain ⟨-, blanks, inner, -, -, -, rfl⟩ := group?_eq_some_iff.1 hfound
    have hpair : HasPair ('<' :: (inner ++ '>' :: rest)) :=
      (List.singleton_sublist.2 (by simp : '>' ∈ inner ++ '>' :: rest)).cons_cons '<'
    exact hpair.trans ((List.sublist_append_right blanks _).trans hleft.sublist)

/-- A token as the grammar writes it: where it stands is given in numbers, and it comes without
comments. -/
structure TokenRecord where
  type : List Char
  text : List Char
  line : Int
  column : Int
  start : Int
  stop : Int
  isWord : IsWord type

namespace TokenRecord

def tail (t : TokenRecord) : List Char :=
  s!"{t.line}, col: {t.column}, start: {t.start}, end: {t.stop}, comments: []".toList

def written (t : TokenRecord) : List Char := note (tokenInner t.type t.text t.tail)

theorem bare_digits (n : Nat) : Bare (toString n).toList := by
  have hdigit : ∀ c ∈ (toString n).toList, c.isDigit = true := by
    intro c hc
    have hc' : c ∈ Nat.toDigits 10 n := by simpa [toString, Nat.repr] using hc
    exact Nat.isDigit_of_mem_toDigits (by decide) (by decide) hc'
  exact ⟨fun h => absurd (hdigit _ h) (by decide), fun h => absurd (hdigit _ h) (by decide)⟩

theorem bare_toString (n : Int) : Bare (toString n).toList := by
  cases n with
  | ofNat n => exact bare_digits n
  | negSucc n =>
    have hsign : (toString (Int.negSucc n)).toList = ['-'] ++ (toString (n + 1)).toList :=
      String.toList_append
    rw [hsign]
    exact Bare.append ⟨by decide, by decide⟩ (bare_digits (n + 1))

theorem bare_tail (t : TokenRecord) : Bare t.tail := by
  have hcolumn : Bare ", col: ".toList := ⟨by decide, by decide⟩
  have hstart : Bare ", start: ".toList := ⟨by decide, by decide⟩
  have hend : Bare ", end: ".toList := ⟨by decide, by decide⟩
  have hcomments : Bare ", comments: []".toList := ⟨by decide, by decide⟩
  have htail : t.tail = (toString t.line).toList ++ (", col: ".toList ++
      ((toString t.column).toList ++ (", start: ".toList ++ ((toString t.start).toList ++
        (", end: ".toList ++ ((toString t.stop).toList ++ ", comments: []".toList)))))) := by
    rw [tail]
    simp only [String.toList_append, List.append_assoc]
    rfl
  rw [htail]
  exact (bare_toString _).append <| hcolumn.append <| (bare_toString _).append <| hstart.append <|
    (bare_toString _).append <| hend.append <| (bare_toString _).append hcomments

theorem class?_written_eq_none (t : TokenRecord) (after : List Char) :
    class? (t.written ++ after) = none := by
  refine Option.eq_none_iff_forall_ne_some.2 fun ⟨shown, rest⟩ hfound => ?_
  obtain ⟨path, -, -, heq⟩ := class?_eq_some_iff.1 hfound
  rw [written, note_append, note_append, List.cons_inj_right, tokenInner, classInner,
    List.append_assoc, List.append_assoc] at heq
  exact tokenOpening_append_ne _ _ heq

/-- No class starts in the text of a token if no bracket is closed there: before the bracket that
closes the token there is a comma, and a class has none. -/
theorem class?_text_eq_none {left tail : List Char} (hpair : ¬ HasPair left) (hne : left ≠ [])
    (htail : '>' ∉ tail) (after : List Char) :
    class? (left ++ (lineMark ++ (tail ++ '>' :: after))) = none := by
  refine Option.eq_none_iff_forall_ne_some.2 fun ⟨shown, rest⟩ hfound => ?_
  obtain ⟨path, hpath, hname, heq⟩ := class?_eq_some_iff.1 hfound
  cases left with
  | nil => exact hne rfl
  | cons c left =>
    rw [note_append, List.cons_append] at heq
    obtain ⟨rfl, hbody⟩ := List.cons.inj heq
    have hleft : '>' ∉ left :=
      fun hmem => hpair ((List.singleton_sublist.2 hmem).cons_cons '<')
    have hclose : '>' ∉ left ++ (lineMark ++ tail) :=
      List.not_mem_append hleft (List.not_mem_append (by decide) htail)
    have hclose' : '>' ∉ classInner path shown :=
      not_mem_classInner hpath hname (by decide) (by decide) (by decide)
    have hsame : left ++ (lineMark ++ tail) ++ '>' :: after =
        classInner path shown ++ '>' :: rest := by
      rw [← hbody, List.append_assoc, List.append_assoc]
    have hinner := ((Text.append_cons_inj hclose hclose').1 hsame).1
    have hcomma : ',' ∈ classInner path shown := by
      rw [← hinner]
      exact List.mem_append_right _ (List.mem_append_left _ (by decide))
    exact not_mem_classInner hpath hname (by decide) (by decide) (by decide) hcomma

theorem replace_class?_written {before after : List Char} (hbefore : Bare before)
    (hafter : Bare after) {t : TokenRecord} (hpair : ¬ HasPair t.text) :
    replace class? (before ++ (t.written ++ after)) = before ++ (t.written ++ after) := by
  let front := tokenOpening ++ (t.type ++ textMark)
  let back := lineMark ++ (t.tail ++ '>' :: after)
  have hwritten : t.written ++ after = '<' :: (front ++ (t.text ++ back)) := by
    simp only [written, note_append, tokenInner, front, back, List.append_assoc]
  have hfirst := t.class?_written_eq_none after
  have hfront : '<' ∉ front :=
    List.not_mem_append (by decide)
      (List.not_mem_append t.isWord.bare.open_not_mem (by decide))
  have hback : '<' ∉ back := by
    have htail := t.bare_tail.open_not_mem
    refine List.not_mem_append (by decide) (List.not_mem_append htail ?_)
    simp [hafter.open_not_mem]
  have htext : replace class? (t.text ++ back) = t.text ++ replace class? back := by
    refine replace_append_of_none _ _ fun left hleft hne => ?_
    have hpair' : ¬ HasPair left := fun h => hpair (h.trans hleft.sublist)
    exact class?_text_eq_none hpair' hne t.bare_tail.close_not_mem after
  rw [startsAtOpen_class?.puts hbefore.open_not_mem]
  rw [hwritten] at hfirst ⊢
  rw [replace_cons_of_none hfirst, startsAtOpen_class?.puts hfront, htext,
    startsAtOpen_class?.replace_eq_self hback]

theorem replace_token?_written {before after : List Char} (hbefore : Bare before)
    (hafter : Bare after) {t : TokenRecord} (hline : '\n' ∉ t.text)
    (hmark : ¬ lineMark <:+: t.text) :
    replace token? (before ++ (t.written ++ after)) =
      before ++ (describe t.type t.text ++ after) := by
  have htoken : Puts token? t.written (describe t.type t.text) :=
    consumes_token?.puts fun rest => token?_eq_some_iff.2
      ⟨t.type, t.text, t.tail, t.isWord, hline, hmark, t.bare_tail.close_not_mem, rfl, rfl⟩
  rw [startsAtOpen_token?.puts hbefore.open_not_mem, htoken,
    startsAtOpen_token?.replace_eq_self hafter.open_not_mem]

/-- What the text of a token is to look like in a description. -/
def quoted (t : TokenRecord) : List Char := '\'' :: (t.text ++ ['\''])

theorem describe_eq_quoted {t : TokenRecord} (htype : t.type ≠ "SENTINEL".toList)
    (htext : t.text ≠ []) : describe t.type t.text = t.quoted := by
  rw [describe, if_neg (by simp only [htype, htext, or_self, not_false_iff]), quoted]

theorem hasPair_quoted_iff (t : TokenRecord) : HasPair t.quoted ↔ HasPair t.text := by
  have hquote : Bare ['\''] := ⟨by decide, by decide⟩
  exact hasPair_append_iff hquote hquote t.text

theorem count_written (t : TokenRecord) : t.written.count '<' = t.text.count '<' + 1 := by
  have hopening : tokenOpening.count '<' = 0 := by decide
  have htextMark : textMark.count '<' = 0 := by decide
  have hlineMark : lineMark.count '<' = 0 := by decide
  simp only [written, count_note, tokenInner, List.count_append, hopening, htextMark, hlineMark,
    List.count_eq_zero_of_not_mem t.isWord.bare.open_not_mem,
    List.count_eq_zero_of_not_mem t.bare_tail.open_not_mem]
  omega

theorem count_quoted (t : TokenRecord) : t.quoted.count '<' = t.text.count '<' := by
  simp [quoted]

end TokenRecord

theorem not_isBlank_of_mem_head? {before : List Char} {d : Char} (rest : List Char)
    (hstart : ∀ c ∈ before.head?, isBlank c = false) (hd : isBlank d = false) :
    ∀ c ∈ (before ++ d :: rest).head?, isBlank c = false := by
  intro c hc
  rw [List.head?_append] at hc
  obtain hc | ⟨-, hc⟩ := Option.or_eq_some_iff.1 hc
  · exact hstart c hc
  · cases hc
    exact hd

theorem trim_around_quoted {before after : List Char}
    (hstart : ∀ c ∈ before.head?, isBlank c = false)
    (hend : ∀ c ∈ after.getLast?, isBlank c = false) (t : TokenRecord) :
    Text.trim (before ++ (t.quoted ++ after)) = before ++ (t.quoted ++ after) := by
  refine Text.trim_eq_self (not_isBlank_of_mem_head? _ hstart (by decide)) fun c hc => ?_
  rw [← List.append_assoc, List.getLast?_append] at hc
  obtain hc | ⟨-, hc⟩ := Option.or_eq_some_iff.1 hc
  · exact hend c hc
  · rw [TokenRecord.quoted, ← List.cons_append, ← List.append_assoc, List.getLast?_concat] at hc
    cases hc
    decide

/-- Passes that no opening bracket is lost in have changed nothing. -/
theorem trim_eq_of_count_le {cs shown : List Char}
    (h : Text.trim (replace group? (replace token? cs)) = shown)
    (hcount : cs.count '<' ≤ shown.count '<') : Text.trim cs = shown := by
  have htrim := (Text.trim_sublist (replace group? (replace token? cs))).count_le '<'
  have hgroup := count_replace_le consumes_group? (replace token? cs)
  rw [h] at htrim
  have htoken : replace token? cs = cs :=
    (replace_eq_self_or_count_lt consumes_token? cs).resolve_right (by omega)
  rw [htoken] at h htrim
  have hgroup' : replace group? cs = cs :=
    (replace_eq_self_or_count_lt consumes_group? cs).resolve_right (by omega)
  rwa [hgroup'] at h

/-- If the text of a token comes out in quotes, no class was found in it. For each replacement costs
an opening bracket, there is only that of the token to spare, and it has to go. -/
theorem replace_class?_eq_self_of_cleanChars {before after : List Char} {t : TokenRecord}
    (hbefore : Bare before) (hstart : ∀ c ∈ before.head?, isBlank c = false)
    (h : cleanChars (before ++ (t.written ++ after)) = before ++ (t.quoted ++ after)) :
    replace class? (before ++ (t.written ++ after)) = before ++ (t.written ++ after) := by
  refine (replace_eq_self_or_count_lt consumes_class? _).resolve_right fun hlt => ?_
  have hcount : (before ++ (t.written ++ after)).count '<' =
      (before ++ (t.quoted ++ after)).count '<' + 1 := by
    simp only [List.count_append, t.count_written, t.count_quoted]
    omega
  have htrim := trim_eq_of_count_le h (by omega)
  -- the bracket of the token would still stand where a quote is to be
  have hfirst := t.class?_written_eq_none after
  rw [startsAtOpen_class?.puts hbefore.open_not_mem] at htrim
  rw [TokenRecord.written, note_append] at hfirst htrim
  rw [replace_cons_of_none hfirst] at htrim
  have hprefix := Text.trim_prefix (not_isBlank_of_mem_head?
    (replace class? (tokenInner t.type t.text t.tail ++ '>' :: after)) hstart
    (by decide : isBlank '<' = false))
  rw [htrim, List.prefix_append_right_inj] at hprefix
  exact absurd (List.cons_prefix_cons.1 hprefix).1 (by decide)

/-- The text of a token is kept in a description exactly if it has no closing bracket after an
opening one. -/
theorem clean_keeps_token_text_iff (before after : List Char) (t : TokenRecord)
    (hbefore : Bare before) (hstart : ∀ c ∈ before.head?, isBlank c = false)
    (hafter : Bare after) (hend : ∀ c ∈ after.getLast?, isBlank c = false)
    (htype : t.type ≠ "SENTINEL".toList) (htext : t.text ≠ []) (hline : '\n' ∉ t.text)
    (hmark : ¬ lineMark <:+: t.text) :
    clean (String.ofList (before ++ (t.written ++ after))) =
      String.ofList (before ++ (t.quoted ++ after)) ↔ ¬ HasPair t.text := by
  have htoken : replace token? (before ++ (t.written ++ after)) =
      before ++ (t.quoted ++ after) := by
    rw [TokenRecord.replace_token?_written hbefore hafter hline hmark,
      TokenRecord.describe_eq_quoted htype htext]
  have hgroup : replace group? (before ++ (t.quoted ++ after)) = before ++ (t.quoted ++ after) ↔
      ¬ HasPair t.text := by
    rw [replace_group?_eq_self_iff, hasPair_append_iff hbefore hafter, t.hasPair_quoted_iff]
  rw [clean, String.toList_ofList, String.ofList_inj]
  constructor
  · intro h
    have hclass := replace_class?_eq_self_of_cleanChars hbefore hstart h
    rw [cleanChars, hclass, htoken] at h
    obtain heq | hlt := replace_eq_self_or_count_lt consumes_group? (before ++ (t.quoted ++ after))
    · exact hgroup.1 heq
    · have hle := (Text.trim_sublist (replace group? (before ++ (t.quoted ++ after)))).count_le '<'
      rw [h] at hle
      exact absurd hlt hle.not_gt
  · intro hpair
    rw [cleanChars, TokenRecord.replace_class?_written hbefore hafter hpair, htoken,
      hgroup.2 hpair, trim_around_quoted hstart hend]

/-- The sign `<>` is lost between its quotes, while `>=` is kept. -/
theorem clean_loses_unequal_sign :
    let token (type text : String) (h : IsWord type.toList) : TokenRecord :=
      ⟨type.toList, text.toList, 1, 10, 9, 10, h⟩
    let unequal := token "NEQ" "<>" ⟨by decide, List.all_eq_true.1 (by decide)⟩
    let atLeast := token "GTE" ">=" ⟨by decide, List.all_eq_true.1 (by decide)⟩
    let shown (t : TokenRecord) := clean (String.ofList ("Unexpected ".toList ++ (t.written ++ [])))
    let wanted (t : TokenRecord) := String.ofList ("Unexpected ".toList ++ (t.quoted ++ []))
    HasPair unequal.text ∧ shown unequal ≠ wanted unequal ∧ shown unequal = "Unexpected ''" ∧
      ¬ HasPair atLeast.text ∧ shown atLeast = wanted atLeast := by
  intro token unequal atLeast shown wanted
  have hbefore : Bare "Unexpected ".toList := ⟨by decide, by decide⟩
  have hafter : Bare [] := ⟨List.not_mem_nil, List.not_mem_nil⟩
  have hstart : ∀ c ∈ "Unexpected ".toList.head?, isBlank c = false := by
    rintro c ⟨⟩
    decide
  have hend : ∀ c ∈ ([] : List Char).getLast?, isBlank c = false := fun _ h => nomatch h
  have hunequal := clean_keeps_token_text_iff _ _ unequal hbefore hstart hafter hend (by decide)
    (by decide) (by decide) (by decide)
  have hatLeast := clean_keeps_token_text_iff _ _ atLeast hbefore hstart hafter hend (by decide)
    (by decide) (by decide) (by decide)
  exact ⟨by decide, fun h => hunequal.1 h (by decide), by decide, by decide,
    hatLeast.2 (by decide)⟩

end Description

end QueryLint
