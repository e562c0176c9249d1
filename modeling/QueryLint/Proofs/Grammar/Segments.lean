import QueryLint.Proofs.Grammar.Notes

/-!
# Descriptions in segments

A description that is put together from plain texts and notes, none inside another, is cleaned
segment by segment: no pass reaches from one segment into the next, and none finds a note in what an
earlier pass has put down.
-/

namespace QueryLint

namespace Text

theorem trimRight_append {done : List Char} (h : trimRight done = done) (cs : List Char) :
    trimRight (done ++ cs) = done ++ trimRight cs := by
  unfold trimRight at h ⊢
  rw [List.reverse_append, List.dropWhile_append]
  split
  next hempty => rw [h, List.isEmpty_iff.1 hempty, List.reverse_nil, List.append_nil]
  next => rw [List.reverse_append, List.reverse_reverse]

theorem trimRight_trimRight (cs : List Char) : trimRight (trimRight cs) = trimRight cs :=
  List.rdropWhile_idempotent isBlank cs

theorem trim_sublist (cs : List Char) : List.Sublist (trim cs) cs :=
  (List.rdropWhile_prefix isBlank _).sublist.trans (List.dropWhile_sublist isBlank)

end Text

namespace Description

open Text (isBlank isWordChar trimRight)

/-- No bracket of either kind. -/
structure Bare (cs : List Char) : Prop where
  open_not_mem : '<' ∉ cs
  close_not_mem : '>' ∉ cs

theorem Bare.append {cs ds : List Char} (hcs : Bare cs) (hds : Bare ds) : Bare (cs ++ ds) :=
  ⟨fun h => (List.mem_append.1 h).elim hcs.open_not_mem hds.open_not_mem,
    fun h => (List.mem_append.1 h).elim hcs.close_not_mem hds.close_not_mem⟩

theorem IsWord.bare {w : List Char} (h : IsWord w) : Bare w :=
  ⟨not_mem_of_forall_isWordChar h.isWordChar (by decide),
    not_mem_of_forall_isWordChar h.isWordChar (by decide)⟩

theorem bare_describe (type : List Char) {text : List Char} (h : Bare text) :
    Bare (describe type text) := by
  unfold describe
  split
  · exact ⟨by decide, by decide⟩
  · exact ⟨by simp [h.open_not_mem], by simp [h.close_not_mem]⟩

section

variable {recognize : List Char → Option (List Char × List Char)}

/-- Whatever follows, a pass puts `shown` in place of `text`. -/
def Puts (recognize : List Char → Option (List Char × List Char)) (text shown : List Char) : Prop :=
  ∀ rest, replace recognize (text ++ rest) = shown ++ replace recognize rest

/-- Notes of this kind start with their bracket. -/
def StartsAtOpen (recognize : List Char → Option (List Char × List Char)) : Prop :=
  ∀ c cs, c ≠ '<' → recognize (c :: cs) = none

theorem StartsAtOpen.puts (hopen : StartsAtOpen recognize) {text : List Char} (h : '<' ∉ text) :
    Puts recognize text text := by
  intro rest
  refine replace_append_of_none text rest fun left hleft hne => ?_
  cases left with
  | nil => exact absurd rfl hne
  | cons c left =>
    exact hopen c _ fun hc => h (hleft.mem (hc ▸ List.mem_cons_self))

theorem StartsAtOpen.replace_eq_self (hopen : StartsAtOpen recognize) {text : List Char}
    (h : '<' ∉ text) : replace recognize text = text := by
  have hself := hopen.puts h []
  rwa [List.append_nil, replace_nil, List.append_nil] at hself

theorem Consumes.puts (hg : Consumes recognize) {inner shown : List Char}
    (h : ∀ rest, recognize (note inner ++ rest) = some (shown, rest)) :
    Puts recognize (note inner) shown := by
  intro rest
  have hrest := h rest
  rw [note_append] at hrest ⊢
  exact replace_cons_of_some hg hrest

/-- A note of another kind is passed over. -/
theorem StartsAtOpen.puts_note (hopen : StartsAtOpen recognize) {inner : List Char}
    (hinner : '<' ∉ inner) (h : ∀ rest, recognize (note inner ++ rest) = none) :
    Puts recognize (note inner) (note inner) := by
  intro rest
  have hrest := h rest
  have hbody : '<' ∉ inner ++ ['>'] := by simp [hinner]
  rw [note, List.cons_append] at hrest ⊢
  rw [replace_cons_of_none hrest, hopen.puts hbody rest, List.cons_append]

theorem replace_flatMap {α : Type} {text shown : α → List Char}
    (h : ∀ a, Puts recognize (text a) (shown a)) (as : List α) :
    replace recognize (as.flatMap text) = as.flatMap shown := by
  induction as with
  | nil => rfl
  | cons a as ih => rw [List.flatMap_cons, h a, ih, List.flatMap_cons]

end

theorem startsAtOpen_class? : StartsAtOpen class? := by
  intro c cs hc
  refine Option.eq_none_iff_forall_ne_some.2 fun ⟨shown, rest⟩ h => ?_
  obtain ⟨path, -, -, heq⟩ := class?_eq_some_iff.1 h
  rw [note_append] at heq
  exact hc (List.cons.inj heq).1

theorem startsAtOpen_token? : StartsAtOpen token? := by
  intro c cs hc
  refine Option.eq_none_iff_forall_ne_some.2 fun found h => ?_
  obtain ⟨type, after, -, heq⟩ := exists_type_of_token? h
  exact hc (List.cons.inj heq).1

theorem not_mem_classInner {path : List (List Char)} {name : List Char} {c : Char}
    (hpath : ∀ w ∈ path, IsWord w) (hname : IsWord name)
    (hc : (isWordChar c || c == '.') = false) (hopening : c ∉ classOpening) (hquote : c ≠ '\'') :
    c ∉ classInner path name := by
  intro h
  rw [classInner, List.mem_append, List.mem_append, List.mem_singleton] at h
  obtain h | h | h := h
  · exact hopening h
  · rw [isDotted_of_mem hpath hname c h] at hc
    cases hc
  · exact hquote h

/-- A note that ends at the first closing bracket is a class only if all of it is. -/
theorem class?_note_eq_none {inner : List Char} (hclose : '>' ∉ inner)
    (h : ∀ path name, (∀ w ∈ path, IsWord w) → IsWord name → inner ≠ classInner path name)
    (rest : List Char) : class? (note inner ++ rest) = none := by
  refine Option.eq_none_iff_forall_ne_some.2 fun ⟨shown, rest'⟩ hfound => ?_
  obtain ⟨path, hpath, hname, heq⟩ := class?_eq_some_iff.1 hfound
  have hclose' : '>' ∉ classInner path shown :=
    not_mem_classInner hpath hname (by decide) (by decide) (by decide)
  rw [note_append, note_append, List.cons_inj_right, Text.append_cons_inj hclose hclose'] at heq
  exact h path shown hpath hname heq.1

theorem token?_note_eq_none {inner : List Char} (h : ¬ tokenOpening <+: inner) (rest : List Char) :
    token? (note inner ++ rest) = none := by
  refine Option.eq_none_iff_forall_ne_some.2 fun found hfound => ?_
  obtain ⟨type, after, -, heq⟩ := exists_type_of_token? hfound
  rw [note_append, List.cons_inj_right] at heq
  obtain ⟨more, hopening, hmore⟩ | ⟨more, hinner, -⟩ := List.append_eq_append_iff.1 heq
  · cases more with
    | nil => exact h ⟨[], by rw [hopening, List.append_nil, List.append_nil]⟩
    | cons c more =>
      have hclose : '>' ∈ tokenOpening := by
        rw [hopening, (List.cons.inj hmore).1]
        simp
      exact absurd hclose (by decide)
  · exact h ⟨more, hinner.symm⟩

theorem bare_tokenInner {type text tail : List Char} (htype : IsWord type) (htext : Bare text)
    (htail : Bare tail) : Bare (tokenInner type text tail) := by
  have hopening : Bare tokenOpening := ⟨by decide, by decide⟩
  have htextMark : Bare textMark := ⟨by decide, by decide⟩
  have hlineMark : Bare lineMark := ⟨by decide, by decide⟩
  exact hopening.append <| htype.bare.append <| htextMark.append <| htext.append <|
    hlineMark.append htail

theorem tokenOpening_append_ne (x y : List Char) : tokenOpening ++ x ≠ classOpening ++ y := by
  have hopening : tokenOpening = 'T' :: "oken token_type: TokenType.".toList := rfl
  have hopening' : classOpening = 'c' :: "lass '".toList := rfl
  rw [hopening, hopening']
  intro h
  exact absurd (List.cons.inj h).1 (by decide)

/-- A segment of a description: a plain text, a class, a token or another note. -/
inductive Segment where
  | plain (text : List Char) (htext : Bare text)
  | className (path : List (List Char)) (name : List Char) (hpath : ∀ w ∈ path, IsWord w)
      (hname : IsWord name)
  | token (type text tail : List Char) (htype : IsWord type) (htext : Bare text)
      (hline : '\n' ∉ text) (hmark : ¬ lineMark <:+: text) (htail : Bare tail)
  | other (inner : List Char) (hinner : Bare inner)
      (hclass : ∀ path name, (∀ w ∈ path, IsWord w) → IsWord name → inner ≠ classInner path name)
      (htoken : ¬ tokenOpening <+: inner)

namespace Segment

/-- A segment as it stands in the description. -/
def written : Segment → List Char
  | plain text _ => text
  | className path name _ _ => note (classInner path name)
  | token type text tail _ _ _ _ _ => note (tokenInner type text tail)
  | other inner _ _ _ => note inner

/-- A segment once classes have their names. -/
def withName : Segment → List Char
  | className _ name _ _ => name
  | s => s.written

/-- A segment once tokens have their texts, too. -/
def withText : Segment → List Char
  | token type text _ _ _ _ _ _ => describe type text
  | s => s.withName

/-- What is shown of a description once a segment is added. Other notes are left out, and so are the
blanks directly before them. -/
def put (shown : List Char) : Segment → List Char
  | plain text _ => shown ++ text
  | className _ name _ _ => shown ++ name
  | token type text _ _ _ _ _ _ => shown ++ describe type text
  | other _ _ _ _ => trimRight shown

theorem puts_class? (s : Segment) : Puts class? s.written s.withName := by
  cases s with
  | plain text htext => exact startsAtOpen_class?.puts htext.open_not_mem
  | className path name hpath hname =>
    exact consumes_class?.puts fun rest => class?_eq_some_iff.2 ⟨path, hpath, hname, rfl⟩
  | token type text tail htype htext hline hmark htail =>
    have hinner := bare_tokenInner htype htext htail
    exact startsAtOpen_class?.puts_note hinner.open_not_mem
      (class?_note_eq_none hinner.close_not_mem fun path name _ _ =>
        tokenOpening_append_ne _ _)
  | other inner hinner hclass htoken =>
    exact startsAtOpen_class?.puts_note hinner.open_not_mem
      (class?_note_eq_none hinner.close_not_mem hclass)

theorem puts_token? (s : Segment) : Puts token? s.withName s.withText := by
  cases s with
  | plain text htext => exact startsAtOpen_token?.puts htext.open_not_mem
  | className path name hpath hname => exact startsAtOpen_token?.puts hname.bare.open_not_mem
  | token type text tail htype htext hline hmark htail =>
    exact consumes_token?.puts fun rest => token?_eq_some_iff.2
      ⟨type, text, tail, htype, hline, hmark, htail.close_not_mem, rfl, rfl⟩
  | other inner hinner hclass htoken =>
    exact startsAtOpen_token?.puts_note hinner.open_not_mem (token?_note_eq_none htoken)

end Segment

theorem open_mem_of_group? {cs : List Char} {found : List Char × List Char}
    (h : group? cs = some found) : '<' ∈ cs := by
  obtain ⟨shown, rest⟩ := found
  obtain ⟨-, blanks, inner, -, -, -, rfl⟩ := group?_eq_some_iff.1 h
  simp

/-- No group starts where something else than blanks stands before the next bracket. -/
theorem group?_append_eq_none {left : List Char} {c : Char} (hopen : '<' ∉ left) (hc : c ∈ left)
    (hblank : isBlank c = false) (rest : List Char) : group? (left ++ rest) = none := by
  refine Option.eq_none_iff_forall_ne_some.2 fun ⟨shown, rest'⟩ hfound => ?_
  obtain ⟨-, blanks, inner, hblanks, -, -, heq⟩ := group?_eq_some_iff.1 hfound
  have hmem : c ∉ blanks := fun h => by
    rw [hblanks c h] at hblank
    cases hblank
  obtain ⟨more, rfl, hmore⟩ | ⟨more, rfl, hmore⟩ := List.append_eq_append_iff.1 heq
  · exact hmem (List.mem_append_left _ hc)
  · cases more with
    | nil => exact hmem (by simpa using hc)
    | cons d more =>
      rw [← (List.cons.inj hmore).1] at hopen
      simp at hopen

theorem replace_group?_of_open_not_mem {cs : List Char} (h : '<' ∉ cs) :
    replace group? cs = cs := by
  refine (replace_eq_self_iff consumes_group?).2 fun left hleft _ => ?_
  exact Option.eq_none_iff_forall_ne_some.2 fun found hfound =>
    h (hleft.mem (open_mem_of_group? hfound))

/-- The first group takes with it the blanks before it, and nothing else. -/
theorem replace_group?_note {text inner : List Char} (htext : '<' ∉ text) (hinner : Bare inner)
    (rest : List Char) :
    replace group? (text ++ (note inner ++ rest)) = trimRight text ++ replace group? rest := by
  let blanks := text.rtakeWhile isBlank
  have hsplit : trimRight text ++ blanks = text := List.rdropWhile_append_rtakeWhile
  have hblanks : ∀ c ∈ blanks, isBlank c = true := fun c => List.mem_rtakeWhile_imp
  have hgroup : replace group? (blanks ++ (note inner ++ rest)) = replace group? rest := by
    have hfound : group? (blanks ++ (note inner ++ rest)) = some ([], rest) :=
      group?_eq_some_iff.2 ⟨rfl, blanks, inner, hblanks, hinner.open_not_mem,
        hinner.close_not_mem, by rw [note_append]⟩
    cases hcs : blanks ++ (note inner ++ rest) with
    | nil => simp [note] at hcs
    | cons c cs =>
      rw [hcs] at hfound
      rw [replace_cons_of_some consumes_group? hfound, List.nil_append]
  have hfront : replace group? (trimRight text ++ (blanks ++ (note inner ++ rest))) =
      trimRight text ++ replace group? (blanks ++ (note inner ++ rest)) := by
    refine replace_append_of_none _ _ fun left hleft hne => ?_
    have hopen : '<' ∉ left := fun h =>
      htext (hsplit ▸ List.mem_append_left blanks (hleft.mem h))
    have hlast : isBlank (left.getLast hne) = false := by
      rw [hleft.getLast hne]
      exact Bool.eq_false_iff.2 (List.rdropWhile_last_not isBlank text (hleft.ne_nil hne))
    exact group?_append_eq_none hopen (List.getLast_mem hne) hlast _
  calc replace group? (text ++ (note inner ++ rest))
      = replace group? (trimRight text ++ (blanks ++ (note inner ++ rest))) := by
        rw [← List.append_assoc (trimRight text), hsplit]
    _ = trimRight text ++ replace group? rest := by rw [hfront, hgroup]

/-- A segment is shown as it stands after two passes, or it is a note that nothing is shown of. -/
theorem Segment.put_cases (s : Segment) :
    (Bare s.withText ∧ ∀ shown, put shown s = shown ++ s.withText) ∨
      ∃ inner, Bare inner ∧ s.withText = note inner ∧ ∀ shown, put shown s = trimRight shown := by
  cases s with
  | plain text htext => exact .inl ⟨htext, fun _ => rfl⟩
  | className path name hpath hname => exact .inl ⟨hname.bare, fun _ => rfl⟩
  | token type text tail htype htext hline hmark htail =>
    exact .inl ⟨bare_describe type htext, fun _ => rfl⟩
  | other inner hinner hclass htoken => exact .inr ⟨inner, hinner, rfl, fun _ => rfl⟩

/-- The last pass, with a part `done` that it has left behind and a part `pending` that may still
lose its blanks. -/
theorem replace_withText (segments : List Segment) {done pending : List Char}
    (hdone : trimRight done = done) (hpending : '<' ∉ pending) :
    done ++ replace group? (pending ++ segments.flatMap Segment.withText) =
      segments.foldl Segment.put (done ++ pending) := by
  induction segments generalizing done pending with
  | nil =>
    rw [List.flatMap_nil, List.append_nil, replace_group?_of_open_not_mem hpending, List.foldl_nil]
  | cons s segments ih =>
    rw [List.flatMap_cons, List.foldl_cons]
    obtain ⟨hbare, hput⟩ | ⟨inner, hinner, htext, hput⟩ := s.put_cases
    · have hpending' : '<' ∉ pending ++ s.withText :=
        List.not_mem_append hpending hbare.open_not_mem
      rw [← List.append_assoc, ih hdone hpending', hput, List.append_assoc]
    · have hdone' : trimRight (done ++ trimRight pending) = done ++ trimRight pending := by
        rw [Text.trimRight_append hdone, Text.trimRight_trimRight]
      have hnext := ih hdone' List.not_mem_nil
      rw [List.nil_append, List.append_nil] at hnext
      rw [htext, replace_group?_note hpending hinner, ← List.append_assoc, hnext, hput,
        Text.trimRight_append hdone]

theorem bare_foldl_put (segments : List Segment) {shown : List Char} (h : Bare shown) :
    Bare (segments.foldl Segment.put shown) := by
  induction segments generalizing shown with
  | nil => exact h
  | cons s segments ih =>
    rw [List.foldl_cons]
    apply ih
    obtain ⟨hbare, hput⟩ | ⟨inner, -, -, hput⟩ := s.put_cases
    · rw [hput]
      exact h.append hbare
    · rw [hput]
      have hmem : ∀ c ∈ trimRight shown, c ∈ shown :=
        fun c hc => (List.rdropWhile_prefix isBlank shown).mem hc
      exact ⟨fun hc => h.open_not_mem (hmem _ hc), fun hc => h.close_not_mem (hmem _ hc)⟩

/-- A description in segments is cleaned segment by segment: a class is shown by its name, a token
by its text in quotes or by a phrase for the end of the input, and any other note is left out
together with the blanks before it. No bracket is left. -/
theorem clean_segment_by_segment (segments : List Segment) :
    clean (String.ofList (segments.flatMap Segment.written)) =
        String.ofList (Text.trim (segments.foldl Segment.put [])) ∧
      Bare (clean (String.ofList (segments.flatMap Segment.written))).toList := by
  have hclean : clean (String.ofList (segments.flatMap Segment.written)) =
      String.ofList (Text.trim (segments.foldl Segment.put [])) := by
    have hlast := replace_withText segments (rfl : trimRight [] = []) List.not_mem_nil
    rw [List.nil_append, List.nil_append, List.nil_append] at hlast
    rw [clean, cleanChars, String.toList_ofList, replace_flatMap Segment.puts_class?,
      replace_flatMap Segment.puts_token?, hlast]
  have hbare := bare_foldl_put segments ⟨List.not_mem_nil, List.not_mem_nil⟩
  rw [hclean, String.toList_ofList]
  exact ⟨rfl, fun h => hbare.open_not_mem ((Text.trim_sublist _).mem h),
    fun h => hbare.close_not_mem ((Text.trim_sublist _).mem h)⟩

example :
    clean "No <class 'a.Mul'> but <Token token_type: TokenType.GT, text: x , line: 1> \t<y> <z>." =
      "No Mul but 'x '." := by decide

end Description

end QueryLint
