import Mathlib.Data.List.TakeDrop
import Mathlib.Data.List.TakeWhile
import QueryLint.Proofs.Source.Pieces
import QueryLint.Proofs.Source.Places

/-!
# Where lexemes stand

Scanning goes over a text once and leaves nothing out, so every lexeme is a stretch of the
text and stands where its places say. Layout has no characters and stands between two
stretches. Strings end with a quote and names with a letter or a digit, hence never with a line.
-/

namespace QueryLint.Source

open QueryLint.Text

/-- Lexemes that do not end with a line, whatever they hold. -/
@[simp] abbrev Kind.IsTextual (kind : Kind) : Prop := kind = .string ∨ kind = .name

/-- A lexeme is a stretch of a text that starts at a given place; strings and names end within a
line. -/
structure Lexeme.StandsIn (place : Place) (cs : List Char) (l : Lexeme) : Prop where
  stretch : ∃ before after, cs = before ++ l.chars ++ after ∧ l.first = place.advanceOver before
  ends : l.last = l.first.advanceOver l.chars
  inside : l.kind.IsTextual → ∃ c, l.chars.getLast? = some c ∧ c ≠ '\n'

/-- The white space at the head of a line is read off the text. -/
theorem Margin.measure_append {m m' : Margin} {cs rest : List Char}
    (h : m.measure cs = some (m', rest)) :
    ∃ blanks, cs = blanks ++ rest ∧ m'.place = m.place.advanceOver blanks := by
  fun_induction Margin.measure m cs with
  | case1 => cases h; exact ⟨[], rfl, rfl⟩
  | case2 m cs ih =>
    obtain ⟨blanks, rfl, hplace⟩ := ih h
    exact ⟨' ' :: blanks, rfl, hplace⟩
  | case3 m cs ih =>
    obtain ⟨blanks, rfl, hplace⟩ := ih h
    exact ⟨'\t' :: blanks, rfl, hplace⟩
  | case4 m cs ih =>
    obtain ⟨blanks, rfl, hplace⟩ := ih h
    exact ⟨'\x0c' :: blanks, rfl, hplace⟩
  | case5 => cases h
  | case6 m cs _ ih =>
    obtain ⟨blanks, rfl, hplace⟩ := ih h
    exact ⟨'\\' :: '\n' :: blanks, rfl, hplace⟩
  | case7 => cases h
  | case8 => cases h; exact ⟨[], rfl, rfl⟩

namespace Scanner

/-- A text has been read as far as the rest, and the lexemes so far stand in it, none of them
behind the start of a later one or behind the place that has been reached. -/
structure Follows (place : Place) (cs : List Char) (s : Scanner) : Prop where
  read : ∃ before, cs = before ++ s.rest ∧ s.place = place.advanceOver before
  done : ∀ l ∈ s.done, l.StandsIn place cs
  order : (s.place :: s.done.map (·.first)).Pairwise fun q p => p.NotAfter q

namespace Follows

variable {place : Place} {cs : List Char} {s t : Scanner}

/-- Moving on over some characters leaves no lexeme ahead. -/
theorem order_advanceOver (h : s.Follows place cs) (chars : List Char) :
    (s.place.advanceOver chars :: s.done.map (·.first)).Pairwise fun q p => p.NotAfter q := by
  obtain ⟨hbelow, hdone⟩ := List.pairwise_cons.1 h.order
  refine List.pairwise_cons.2 ⟨fun p hp => ?_, hdone⟩
  exact (hbelow p hp).trans (s.place.notAfter_advanceOver chars)

theorem skip (h : s.Follows place cs) {chars rest : List Char} (hrest : s.rest = chars ++ rest) :
    (s.skip chars rest).Follows place cs := by
  obtain ⟨before, hcs, hplace⟩ := h.read
  refine ⟨⟨before ++ chars, ?_, ?_⟩, h.done, h.order_advanceOver chars⟩
  · rw [hcs, hrest, List.append_assoc]
    rfl
  · rw [Place.advanceOver_append, ← hplace]
    rfl

theorem emit (h : s.Follows place cs) {kind : Kind} {chars rest : List Char}
    (hrest : s.rest = chars ++ rest)
    (hinside : kind.IsTextual → ∃ c, chars.getLast? = some c ∧ c ≠ '\n') :
    (s.emit kind chars rest).Follows place cs := by
  refine ⟨(h.skip hrest).read, ?_, ?_⟩
  · obtain ⟨before, hcs, hplace⟩ := h.read
    intro l hl
    obtain rfl | hl := List.mem_cons.1 hl
    · exact ⟨⟨before, rest, by rw [hcs, hrest, List.append_assoc], hplace⟩, rfl, hinside⟩
    · exact h.done l hl
  · obtain ⟨hbelow, -⟩ := List.pairwise_cons.1 (h.order_advanceOver chars)
    have hown := s.place.notAfter_advanceOver chars
    exact List.pairwise_cons.2 ⟨List.forall_mem_cons.2 ⟨hown, hbelow⟩, h.order⟩

theorem layout (h : s.Follows place cs) {kind : Kind} (hkind : ¬ kind.IsTextual) :
    (s.layout kind).Follows place cs := by
  refine ⟨h.read, ?_, ?_⟩
  · obtain ⟨before, hcs, hplace⟩ := h.read
    intro l hl
    obtain rfl | hl := List.mem_cons.1 hl
    · exact ⟨⟨before, s.rest, by simpa using hcs, hplace⟩, rfl,
        fun htextual => absurd htextual hkind⟩
    · exact h.done l hl
  · obtain ⟨hbelow, -⟩ := List.pairwise_cons.1 h.order
    exact List.pairwise_cons.2 ⟨List.forall_mem_cons.2 ⟨.refl _, hbelow⟩, h.order⟩

theorem dedents (h : s.Follows place cs) (n : Nat) : (Scanner.dedents n s).Follows place cs := by
  induction n generalizing s with
  | zero => exact h
  | succ n ih => exact ih (h.layout nofun)

theorem indentTo (h : s.Follows place cs) {wide narrow : Nat}
    (ht : s.indentTo wide narrow = some t) : t.Follows place cs := by
  unfold Scanner.indentTo at ht
  split at ht
  · cases ht
  · split at ht
    · split at ht <;> cases ht
      exact h
    · split at ht
      · split at ht <;> cases ht
        refine layout ?_ nofun
        exact ⟨h.read, h.done, h.order⟩
      · split at ht
        · split at ht <;> cases ht
          refine dedents ?_ _
          exact ⟨h.read, h.done, h.order⟩
        · cases ht

theorem openLine (h : s.Follows place cs) (ht : s.openLine = some t) : t.Follows place cs := by
  obtain ⟨⟨m, rest⟩, hmeasure, ht⟩ := Option.bind_eq_some_iff.1 ht
  obtain ⟨blanks, hblanks, hplace⟩ := Margin.measure_append hmeasure
  obtain ⟨before, hcs, hbefore⟩ := h.read
  have hread : ∃ before, cs = before ++ rest ∧ m.place = place.advanceOver before := by
    refine ⟨before ++ blanks, by rw [hcs, hblanks, List.append_assoc], ?_⟩
    rw [Place.advanceOver_append, ← hbefore]
    exact hplace
  have horder : (m.place :: s.done.map (·.first)).Pairwise fun q p => p.NotAfter q := by
    rw [hplace]
    exact h.order_advanceOver blanks
  dsimp only at ht
  split at ht
  · cases ht
    exact ⟨hread, h.done, horder⟩
  · split at ht
    · refine indentTo ?_ ht
      exact ⟨hread, h.done, horder⟩
    · refine indentTo ?_ ht
      exact ⟨hread, h.done, horder⟩

/-- A name at the head of the rest has a last character, and it is not a newline. -/
theorem name (h : s.Follows place cs) {c : Char} {rest : List Char} (hrest : s.rest = c :: rest)
    (hc : mayContinueName c = true) (ht : s.name = some t) : t.Follows place cs := by
  have hname : s.rest = s.rest.takeWhile mayContinueName ++ s.rest.dropWhile mayContinueName :=
    List.takeWhile_append_dropWhile.symm
  have hinside : ∃ d, (s.rest.takeWhile mayContinueName).getLast? = some d ∧ d ≠ '\n' := by
    have hfilled : s.rest.takeWhile mayContinueName ≠ [] := by
      rw [hrest, List.takeWhile_cons_of_pos hc]
      exact List.cons_ne_nil _ _
    refine ⟨_, List.getLast?_eq_some_getLast hfilled, ?_⟩
    have hlast := List.mem_takeWhile_imp (List.getLast_mem hfilled)
    rintro heq
    rw [heq] at hlast
    exact absurd hlast (by decide)
  unfold Scanner.name at ht
  simp only [List.span_eq_takeWhile_dropWhile] at ht
  split at ht
  · split at ht
    · cases ht
      exact h.emit hname nofun
    · cases ht
      exact h.emit hname fun _ => hinside
  · cases ht

theorem bracket (h : s.Follows place cs) {sign : Sign} {c : Char} (ht : s.bracket sign c = some t) :
    t.Follows place cs ∧ t.rest = s.rest := by
  unfold Scanner.bracket at ht
  split at ht
  iterate 3
    · split at ht <;> cases ht
      exact ⟨⟨h.read, h.done, h.order⟩, rfl⟩
  iterate 3
    · split at ht
      · split at ht <;> cases ht
        exact ⟨⟨h.read, h.done, h.order⟩, rfl⟩
      · cases ht
  · cases ht
    exact ⟨h, rfl⟩

theorem sign (h : s.Follows place cs) (ht : Scanner.step.sign s = some t) : t.Follows place cs := by
  obtain ⟨⟨chars, sign⟩, hsign, ht⟩ := Option.bind_eq_some_iff.1 ht
  obtain ⟨u, hbracket, ht⟩ := Option.bind_eq_some_iff.1 ht
  cases ht
  obtain ⟨hu, hrest⟩ := h.bracket hbracket
  refine hu.emit ?_ nofun
  rw [hrest]
  exact (first?_append hsign).symm

/-- A string at the head of the rest. -/
theorem string (h : s.Follows place cs) {letters quoted body rest : List Char}
    (hletters : stringLetters s.rest = some (letters, quoted))
    (hbody : scanString quoted = some (body, rest)) :
    (s.emit .string (letters ++ body) rest).Follows place cs := by
  obtain ⟨happ, q, hlast, hq⟩ := string_append hletters hbody
  refine h.emit happ.symm fun _ => ⟨q, hlast, ?_⟩
  rintro rfl
  cases hq

theorem step (h : s.Follows place cs) (ht : s.step = some t) : t.Follows place cs := by
  unfold Scanner.step at ht
  simp only [List.span_eq_takeWhile_dropWhile] at ht
  split at ht
  · cases ht
  next c rest hrest =>
    split at ht
    · cases ht
      exact h.skip List.takeWhile_append_dropWhile.symm
    split at ht
    · cases ht
      exact h.skip List.takeWhile_append_dropWhile.symm
    split at ht
    · have hcons : s.rest = [c] ++ rest := hrest
      split at ht
      · cases ht
        have hskip : (s.skip [c] rest).Follows place cs := h.skip hcons
        exact ⟨hskip.read, hskip.done, hskip.order⟩
      · cases ht
        have hemit : (s.emit .newline [c] rest).Follows place cs := h.emit hcons nofun
        exact ⟨hemit.read, hemit.done, hemit.order⟩
    split at ht
    next letters quoted hletters =>
      obtain ⟨⟨body, left⟩, hbody, ht⟩ := Option.bind_eq_some_iff.1 ht
      cases ht
      exact h.string hletters hbody
    split at ht
    · obtain ⟨⟨number, left⟩, hnumber, ht⟩ := Option.bind_eq_some_iff.1 ht
      cases ht
      exact h.emit (scanNumber_append hnumber).symm nofun
    split at ht
    next hc => exact h.name hrest hc ht
    split at ht
    next d more =>
      split at ht
      · obtain ⟨⟨fs, left⟩, hfraction, ht⟩ := Option.bind_eq_some_iff.1 ht
        obtain ⟨⟨number, left'⟩, htail, ht⟩ := Option.bind_eq_some_iff.1 ht
        cases ht
        refine h.emit ?_ nofun
        rw [floatTail_append htail, List.cons_append, fractionPart_append hfraction, hrest]
      · exact h.sign ht
    next more =>
      split at ht <;> cases ht
      exact h.skip hrest
    · exact h.sign ht

theorem run {fuel : Nat} (h : s.Follows place cs) (ht : Scanner.run fuel s = some t) :
    t.Follows place cs := by
  induction fuel generalizing s with
  | zero => cases ht
  | succ fuel ih =>
    rw [Scanner.run] at ht
    split at ht
    · obtain ⟨u, hopen, ht⟩ := Option.bind_eq_some_iff.1 ht
      exact ih (h.openLine hopen) ht
    · split at ht
      · split at ht <;> cases ht
        exact h.layout nofun
      · obtain ⟨u, hstep, ht⟩ := Option.bind_eq_some_iff.1 ht
        exact ih (h.step hstep) ht

end Follows

end Scanner

/-- The lexemes of a text stand in the text, and in order. -/
theorem standsIn_of_scan {place : Place} {cs : List Char} {lexemes : List Lexeme}
    (h : scan place cs = some lexemes) :
    (∀ l ∈ lexemes, l.StandsIn place cs) ∧
      lexemes.Pairwise fun l m => l.first.NotAfter m.first := by
  obtain ⟨s, hrun, rfl⟩ := Option.map_eq_some_iff.1 h
  have hstart : Scanner.Follows place cs { rest := cs, place := place } :=
    ⟨⟨[], rfl, rfl⟩, by simp, by simp⟩
  have hend := hstart.run hrun
  obtain ⟨-, horder⟩ := List.pairwise_cons.1 hend.order
  exact ⟨by simpa using hend.done, List.pairwise_reverse.2 (List.pairwise_map.1 horder)⟩

/-- A lexeme stands on no line before the place where its text starts. -/
theorem Lexeme.StandsIn.line_le {place : Place} {cs : List Char} {l : Lexeme}
    (h : l.StandsIn place cs) : place.line ≤ l.first.line := by
  obtain ⟨before, after, -, hfirst⟩ := h.stretch
  rw [hfirst, Place.line_advanceOver]
  exact Nat.le_add_right _ _

theorem Lexeme.StandsIn.notAfter {place : Place} {cs : List Char} {l : Lexeme}
    (h : l.StandsIn place cs) : l.first.NotAfter l.last := by
  rw [h.ends]
  exact l.first.notAfter_advanceOver l.chars

/-- A string or a name stands on lines before the end of the last line. -/
theorem Lexeme.StandsIn.last_line_le {place : Place} {cs : List Char} {l : Lexeme}
    (h : l.StandsIn place (cs ++ ['\n'])) (hkind : l.kind.IsTextual) :
    l.last.line ≤ place.line + cs.count '\n' := by
  obtain ⟨before, after, hcs, hfirst⟩ := h.stretch
  obtain ⟨d, hlast, hd⟩ := h.inside hkind
  -- the text ends with a newline and the lexeme does not, so that something follows it
  obtain ⟨more, c, rfl⟩ : ∃ more c, after = more ++ [c] := by
    obtain rfl | ⟨more, c, rfl⟩ := List.eq_nil_or_concat after
    · have hends := congrArg List.getLast? hcs
      rw [List.append_nil, List.getLast?_append, List.getLast?_append, hlast] at hends
      obtain rfl : '\n' = d := by simpa using hends
      exact absurd rfl hd
    · exact ⟨more, c, List.concat_eq_append⟩
  obtain ⟨rfl, -⟩ : cs = before ++ l.chars ++ more ∧ ['\n'] = [c] := by
    rw [← List.append_assoc] at hcs
    exact List.append_inj' hcs rfl
  rw [h.ends, hfirst, Place.line_advanceOver, Place.line_advanceOver, List.count_append,
    List.count_append]
  omega

end QueryLint.Source
