import Mathlib.Data.List.TakeDrop
import QueryLint.Proofs.Source.Pieces
import QueryLint.Proofs.Source.Places

/-!
# Where tokens stand

Cutting a text into tokens goes over the text once and leaves nothing out. So the tokens
of the stream are stretches of the text, one behind the other, and the span of a token is
the place of its stretch: the lines of the text hold, at the span of a token, the
characters of the token.
-/

namespace QueryLint

open Text Source

namespace Token

/-- A token is a stretch of a text, with the span of that stretch. -/
def StandsIn (cs : List Char) (t : Token) : Prop :=
  ∃ before after, cs = before ++ t.string.toList ++ after ∧
    t.span = Span.ofStretch before t.string.toList

theorem StandsIn.excerpt_span {cs : List Char} {t : Token} (h : t.StandsIn cs) :
    t.span.excerpt (newlineLines cs) = t.string.toList := by
  obtain ⟨before, after, rfl, hspan⟩ := h
  rw [hspan, Span.excerpt_ofStretch]

/-- Tokens, last first, that stand in a text one behind the other. -/
def LaidOut : List Token → List Char → Prop
  | [], _ => True
  | t :: earlier, cs =>
      ∃ before after, cs = before ++ t.string.toList ++ after ∧
        t.span = Span.ofStretch before t.string.toList ∧ LaidOut earlier before

namespace LaidOut

variable {tokens : List Token} {cs : List Char}

theorem append (h : LaidOut tokens cs) (more : List Char) : LaidOut tokens (cs ++ more) := by
  cases tokens with
  | nil => trivial
  | cons t earlier =>
    obtain ⟨before, after, rfl, hspan, hearlier⟩ := h
    exact ⟨before, after ++ more, by simp, hspan, hearlier⟩

theorem sublist {chosen : List Token} (h : LaidOut tokens cs) (hsub : chosen.Sublist tokens) :
    LaidOut chosen cs := by
  induction hsub generalizing cs with
  | slnil => trivial
  | cons t hsub ih =>
    obtain ⟨before, after, rfl, -, hearlier⟩ := h
    rw [List.append_assoc]
    exact (ih hearlier).append (t.string.toList ++ after)
  | cons_cons t hsub ih =>
    obtain ⟨before, after, hcs, hspan, hearlier⟩ := h
    exact ⟨before, after, hcs, hspan, ih hearlier⟩

theorem standsIn (h : LaidOut tokens cs) {t : Token} (ht : t ∈ tokens) : t.StandsIn cs := by
  obtain ⟨before, after, hcs, hspan, -⟩ := h.sublist (List.singleton_sublist.2 ht)
  exact ⟨before, after, hcs, hspan⟩

end LaidOut

end Token

namespace Source.Tokenizer

/-- A text has been read as far as the rest, and the tokens so far stand in what was read. -/
def Follows (cs : List Char) (t : Tokenizer) : Prop :=
  ∃ before, cs = before ++ t.rest ∧ t.place = Place.start.advanceOver before ∧
    Token.LaidOut t.done before

variable {cs : List Char} {t : Tokenizer}

theorem Follows.skip (h : t.Follows cs) {chars rest : List Char} (hrest : t.rest = chars ++ rest) :
    (t.skip chars rest).Follows cs := by
  obtain ⟨before, hcs, hplace, hdone⟩ := h
  refine ⟨before ++ chars, ?_, ?_, hdone.append chars⟩
  · rw [hcs, hrest, List.append_assoc]
    rfl
  · rw [Place.advanceOver_append, ← hplace]
    rfl

theorem Follows.emit (h : t.Follows cs) (type : TokenType) {chars rest : List Char}
    (hrest : t.rest = chars ++ rest) : (t.emit type chars rest).Follows cs := by
  obtain ⟨before, hcs, hplace, hdone⟩ := h
  refine ⟨before ++ chars, ?_, ?_, before, [], by simp, ?_, hdone⟩
  · rw [hcs, hrest, List.append_assoc]
    rfl
  · rw [Place.advanceOver_append, ← hplace]
    rfl
  · rw [String.toList_ofList, Span.ofStretch, hplace]

theorem Follows.openLine (h : t.Follows cs) {s : Tokenizer} (hs : t.openLine = some s) :
    s.Follows cs := by
  have hblanks : t.rest = t.rest.takeWhile Scanner.isSpace ++ t.rest.dropWhile Scanner.isSpace :=
    List.takeWhile_append_dropWhile.symm
  have hskip := h.skip hblanks
  unfold Tokenizer.openLine at hs
  simp only [List.span_eq_takeWhile_dropWhile] at hs
  split at hs
  · cases hs
    exact hskip
  · cases hs
    exact hskip
  · cases hs
    exact hskip
  · obtain ⟨margins, -, rfl⟩ := Option.map_eq_some_iff.1 hs
    exact hskip

theorem Follows.step (h : t.Follows cs) : t.step.Follows cs := by
  have hblanks : t.rest = t.rest.takeWhile Scanner.isSpace ++ t.rest.dropWhile Scanner.isSpace :=
    List.takeWhile_append_dropWhile.symm
  have hskip := h.skip hblanks
  unfold Tokenizer.step
  simp only [List.span_eq_takeWhile_dropWhile]
  split
  next type chars left hpiece =>
    have hemit := hskip.emit type (piece?_append hpiece).symm
    split <;> exact hemit
  next chars left hpiece => exact hskip.skip (piece?_append hpiece).symm
  next left hpiece => exact hskip.skip (piece?_append hpiece).symm
  next left hpiece => exact hskip.skip (piece?_append hpiece).symm
  next =>
    split
    next hend =>
      rw [hend] at hblanks
      exact h.skip hblanks
    next c left hrest _ => exact h.emit _ hrest
    next => exact h

theorem Follows.run {fuel : Nat} (h : t.Follows cs) {tokens : List Token}
    (hrun : Tokenizer.run fuel t = some tokens) : Token.LaidOut tokens.reverse cs := by
  induction fuel generalizing t with
  | zero => cases hrun
  | succ fuel ih =>
    rw [Tokenizer.run] at hrun
    split at hrun
    · obtain ⟨s, hopen, hmore⟩ := Option.bind_eq_some_iff.1 hrun
      exact ih (h.openLine hopen) hmore
    · split at hrun
      · split at hrun <;> cases hrun
        obtain ⟨before, hcs, -, hdone⟩ := h
        rw [List.reverse_reverse, hcs]
        exact hdone.append t.rest
      · exact ih h.step hrun

end Source.Tokenizer

/-- The tokens of a text stand in the text, one behind the other. -/
theorem Source.laidOut_of_tokens? {cs : List Char} {tokens : List Token}
    (h : tokens? cs = some tokens) : Token.LaidOut tokens.reverse cs := by
  have hstart : Tokenizer.Follows cs { rest := cs } := ⟨[], rfl, rfl, trivial⟩
  exact hstart.run h

end QueryLint
