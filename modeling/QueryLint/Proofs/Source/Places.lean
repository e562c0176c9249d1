import Mathlib.Data.List.Induction
import QueryLint.Proofs.Text.Lines
import QueryLint.Source.Lexeme
import QueryLint.Tree.Span

/-!
# Places and the text between them

A place is reached by reading a text from its start. Its line counts the newlines that
were read and its column the characters since the last of them, so that the text between
two places can be found again in the list of lines.
-/

namespace QueryLint

open Text

namespace Source.Place

theorem advanceOver_append (p : Place) (cs ds : List Char) :
    p.advanceOver (cs ++ ds) = (p.advanceOver cs).advanceOver ds := List.foldl_append

theorem line_advanceOver (p : Place) (cs : List Char) :
    (p.advanceOver cs).line = p.line + cs.count '\n' := by
  induction cs generalizing p with
  | nil => rfl
  | cons c cs ih =>
    have hstep : p.advanceOver (c :: cs) = (p.advance c).advanceOver cs := rfl
    rw [hstep, ih]
    by_cases hc : c = '\n' <;> simp [advance, hc]
    omega

/-- A place is on an earlier line than another one, or on the same line and not behind it. -/
def NotAfter (p q : Place) : Prop := p.line < q.line ∨ p.line = q.line ∧ p.offset ≤ q.offset

theorem NotAfter.refl (p : Place) : p.NotAfter p := .inr ⟨rfl, Nat.le_refl _⟩

theorem NotAfter.trans {p q r : Place} (hpq : p.NotAfter q) (hqr : q.NotAfter r) :
    p.NotAfter r := by
  unfold NotAfter at *
  omega

theorem NotAfter.line_le {p q : Place} (h : p.NotAfter q) : p.line ≤ q.line := by
  unfold NotAfter at h
  omega

/-- Reading on does not lead back. -/
theorem notAfter_advanceOver (p : Place) (cs : List Char) : p.NotAfter (p.advanceOver cs) := by
  induction cs generalizing p with
  | nil => exact .refl p
  | cons c cs ih =>
    have hstep : p.NotAfter (p.advance c) := by
      rw [advance]
      split
      · exact .inl (Nat.lt_succ_self _)
      · exact .inr ⟨rfl, Nat.le_add_right _ _⟩
    exact hstep.trans (ih (p.advance c))

/-- After a text has been read, the line is its last one and the column is the length of
that line. -/
theorem start_advanceOver {cs last : List Char} {before : List (List Char)}
    (h : newlineLines cs = before ++ [last]) :
    (start.advanceOver cs).line = before.length + 1 ∧
      (start.advanceOver cs).column = last.length := by
  constructor
  · have hlength := length_cutAt '\n' cs
    rw [newlineLines] at h
    rw [h, List.length_append, List.length_singleton] at hlength
    rw [line_advanceOver, hlength, Nat.add_comm]
    rfl
  · induction cs using List.reverseRecOn generalizing before last with
    | nil =>
      rw [newlineLines, cutAt] at h
      obtain ⟨-, rfl⟩ : before = [] ∧ last = [] := by cases before <;> simp_all
      rfl
    | append_singleton cs c ih =>
      obtain ⟨start', piece, hp⟩ : ∃ start' piece, newlineLines cs = start' ++ [piece] :=
        ⟨_, _, (List.dropLast_concat_getLast (cutAt_ne_nil '\n' cs)).symm⟩
      have hcolumn := ih hp
      have hstep : start.advanceOver (cs ++ [c]) = (start.advanceOver cs).advance c := by
        rw [advanceOver_append]
        rfl
      by_cases hc : c = '\n'
      · rw [newlineLines, cutAt_append hp (by rw [hc]; rfl : cutAt '\n' [c] = [] :: [[]])] at h
        obtain rfl : last = [] := by simpa using (congrArg List.getLast? h).symm
        rw [hstep]
        simp [advance, hc]
      · rw [newlineLines, cutAt_append hp (by simp [cutAt, hc] : cutAt '\n' [c] = [c] :: [])] at h
        obtain rfl : last = piece ++ [c] := by simpa using (congrArg List.getLast? h).symm
        simp [hstep, advance, hc, hcolumn]

end Source.Place

namespace Span

open Source (Place)

/-- The span of a text that stands behind another one at the start of a source. -/
def ofStretch (before chars : List Char) : Span :=
  let first := Place.start.advanceOver before
  let last := first.advanceOver chars
  ⟨first.line, first.column, last.line, last.column⟩

theorem sliceBound_natCast (n k : Nat) : sliceBound n (k : Int) = min k n := by
  have hk : ¬ (k : Int) < 0 := by omega
  simp [sliceBound, hk]

theorem slice_append (left chars right : List Char) :
    slice (left ++ chars ++ right) left.length (left ++ chars).length = chars := by
  rw [slice, sliceBound_natCast, sliceBound_natCast, Nat.min_eq_left (by simp),
    Nat.min_eq_left (by simp), List.take_left, List.drop_left]

theorem sliceFrom_append (left right : List Char) :
    sliceFrom (left ++ right) left.length = right := by
  rw [sliceFrom, sliceBound_natCast, Nat.min_eq_left (by simp), List.drop_left]

theorem sliceTo_append (left right : List Char) : sliceTo (left ++ right) left.length = left := by
  rw [sliceTo, sliceBound_natCast, Nat.min_eq_left (by simp), List.take_left]

/-- The text of a span within one line. -/
theorem excerpt_of_line {s : Span} {lines : List (List Char)} {first : List Char} {n : Nat}
    (hstart : s.startLine = n + 1) (hend : s.endLine = n + 1) (hfirst : lines[n]? = some first) :
    s.excerpt lines = slice first s.startColumn s.endColumn := by
  obtain ⟨hlength, -⟩ := List.getElem?_eq_some_iff.1 hfirst
  have hfilled : lines.isEmpty = false := by
    rw [List.isEmpty_eq_false_iff]
    exact List.ne_nil_of_length_pos (by omega)
  have hposition : s.hasPosition = true := by simp [hasPosition, hstart]
  have hinside : ¬ (lines.length : Int) < n + 1 := by omega
  simp [excerpt, excerpt?, hfilled, hposition, hinside, hstart, hend, hfirst]

/-- The text of a span across lines: the end of the first, all lines between, and the start
of the last. -/
theorem excerpt_of_lines {s : Span} {lines : List (List Char)} {first last : List Char}
    {n m : Nat} (hstart : s.startLine = n + 1) (hend : s.endLine = m + 1) (hnm : n < m)
    (hfirst : lines[n]? = some first) (hlast : lines[m]? = some last) :
    s.excerpt lines = ['\n'].intercalate (sliceFrom first s.startColumn ::
      (lines.drop (n + 1)).take (m - n - 1) ++ [sliceTo last s.endColumn]) := by
  obtain ⟨hlength, -⟩ := List.getElem?_eq_some_iff.1 hlast
  have hfilled : lines.isEmpty = false := by
    rw [List.isEmpty_eq_false_iff]
    exact List.ne_nil_of_length_pos (by omega)
  have hposition : s.hasPosition = true := by simp [hasPosition, hstart]
  have hinside : ¬ (lines.length : Int) < n + 1 := by omega
  have hend' : (m : Int) + 1 ≤ lines.length := by omega
  have hne : ¬ (n : Int) + 1 = m + 1 := by omega
  have hget : signedGet? lines (m : Int) = some last := by
    simpa [signedGet?] using hlast
  have hinner : s.innerLines lines = (lines.drop (n + 1)).take (m - n - 1) := by
    have hdrop : ((n : Int) + 1).toNat = n + 1 := by omega
    have htake : ((m : Int) + 1 - (n + 1) - 1).toNat = m - n - 1 := by omega
    rw [innerLines, hstart, hend, hdrop, htake]
  simp [excerpt, excerpt?, hfilled, hposition, hinside, hstart, hend, hfirst, hne, hend', hget,
    hinner]

/-- The lines of a text hold, at the span of a stretch of it, that stretch. -/
theorem excerpt_ofStretch (before chars after : List Char) :
    (ofStretch before chars).excerpt (newlineLines (before ++ chars ++ after)) = chars := by
  obtain ⟨above, left, hbefore⟩ : ∃ above left, newlineLines before = above ++ [left] :=
    ⟨_, _, (List.dropLast_concat_getLast (cutAt_ne_nil '\n' before)).symm⟩
  obtain ⟨right, below, hafter⟩ := List.exists_cons_of_ne_nil (cutAt_ne_nil '\n' after)
  obtain ⟨hline, hcolumn⟩ := Place.start_advanceOver hbefore
  obtain ⟨-, hone⟩ | ⟨first, rest, -, -, hcut⟩ := cutAt_cases '\n' chars
  · have hread : newlineLines (before ++ chars) = above ++ [left ++ chars] :=
      cutAt_append hbefore hone
    have hlines : newlineLines (before ++ chars ++ after) =
        above ++ (left ++ chars ++ right) :: below := cutAt_append hread hafter
    obtain ⟨hline', hcolumn'⟩ := Place.start_advanceOver hread
    rw [Place.advanceOver_append] at hline' hcolumn'
    rw [excerpt_of_line (n := above.length) (by simp [ofStretch, hline])
      (by simp [ofStretch, hline'])
      (by rw [hlines]; simp : _ = some (left ++ chars ++ right))]
    simp only [ofStretch, hcolumn, hcolumn']
    exact slice_append left chars right
  · obtain ⟨inner, last, hrest⟩ : ∃ inner last, cutAt '\n' rest = inner ++ [last] :=
      ⟨_, _, (List.dropLast_concat_getLast (cutAt_ne_nil '\n' rest)).symm⟩
    rw [hrest] at hcut
    have hread : newlineLines (before ++ chars) =
        (above ++ (left ++ first) :: inner) ++ [last] := by
      rw [newlineLines, cutAt_append hbefore hcut, List.append_assoc, List.cons_append]
    have hlines : newlineLines (before ++ chars ++ after) =
        (above ++ (left ++ first) :: inner) ++ (last ++ right) :: below := cutAt_append hread hafter
    obtain ⟨hline', hcolumn'⟩ := Place.start_advanceOver hread
    rw [Place.advanceOver_append] at hline' hcolumn'
    have hfirst : (newlineLines (before ++ chars ++ after))[above.length]? =
        some (left ++ first) := by
      rw [hlines]
      simp
    have hlast : (newlineLines (before ++ chars ++ after))[
        (above ++ (left ++ first) :: inner).length]? = some (last ++ right) := by
      rw [hlines, List.getElem?_append_right (Nat.le_refl _), Nat.sub_self]
      rfl
    rw [excerpt_of_lines (by simp [ofStretch, hline]) (by simp only [ofStretch, hline']; rfl)
      (by simp) hfirst hlast]
    have hbetween : ((newlineLines (before ++ chars ++ after)).drop (above.length + 1)).take
        ((above ++ (left ++ first) :: inner).length - above.length - 1) = inner := by
      have hcount : (above ++ (left ++ first) :: inner).length - above.length - 1 =
          inner.length := by simp
      rw [hlines, hcount, List.append_assoc]
      simp
    simp only [ofStretch, hcolumn, hcolumn', sliceFrom_append, sliceTo_append]
    rw [hbetween]
    have hjoin := intercalate_cutAt '\n' chars
    rwa [hcut] at hjoin

end Span

end QueryLint
