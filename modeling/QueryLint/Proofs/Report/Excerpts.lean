import Mathlib.Data.List.GetD
import QueryLint.Context
import QueryLint.Proofs.Source.Places
import QueryLint.Report.Text

/-!
# The numbers of the lines around a finding

A snippet holds a line of a text with those before and after it, cut off at the ends of the text,
and only the number of the line itself. A report for readers counts the others from it. They come
out with their own numbers: what is printed of a snippet are the lines of the text that are at most
so many away, each once and in order, and below its line stand the carets.
-/

namespace QueryLint

open Text (padLeft viewLines)

theorem Text.slice_natCast {α : Type} {xs : List α} {i j : Nat} (hle : i ≤ j)
    (hinside : j ≤ xs.length) : slice xs i j = (xs.drop i).take (j - i) := by
  rw [slice, Span.sliceBound_natCast, Span.sliceBound_natCast, Nat.min_eq_left hinside,
    Nat.min_eq_left (Nat.le_trans hle hinside), List.drop_take]

theorem Text.length_slice_le {α : Type} (xs : List α) (i j : Int) :
    (slice xs i j).length ≤ xs.length := by
  rw [slice, List.length_drop, List.length_take]
  omega

namespace Context

variable {lines : List String} {n : Nat}

theorem before_snippetOf (k : Nat) (hfirst : 1 ≤ n) (hlast : n ≤ lines.length) :
    (snippetOf lines n k).before = (lines.drop (n - 1 - k)).take (n - 1 - (n - 1 - k)) := by
  have hstart : max 0 ((n : Int) - k - 1) = (n - 1 - k : Nat) := by omega
  have hstop : (n : Int) - 1 = (n - 1 : Nat) := by omega
  rw [← Text.slice_natCast (by omega) (by omega), ← hstart, ← hstop]
  rfl

theorem after_snippetOf (k : Nat) (hlast : n ≤ lines.length) :
    (snippetOf lines n k).after = (lines.drop n).take (min lines.length (n + k) - n) := by
  have hstop : min (lines.length : Int) (n + k) = (min lines.length (n + k) : Nat) := by omega
  rw [← Text.slice_natCast (by omega) (by omega), ← hstop]
  rfl

theorem length_before_snippetOf_le (lines : List String) (line size : Int) :
    (snippetOf lines line size).before.length ≤ lines.length := Text.length_slice_le ..

theorem length_after_snippetOf_le (lines : List String) (line size : Int) :
    (snippetOf lines line size).after.length ≤ lines.length := Text.length_slice_le ..

/-- What is shown as a line is no longer than any bound for the lines. -/
theorem length_code_snippetOf_le {lines : List String} {bound : Nat}
    (h : ∀ l ∈ lines, l.length ≤ bound) (line size : Int) :
    (snippetOf lines line size).code.length ≤ bound := by
  rw [snippetOf]
  dsimp only
  split
  · cases hline : lines[(line - 1).toNat]? with
    | none => exact Nat.zero_le _
    | some l => exact h l (List.mem_of_getElem? hline)
  · exact Nat.zero_le _

theorem code_snippetOf_of_le (k : Nat) (hfirst : 1 ≤ n) (hlast : n ≤ lines.length) :
    (snippetOf lines n k).code = lines.getD (n - 1) "" := by
  have hindex : ((n : Int) - 1).toNat = n - 1 := by omega
  rw [snippetOf, if_pos (by omega), hindex, List.getD_eq_getElem?_getD]

end Context

namespace Report.Text

/-- A line of a text, counted from one, behind its number. -/
def rowOf (lines : List String) (i : Nat) : Row := numbered i (lines.getD (i - 1) "")

/-- Consecutive lines of a text that are counted from the number of the first have their own
numbers. -/
theorem numberedFrom_take_drop {lines : List String} {a count : Nat}
    (h : a + count ≤ lines.length) :
    numberedFrom ((a : Int) + 1) ((lines.drop a).take count) =
      (List.range' (a + 1) count).map (rowOf lines) := by
  induction count generalizing a with
  | zero => rfl
  | succ count ih =>
    have hinside : a < lines.length := by omega
    have hnext := ih (a := a + 1) (by omega)
    rw [List.drop_eq_getElem_cons hinside, List.take_succ_cons, numberedFrom, List.range'_succ,
      List.map_cons, rowOf, Nat.add_sub_cancel, List.getD_eq_getElem _ _ hinside]
    exact congrArg _ hnext

section

variable {lines : List String} {n : Nat} (k : Nat)

theorem numberedFrom_before (hfirst : 1 ≤ n) (hlast : n ≤ lines.length) :
    let before := (Context.snippetOf lines n k).before
    numberedFrom ((n : Int) - before.length) before =
      (List.range' (max 1 (n - k)) (n - max 1 (n - k))).map (rowOf lines) := by
  intro before
  have hbefore : before = _ := Context.before_snippetOf k hfirst hlast
  have hlength : before.length = n - 1 - (n - 1 - k) := by
    rw [hbefore, List.length_take, List.length_drop]
    omega
  have hnumber : (n : Int) - before.length = ((n - 1 - k : Nat) : Int) + 1 := by omega
  have hstart : n - 1 - k + 1 = max 1 (n - k) := by omega
  have hcount : n - 1 - (n - 1 - k) = n - max 1 (n - k) := by omega
  rw [hnumber, hbefore, numberedFrom_take_drop (by omega), hstart, hcount]

theorem numberedFrom_after (hlast : n ≤ lines.length) :
    numberedFrom ((n : Int) + 1) (Context.snippetOf lines n k).after =
      (List.range' (n + 1) (min lines.length (n + k) - n)).map (rowOf lines) := by
  rw [Context.after_snippetOf k hlast, numberedFrom_take_drop (by omega)]

end

/-- A line of a text as it is printed: its number at the right end of a field of five, a bar, and
the line. -/
def printed (lines : List String) (i : Nat) : String :=
  "    " ++ padLeft 5 (toString i) ++ " | " ++ lines.getD (i - 1) ""

/-- The row of carets below the line of a finding. -/
def caretLine (s : Style) (f : Finding) (code : String) : String :=
  "          | " ++ s.paint (severityPaint f.severity) (carets f.location code)

/-- What is printed of a line: the one of the finding as it is, with the carets below it, and any
other one dimmed. -/
def printedAt (s : Style) (f : Finding) (lines : List String) (n i : Nat) : List String :=
  if i = n then [printed lines n, caretLine s f (lines.getD (n - 1) "")]
  else [s.paint .dim (printed lines i)]

/-- Rows as they stand around the line of a finding. -/
def dimmed (s : Style) (rows : List Row) : List String := rows.map fun r => s.paint .dim r.display

/-- Lines other than that of the finding are dimmed, one by one. -/
theorem flatMap_printedAt {s : Style} {f : Finding} {lines : List String} {n : Nat}
    {numbers : List Nat} (h : n ∉ numbers) :
    numbers.flatMap (printedAt s f lines n) = dimmed s (numbers.map (rowOf lines)) := by
  induction numbers with
  | nil => rfl
  | cons i numbers ih =>
    obtain ⟨hne, hrest⟩ := List.ne_and_not_mem_of_not_mem_cons h
    rw [List.flatMap_cons, ih hrest, printedAt, if_neg hne.symm]
    rfl

/-- The lines from one before the finding to one behind it are those before it, its own, and those
behind it. -/
theorem range'_around {first n last : Nat} (hfirst : first ≤ n) (hlast : n ≤ last) :
    List.range' first (last + 1 - first) =
      List.range' first (n - first) ++ n :: List.range' (n + 1) (last - n) := by
  have hcount : last + 1 - first = (n - first) + ((last - n) + 1) := by omega
  have hnext : first + (n - first) = n := by omega
  rw [hcount, ← List.range'_append_1, hnext, List.range'_succ]

theorem caret_mem_carets (l : Location) (code : String) : '^' ∈ (carets l code).toList := by
  rw [carets, caretWidth, caretRow, String.toList_ofList]
  refine List.mem_append_right _ (List.mem_replicate.2 ⟨?_, rfl⟩)
  omega

section

variable {s : Style} {c : Context} {n k : Nat} {f : Finding}

/-- The lines of an excerpt are those around the line of the finding, each with its own number, and
the carets below it. -/
theorem excerptLines_snippet (hverbose : s.verbose = true) (hfirst : 1 ≤ n)
    (hlast : n ≤ c.lines.length) :
    excerptLines s f.severity (excerptOf f.location (c.snippet n k)) =
      (List.range' (max 1 (n - k)) (min c.lines.length (n + k) + 1 - max 1 (n - k))).flatMap
        (printedAt s f c.lines n) := by
  have hbefore : n ∉ List.range' (max 1 (n - k)) (n - max 1 (n - k)) := by
    rw [List.mem_range'_1]
    omega
  have hafter : n ∉ List.range' (n + 1) (min c.lines.length (n + k) - n) := by
    rw [List.mem_range'_1]
    omega
  have hcode : (c.snippet n k).code = c.lines.getD (n - 1) "" :=
    Context.code_snippetOf_of_le k hfirst hlast
  calc excerptLines s f.severity (excerptOf f.location (c.snippet n k))
      = dimmed s (excerptOf f.location (c.snippet n k)).before ++
          [(rowOf c.lines n).display, caretLine s f (c.lines.getD (n - 1) "")] ++
          dimmed s (excerptOf f.location (c.snippet n k)).after := by
        rw [excerptLines, hverbose, rowOf, ← hcode]
        rfl
    _ = dimmed s ((List.range' (max 1 (n - k)) (n - max 1 (n - k))).map (rowOf c.lines)) ++
          printedAt s f c.lines n n ++ dimmed s
          ((List.range' (n + 1) (min c.lines.length (n + k) - n)).map (rowOf c.lines)) := by
        rw [← numberedFrom_before k hfirst hlast, ← numberedFrom_after k hlast, printedAt,
          if_pos rfl]
        rfl
    _ = _ := by
        rw [← flatMap_printedAt hbefore, ← flatMap_printedAt hafter,
          range'_around (by omega : max 1 (n - k) ≤ n) (by omega), List.flatMap_append,
          List.flatMap_cons, List.append_assoc]

/-- A verbose report prints of a finding, besides its head, its message and the name it was traced
from, exactly the lines from `n - k` to `n + k` that the text has, in order, each with its own
number, and a row with carets right below the line of the finding. -/
theorem findingLines_number_context (hverbose : s.verbose = true) (hfirst : 1 ≤ n)
    (hlast : n ≤ c.lines.length) (hsnippet : f.snippet = some (c.snippet n k)) :
    let first := max 1 (n - k)
    let last := min c.lines.length (n + k)
    findingLines s f = headLine s (entry f) :: (viewLines f.description).map ("    " ++ ·) ++
      (List.range' first (last + 1 - first)).flatMap (printedAt s f c.lines n) ++
      traceLines s (traceOf f.metadata) ∧
    '^' ∈ (carets f.location (c.lines.getD (n - 1) "")).toList := by
  intro first last
  have hexcerpt : (entry f).excerpt = some (excerptOf f.location (c.snippet n k)) := by
    rw [entry, hsnippet]
    rfl
  refine ⟨?_, caret_mem_carets _ _⟩
  rw [findingLines, entryLines, hexcerpt, ← excerptLines_snippet hverbose hfirst hlast]
  rfl

end

/-- A snippet with five lines before and behind is cut off at both ends of a text of three. -/
theorem findingLines_number_context_at_both_ends :
    let c : Context := ⟨"a.py", "one\ntwo\r\nthree", "python", none⟩
    let f : Finding := { (default : Finding) with
      location := ⟨"a.py", ⟨2, 1, 2, 3⟩⟩, snippet := some (c.snippet 2 5) }
    (findingLines ⟨false, true, false⟩ f).drop 1 =
      ["        1 | one", "        2 | two", "          |  ^^", "        3 | three"] := by
  intro c f
  have hlines : c.lines.length = 3 := by decide +kernel
  obtain ⟨hprinted, -⟩ := findingLines_number_context (s := ⟨false, true, false⟩) (c := c)
    (n := 2) (k := 5) (f := f) rfl (by decide) (by omega) rfl
  rw [hprinted]
  decide +kernel

end Report.Text

end QueryLint
