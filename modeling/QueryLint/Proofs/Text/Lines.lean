import Mathlib.Data.List.Basic
import QueryLint.Text.Lines

/-!
# The two ways to count lines

Lines cut at newline characters and the lines of a text view are compared. The two agree
up to the first line that holds another kind of line break, and no further: a line of a
view never holds a break of any kind.
-/

namespace QueryLint.Text

theorem cutAt_eq_splitOn (sep : Char) (cs : List Char) : cutAt sep cs = cs.splitOn sep := by
  induction cs with
  | nil => rfl
  | cons c rest ih =>
    obtain ⟨piece, pieces, hp⟩ := List.exists_cons_of_ne_nil (List.splitOn_ne_nil sep rest)
    rw [List.splitOn_cons_eq_if_modifyHead, hp]
    by_cases hc : c = sep <;> simp [cutAt, ih, hp, hc]

theorem cutAt_ne_nil (sep : Char) (cs : List Char) : cutAt sep cs ≠ [] := by
  rw [cutAt_eq_splitOn]
  exact List.splitOn_ne_nil sep cs

theorem intercalate_cutAt (sep : Char) (cs : List Char) :
    [sep].intercalate (cutAt sep cs) = cs := by
  rw [cutAt_eq_splitOn, List.intercalate_splitOn]

/-- A character of a text is a separator or stands in a piece. -/
theorem eq_or_mem_cutAt (sep : Char) {c : Char} {cs : List Char} (h : c ∈ cs) :
    c = sep ∨ ∃ piece ∈ cutAt sep cs, c ∈ piece := by
  induction cs with
  | nil => cases h
  | cons d rest ih =>
    obtain ⟨piece, pieces, hcut⟩ := List.exists_cons_of_ne_nil (cutAt_ne_nil sep rest)
    rw [hcut] at ih
    by_cases hd : d = sep
    · obtain rfl | h := List.mem_cons.1 h
      · exact .inl hd
      · simpa [cutAt, hcut, hd] using ih h
    · obtain rfl | h := List.mem_cons.1 h
      · exact .inr ⟨c :: piece, by simp [cutAt, hcut, hd], by simp⟩
      · obtain hc | ⟨p, hp, hc⟩ := ih h
        · exact .inl hc
        · obtain rfl | hp := List.mem_cons.1 hp
          · exact .inr ⟨d :: p, by simp [cutAt, hcut, hd], by simp [hc]⟩
          · exact .inr ⟨p, by simp [cutAt, hcut, hd, hp], hc⟩

/-- No piece holds a separator. -/
theorem not_mem_of_mem_cutAt {sep : Char} {cs piece : List Char} (h : piece ∈ cutAt sep cs) :
    sep ∉ piece := by
  induction cs generalizing piece with
  | nil => simp_all [cutAt]
  | cons c cs ih =>
    obtain ⟨first, pieces, hcut⟩ := List.exists_cons_of_ne_nil (cutAt_ne_nil sep cs)
    rw [hcut] at ih
    by_cases hc : c = sep
    · rw [cutAt, hcut] at h
      simp only [if_pos hc, List.mem_cons] at h
      obtain rfl | h := h
      · simp
      · exact ih (by simpa using h)
    · rw [cutAt, hcut] at h
      simp only [if_neg hc, List.mem_cons] at h
      obtain rfl | h := h
      · simpa using ⟨Ne.symm hc, ih List.mem_cons_self⟩
      · exact ih (List.mem_cons_of_mem first h)

/-- The first piece reaches to the first separator, or to the end. -/
theorem cutAt_cases (sep : Char) (cs : List Char) :
    (sep ∉ cs ∧ cutAt sep cs = [cs]) ∨
      ∃ piece rest, cs = piece ++ sep :: rest ∧ sep ∉ piece ∧
        cutAt sep cs = piece :: cutAt sep rest := by
  simp only [cutAt_eq_splitOn]
  by_cases h : sep ∈ cs
  · obtain ⟨piece, rest, rfl, hnone⟩ := List.eq_append_cons_of_mem h
    exact .inr ⟨piece, rest, rfl, hnone, List.splitOn_append_cons_self_of_not_mem hnone rest⟩
  · exact .inl ⟨h, List.splitOn_eq_singleton h⟩

theorem cutAt_append_of_not_mem {sep : Char} {cs ds first : List Char} {after : List (List Char)}
    (hc : sep ∉ cs) (hd : cutAt sep ds = first :: after) :
    cutAt sep (cs ++ ds) = (cs ++ first) :: after := by
  induction cs with
  | nil => exact hd
  | cons c cs ih =>
    obtain ⟨hne, hnone⟩ : sep ≠ c ∧ sep ∉ cs := by simpa using hc
    simp [cutAt, ih hnone, hne.symm]

/-- Where two texts meet, the last piece of one and the first of the other are one. -/
theorem cutAt_append {sep : Char} {cs ds first last : List Char} {before after : List (List Char)}
    (hc : cutAt sep cs = before ++ [last]) (hd : cutAt sep ds = first :: after) :
    cutAt sep (cs ++ ds) = before ++ (last ++ first) :: after := by
  induction before generalizing cs with
  | nil =>
    obtain ⟨hnone, hcut⟩ | ⟨piece, rest, -, -, hcut⟩ := cutAt_cases sep cs
    · obtain rfl : cs = last := by simpa [hcut] using hc
      exact cutAt_append_of_not_mem hnone hd
    · rw [hcut] at hc
      exact absurd (List.cons.inj hc).2 (cutAt_ne_nil sep rest)
  | cons b before ih =>
    obtain ⟨-, hcut⟩ | ⟨piece, rest, rfl, hnone, hcut⟩ := cutAt_cases sep cs
    · rw [hcut] at hc
      simp at hc
    · rw [hcut] at hc
      obtain ⟨rfl, hrest⟩ := List.cons.inj hc
      have hstep := List.splitOn_append_cons_self_of_not_mem hnone (rest ++ ds)
      rw [← cutAt_eq_splitOn, ← cutAt_eq_splitOn, ih hrest] at hstep
      simpa using hstep

/-- A separator ends one piece and starts the next. -/
theorem cutAt_append_cons_self (sep : Char) (cs ds : List Char) :
    cutAt sep (cs ++ sep :: ds) = cutAt sep cs ++ cutAt sep ds := by
  obtain ⟨first, after, hd⟩ := List.exists_cons_of_ne_nil (cutAt_ne_nil sep ds)
  have hcut : cutAt sep (sep :: ds) = [] :: first :: after := by simp [cutAt, hd]
  have hjoin := cutAt_append (List.dropLast_append_getLast (cutAt_ne_nil sep cs)).symm hcut
  rw [hjoin, hd, List.append_nil, List.append_cons, List.dropLast_append_getLast]

theorem length_cutAt (sep : Char) (cs : List Char) :
    (cutAt sep cs).length = cs.count sep + 1 := by
  induction cs with
  | nil => rfl
  | cons c cs ih =>
    obtain ⟨piece, pieces, hp⟩ := List.exists_cons_of_ne_nil (cutAt_ne_nil sep cs)
    rw [hp] at ih
    by_cases hc : c = sep <;> simp_all [cutAt]

/-- No piece is longer than the text. -/
theorem length_le_of_mem_cutAt {sep : Char} {cs piece : List Char} (h : piece ∈ cutAt sep cs) :
    piece.length ≤ cs.length := by
  induction cs generalizing piece with
  | nil => simp_all [cutAt]
  | cons c cs ih =>
    obtain ⟨first, pieces, hcut⟩ := List.exists_cons_of_ne_nil (cutAt_ne_nil sep cs)
    rw [hcut] at ih
    by_cases hc : c = sep
    · have hpieces : cutAt sep (c :: cs) = [] :: first :: pieces := by simp [cutAt, hcut, hc]
      rw [hpieces] at h
      obtain rfl | h := List.mem_cons.1 h
      · exact Nat.zero_le _
      · exact Nat.le_trans (ih h) (Nat.le_succ _)
    · have hpieces : cutAt sep (c :: cs) = (c :: first) :: pieces := by simp [cutAt, hcut, hc]
      rw [hpieces] at h
      obtain rfl | h := List.mem_cons.1 h
      · exact Nat.succ_le_succ (ih List.mem_cons_self)
      · exact Nat.le_trans (ih (List.mem_cons_of_mem first h)) (Nat.le_succ _)

theorem length_viewLinesFrom_le (line cs : List Char) :
    (viewLinesFrom line cs).length ≤ cs.length + 1 := by
  fun_induction viewLinesFrom line cs with grind

/-- No line of a view is longer than the text. -/
theorem length_le_of_mem_viewLinesFrom {line cs : List Char} :
    ∀ l ∈ viewLinesFrom line cs, l.length ≤ line.length + cs.length := by
  fun_induction viewLinesFrom line cs with grind

/-- No line of a view holds a break. -/
theorem not_isLineBreak_of_mem_viewLinesFrom {line cs : List Char}
    (hline : ∀ c ∈ line, isLineBreak c = false) :
    ∀ l ∈ viewLinesFrom line cs, ∀ c ∈ l, isLineBreak c = false := by
  fun_induction viewLinesFrom line cs with
  | case1 => simp
  | case2 line hfull => simpa using hline
  | case3 line rest ih => simpa using ⟨hline, ih (by simp)⟩
  | case4 line c rest _ hbreak ih => simpa using ⟨hline, ih (by simp)⟩
  | case5 line c rest _ hplain ih => exact ih (by simpa [hplain] using hline)

theorem viewLinesFrom_append {line cs rest : List Char}
    (h : ∀ c ∈ cs, isLineBreak c = false) :
    viewLinesFrom line (cs ++ rest) = viewLinesFrom (cs.reverse ++ line) rest := by
  induction cs generalizing line with
  | nil => rfl
  | cons c cs ih =>
    obtain ⟨hc, hcs⟩ : isLineBreak c = false ∧ ∀ d ∈ cs, isLineBreak d = false := by
      simpa using h
    have hreturn : c ≠ '\r' := by
      rintro rfl
      exact Bool.noConfusion hc
    rw [List.cons_append, viewLinesFrom.eq_3 line c (cs ++ rest) fun _ he => absurd he hreturn, hc]
    simpa using ih hcs

/-- As far as lines hold no breaks of their own, a view has the same lines. -/
theorem getD_viewLinesFrom {cs : List Char} {n : Nat}
    (h : ∀ l ∈ (newlineLines cs).take n, ∀ c ∈ l, isLineBreak c = false) {i : Nat} (hi : i < n) :
    ((viewLinesFrom [] cs)[i]?).getD [] = ((newlineLines cs)[i]?).getD [] := by
  induction n generalizing cs i with
  | zero => omega
  | succ n ih =>
    obtain ⟨hnone, hcut⟩ | ⟨piece, rest, rfl, hnone, hcut⟩ := cutAt_cases '\n' cs
    · -- the last line: a view leaves it out if it is empty
      rw [newlineLines, hcut] at h ⊢
      have hview : viewLinesFrom [] (cs ++ []) = viewLinesFrom (cs.reverse ++ []) [] :=
        viewLinesFrom_append (by simpa using h)
      rw [List.append_nil] at hview
      rw [hview, viewLinesFrom]
      cases i <;> cases cs <;> simp
    · rw [newlineLines, hcut, List.take_succ_cons, List.forall_mem_cons] at h
      have hview : viewLinesFrom [] (piece ++ '\n' :: rest) =
          viewLinesFrom (piece.reverse ++ []) ('\n' :: rest) := viewLinesFrom_append h.1
      rw [hview, newlineLines, hcut, viewLinesFrom.eq_3 _ _ _ (by simp)]
      cases i with
      | zero => simp [isLineBreak]
      | succ i => simpa [isLineBreak, newlineLines] using ih h.2 (by omega)

/-- Two ways to count agree on the first lines exactly if these hold no breaks other than
newlines. -/
theorem viewLinesFrom_agrees_iff (cs : List Char) {n : Nat} (hn : n ≤ (newlineLines cs).length) :
    (∀ i < n, ((viewLinesFrom [] cs)[i]?).getD [] = ((newlineLines cs)[i]?).getD []) ↔
      ∀ l ∈ (newlineLines cs).take n, ∀ c ∈ l, isLineBreak c = false := by
  refine ⟨fun h l hl => ?_, fun h i hi => getD_viewLinesFrom h hi⟩
  obtain ⟨i, hi, rfl⟩ := List.mem_iff_getElem.1 hl
  rw [List.length_take] at hi
  have hagree := h i (by omega)
  rw [List.getElem?_eq_getElem (by omega : i < (newlineLines cs).length),
    Option.getD_some] at hagree
  rw [List.getElem_take, ← hagree]
  cases hv : (viewLinesFrom [] cs)[i]? with
  | none => simp
  | some v => exact not_isLineBreak_of_mem_viewLinesFrom (by simp) v (List.mem_of_getElem? hv)

end QueryLint.Text
