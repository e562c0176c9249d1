import Mathlib.Data.Prod.Lex
import QueryLint.Finding.Basic
import QueryLint.Proofs.Text.Order

/-!
# The order of findings

Findings are compared by path, line, column and rule, one after another. This is the
lexicographic order of the four together, so sorting gives a list that is non-decreasing
in them, and findings that agree in all four keep their order. Nothing else is left open:
two lists that are in order and agree on the findings of each key are the same.
-/

namespace QueryLint.Finding

/-- What findings are ordered by: path, line, column and rule. -/
abbrev Key := Text.Collated ×ₗ Int ×ₗ Int ×ₗ Text.Collated

def key (f : Finding) : Key :=
  toLex (⟨f.location.path⟩, toLex (f.location.span.startLine,
    toLex (f.location.span.startColumn, ⟨f.ruleId⟩)))

/-- The rule in a key. -/
def Key.ruleId (k : Key) : String := (ofLex (ofLex (ofLex k).2).2).2.text

@[simp] theorem ruleId_key (f : Finding) : f.key.ruleId = f.ruleId := rfl

theorem comesBefore_iff (a b : Finding) : a.comesBefore b = true ↔ a.key ≤ b.key := by
  unfold comesBefore key
  simp only [Prod.Lex.toLex_le_toLex, Text.Collated.mk.injEq]
  by_cases hp : a.location.path = b.location.path
  · by_cases hl : a.location.span.startLine = b.location.span.startLine
    · by_cases hc : a.location.span.startColumn = b.location.span.startColumn
      · simp [hp, hl, hc, Text.comesNoLater_iff]
      · simp [hp, hl, hc]
    · simp [hp, hl]
  · simp [hp, Text.comesBefore_iff]

theorem comesBefore_trans (a b c : Finding) (hab : a.comesBefore b = true)
    (hbc : b.comesBefore c = true) : a.comesBefore c = true := by
  rw [comesBefore_iff] at hab hbc ⊢
  exact hab.trans hbc

theorem comesBefore_total (a b : Finding) : (a.comesBefore b || b.comesBefore a) = true := by
  rw [Bool.or_eq_true, comesBefore_iff, comesBefore_iff]
  exact le_total a.key b.key

theorem sort_perm (fs : List Finding) : (sort fs).Perm fs := List.mergeSort_perm fs _

theorem pairwise_sort (fs : List Finding) : (sort fs).Pairwise fun a b => a.key ≤ b.key := by
  refine (List.pairwise_mergeSort comesBefore_trans comesBefore_total fs).imp ?_
  intro a b h
  exact (comesBefore_iff a b).1 h

/-- Sorting is stable: the findings of one key stand in the order they came in. -/
theorem filter_key_sort (k : Key) (fs : List Finding) :
    (sort fs).filter (·.key = k) = fs.filter (·.key = k) := by
  have hequal : (fs.filter (·.key = k)).Pairwise fun a b => a.comesBefore b = true := by
    refine List.pairwise_of_forall_mem_list ?_
    intro a ha b hb
    have hka := of_decide_eq_true (List.mem_filter.1 ha).2
    have hkb := of_decide_eq_true (List.mem_filter.1 hb).2
    rw [comesBefore_iff, hka, hkb]
  have hsub : (fs.filter (·.key = k)).Sublist (sort fs) :=
    List.sublist_mergeSort comesBefore_trans comesBefore_total hequal List.filter_sublist
  have hkept : (fs.filter (·.key = k)).Sublist ((sort fs).filter (·.key = k)) := by
    simpa only [List.filter_filter, Bool.and_self] using hsub.filter (·.key = k)
  have hlength := ((sort_perm fs).filter (·.key = k)).length_eq
  exact (hkept.eq_of_length hlength.symm).symm

/-- A list put in order: everything is there, nothing stands before what has a lesser key,
and what has the same key stands in the order it came in. -/
structure Arranges (fs sorted : List Finding) : Prop where
  perm : sorted.Perm fs
  ordered : sorted.Pairwise fun a b => a.key ≤ b.key
  stable : ∀ k, sorted.filter (·.key = k) = fs.filter (·.key = k)

theorem arranges_sort (fs : List Finding) : Arranges fs (sort fs) :=
  ⟨sort_perm fs, pairwise_sort fs, fun k => filter_key_sort k fs⟩

theorem mem_of_filter_key_eq {fs gs : List Finding}
    (h : ∀ k, fs.filter (·.key = k) = gs.filter (·.key = k)) {f : Finding} (hf : f ∈ fs) :
    f ∈ gs := by
  have hown : f ∈ fs.filter (·.key = f.key) := List.mem_filter.2 ⟨hf, by simp⟩
  rw [h] at hown
  exact (List.mem_filter.1 hown).1

theorem key_le_of_mem_cons {f g : Finding} {fs : List Finding}
    (h : (f :: fs).Pairwise fun a b => a.key ≤ b.key) (hg : g ∈ f :: fs) : f.key ≤ g.key := by
  obtain rfl | hg := List.mem_cons.1 hg
  · exact le_refl g.key
  · exact (List.pairwise_cons.1 h).1 g hg

/-- Lists in order that agree key by key are the same. -/
theorem eq_of_filter_key_eq {fs gs : List Finding}
    (hf : fs.Pairwise fun a b => a.key ≤ b.key) (hg : gs.Pairwise fun a b => a.key ≤ b.key)
    (h : ∀ k, fs.filter (·.key = k) = gs.filter (·.key = k)) : fs = gs := by
  induction fs generalizing gs with
  | nil =>
    have hnone : ∀ g, g ∉ gs := by
      intro g hmem
      exact absurd (mem_of_filter_key_eq (fun k => (h k).symm) hmem) (by simp)
    exact (List.eq_nil_iff_forall_not_mem.2 hnone).symm
  | cons f fs ih =>
    cases gs with
    | nil => exact absurd (mem_of_filter_key_eq h List.mem_cons_self) (by simp)
    | cons g gs =>
      -- each list starts with a least key, and each start occurs in the other list
      have hle : f.key ≤ g.key :=
        key_le_of_mem_cons hf (mem_of_filter_key_eq (fun k => (h k).symm) List.mem_cons_self)
      have hge : g.key ≤ f.key :=
        key_le_of_mem_cons hg (mem_of_filter_key_eq h List.mem_cons_self)
      have hkey : f.key = g.key := le_antisymm hle hge
      have hfirst := h f.key
      simp only [hkey, decide_true, List.filter_cons_of_pos] at hfirst
      obtain ⟨rfl, hsame⟩ := List.cons.inj hfirst
      congr 1
      refine ih (List.pairwise_cons.1 hf).2 (List.pairwise_cons.1 hg).2 fun k => ?_
      by_cases hk : f.key = k
      · rw [← hk]
        exact hsame
      · simpa [hk] using h k

theorem sort_eq_of_filter_key_eq {fs gs : List Finding}
    (h : ∀ k, fs.filter (·.key = k) = gs.filter (·.key = k)) : sort fs = sort gs := by
  refine eq_of_filter_key_eq (pairwise_sort fs) (pairwise_sort gs) fun k => ?_
  rw [filter_key_sort, filter_key_sort, h]

theorem sort_eq_self {fs : List Finding} (h : fs.Pairwise fun a b => a.key ≤ b.key) :
    sort fs = fs :=
  eq_of_filter_key_eq (pairwise_sort fs) h fun k => filter_key_sort k fs

/-- It makes no difference whether findings are picked out before or after they are sorted. -/
theorem filter_sort (p : Finding → Bool) (fs : List Finding) :
    (sort fs).filter p = sort (fs.filter p) := by
  refine eq_of_filter_key_eq ((pairwise_sort fs).filter p) (pairwise_sort _) fun k => ?_
  rw [filter_key_sort, List.filter_comm, filter_key_sort, List.filter_comm]

/-- Of two lists in order, one is a part of the other if it is so key by key. -/
theorem sublist_of_filter_key_sublist {fs gs : List Finding}
    (hf : fs.Pairwise fun a b => a.key ≤ b.key) (hg : gs.Pairwise fun a b => a.key ≤ b.key)
    (h : ∀ k, (fs.filter (·.key = k)).Sublist (gs.filter (·.key = k))) : fs.Sublist gs := by
  induction gs generalizing fs with
  | nil =>
    cases fs with
    | nil => exact .slnil
    | cons f fs => simpa using h f.key
  | cons g gs ih =>
    have hg' := (List.pairwise_cons.1 hg).2
    cases fs with
    | nil => exact List.nil_sublist _
    | cons f fs =>
      have hrest : ∀ k, g.key ≠ k →
          ((f :: fs).filter (·.key = k)).Sublist (gs.filter (·.key = k)) := by
        intro k hk
        simpa [hk] using h k
      by_cases hkey : f.key = g.key
      · have hfirst := h g.key
        simp only [hkey, decide_true, List.filter_cons_of_pos] at hfirst
        cases hfirst with
        | cons _ hfirst =>
          refine (ih hf hg' fun k => ?_).cons g
          by_cases hk : g.key = k
          · simpa [hkey, ← hk] using hfirst
          · exact hrest k hk
        | cons_cons _ hfirst =>
          refine (ih (List.pairwise_cons.1 hf).2 hg' fun k => ?_).cons_cons g
          by_cases hk : g.key = k
          · simpa [← hk] using hfirst
          · simpa [hk] using hrest k hk
      · -- the longer list starts with a lesser key, which the shorter one does not have
        have hmem : f ∈ (g :: gs).filter (·.key = f.key) := (h f.key).subset (by simp)
        have hle : g.key ≤ f.key := key_le_of_mem_cons hg (List.mem_filter.1 hmem).1
        have hnone : (f :: fs).filter (·.key = g.key) = [] := by
          refine List.filter_eq_nil_iff.2 fun a ha hak => hkey ?_
          have hfa := key_le_of_mem_cons hf ha
          rw [of_decide_eq_true hak] at hfa
          exact le_antisymm hfa hle
        refine (ih hf hg' fun k => ?_).cons g
        by_cases hk : g.key = k
        · rw [← hk, hnone]
          exact List.nil_sublist _
        · exact hrest k hk

theorem sort_sublist {fs gs : List Finding} (h : fs.Sublist gs) : (sort fs).Sublist (sort gs) := by
  refine sublist_of_filter_key_sublist (pairwise_sort fs) (pairwise_sort gs) fun k => ?_
  rw [filter_key_sort, filter_key_sort]
  exact h.filter _

/-- If what comes from a source bears its label, then findings can be picked out by their label
or come from sources that are picked out by it. -/
theorem filter_flatMap_by_label {α γ : Type} {label : Finding → γ} {owner : α → γ}
    {report : α → List Finding} {sources : List α}
    (h : ∀ a ∈ sources, ∀ f ∈ report a, label f = owner a) (p : γ → Bool) :
    (sources.flatMap report).filter (fun f => p (label f)) =
      (sources.filter fun a => p (owner a)).flatMap report := by
  induction sources with
  | nil => rfl
  | cons a sources ih =>
    have hrest := ih fun b hb => h b (List.mem_cons_of_mem a hb)
    have hown := h a List.mem_cons_self
    rw [List.flatMap_cons, List.filter_append, hrest]
    by_cases hc : p (owner a) = true
    · have hall : (report a).filter (fun f => p (label f)) = report a := by
        refine List.filter_eq_self.2 fun f hf => ?_
        rw [hown f hf, hc]
      simp [hc, hall]
    · have hnone : (report a).filter (fun f => p (label f)) = [] := by
        refine List.filter_eq_nil_iff.2 fun f hf => ?_
        rwa [hown f hf]
      simp [hc, hnone]

/-- What bears a label comes from the sources of that label. -/
theorem filter_flatMap_of_label {α γ : Type} [DecidableEq γ] (label : Finding → γ)
    (owner : α → γ) (report : α → List Finding) (sources : List α)
    (h : ∀ a ∈ sources, ∀ f ∈ report a, label f = owner a) (c : γ) :
    (sources.flatMap report).filter (label · = c) =
      (sources.filter (owner · = c)).flatMap report :=
  filter_flatMap_by_label h fun x => decide (x = c)

/-- A label that is part of the key leads from a key to the sources of its findings. -/
theorem filter_key_flatMap_of_label {α γ : Type} [DecidableEq γ] {label : Finding → γ}
    {part : Key → γ} (hpart : ∀ f : Finding, part f.key = label f) {owner : α → γ}
    {report : α → List Finding} {sources : List α}
    (h : ∀ a ∈ sources, ∀ f ∈ report a, label f = owner a) (k : Key) :
    (sources.flatMap report).filter (·.key = k) =
      ((sources.filter (owner · = part k)).flatMap report).filter (·.key = k) := by
  rw [← filter_flatMap_of_label label owner report sources h, List.filter_filter]
  refine List.filter_congr fun f _ => ?_
  by_cases hk : f.key = k
  · subst hk
    simp [hpart]
  · simp [hk]

end QueryLint.Finding
