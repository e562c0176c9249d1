import Mathlib.Data.List.Lex
import Mathlib.Data.Prod.Lex
import QueryLint.Source.Ast

/-!
# The constructs inside a construct

A way leads from a construct to one inside it, step by step: each step names a field by its
position, and an item of the list that the field holds. Ways never lead through an operator.
In the order of their ways, which is the order of the fields, a construct comes before all
those inside it.
-/

namespace QueryLint.Source

/-- A step into a field, and there to an item; a field with a single tree has it as item zero.
Steps are ordered by field, and within a field by item. -/
abbrev Step := ℕ ×ₗ ℕ

/-- The tree at a position of a list. -/
def Items.get? : Items → Nat → Option Ast
  | .nil, _ => none
  | .tree a _, 0 => some a
  | .other _, 0 => none
  | .tree _ rest, j + 1 | .other rest, j + 1 => rest.get? j

/-- The tree that the field at one position holds at another. -/
def Fields.get? : Fields → Nat → Nat → Option Ast
  | .nil, _, _ => none
  | .child _ a _, 0, j => if j = 0 then some a else none
  | .items _ list _, 0, j => list.get? j
  | .plain _ _, 0, _ => none
  | .child _ _ rest, i + 1, j | .items _ _ rest, i + 1, j | .plain _ rest, i + 1, j =>
      rest.get? i j

/-- A way leads from one construct to another, and not through an operator. -/
inductive Ast.Reaches : Ast → List Step → Ast → Prop
  | here (a : Ast) : Reaches a [] a
  | step {a b c : Ast} {i j : Nat} {way : List Step} :
      a.fields.get? i j = some b → b.form ≠ .operator → Reaches b way c →
        Reaches a (toLex (i, j) :: way) c

/-- What a construct has inside, seen from one step further out. -/
def behind (s : Step) (inside : List (List Step × Ast)) : List (List Step × Ast) :=
  inside.map fun x => (s :: x.1, x.2)

mutual

/-- A construct and all those inside it, with the ways to them. -/
def Ast.constructs : Ast → List (List Step × Ast)
  | .node form value extent fields =>
      ([], .node form value extent fields) :: fields.constructs 0

/-- The constructs in some fields, the first of which has the given position. -/
def Fields.constructs : Fields → Nat → List (List Step × Ast)
  | .nil, _ => []
  | .child _ a rest, i =>
      (if a.form = .operator then [] else behind (toLex (i, 0)) a.constructs) ++
        rest.constructs (i + 1)
  | .items _ list rest, i => list.constructs i 0 ++ rest.constructs (i + 1)
  | .plain _ rest, i => rest.constructs (i + 1)

/-- The constructs in a list, or in what is left of it from a position on. -/
def Items.constructs : Items → Nat → Nat → List (List Step × Ast)
  | .nil, _, _ => []
  | .tree a rest, i, j =>
      (if a.form = .operator then [] else behind (toLex (i, j)) a.constructs) ++
        rest.constructs i (j + 1)
  | .other rest, i, j => rest.constructs i (j + 1)

end

theorem mem_behind_iff {s : Step} {inside : List (List Step × Ast)} {way : List Step} {b : Ast} :
    (way, b) ∈ behind s inside ↔ ∃ rest, way = s :: rest ∧ (rest, b) ∈ inside := by
  unfold behind
  rw [List.mem_map]
  constructor
  · rintro ⟨⟨rest, c⟩, hmem, heq⟩
    cases heq
    exact ⟨rest, rfl, hmem⟩
  · rintro ⟨rest, rfl, hmem⟩
    exact ⟨(rest, b), hmem, rfl⟩

theorem mem_behind_of_not_operator_iff {s : Step} {a b : Ast} {way : List Step} :
    (way, b) ∈ (if a.form = .operator then [] else behind s a.constructs) ↔
      a.form ≠ .operator ∧ ∃ rest, way = s :: rest ∧ (rest, b) ∈ a.constructs := by
  by_cases hform : a.form = .operator
  · simp [hform]
  · rw [if_neg hform, mem_behind_iff]
    simp [hform]

theorem Items.mem_constructs_iff (i : Nat) {way : List Step} {b : Ast} :
    (list : Items) → (k : Nat) → ((way, b) ∈ list.constructs i k ↔
      ∃ j c rest, way = toLex (i, k + j) :: rest ∧ list.get? j = some c ∧ c.form ≠ .operator ∧
        (rest, b) ∈ c.constructs)
  | .nil, k => by simp [constructs, get?]
  | .tree a list, k => by
    rw [constructs, List.mem_append, mem_behind_of_not_operator_iff, mem_constructs_iff i list]
    refine Iff.trans ?_ Nat.or_exists_add_one
    refine or_congr ?_ (exists_congr fun j => ?_)
    · constructor
      · rintro ⟨hform, rest, rfl, hmem⟩
        exact ⟨a, rest, rfl, rfl, hform, hmem⟩
      · rintro ⟨c, rest, rfl, hget, hform, hmem⟩
        cases hget
        exact ⟨hform, rest, rfl, hmem⟩
    · rw [Nat.add_right_comm]
      rfl
  | .other list, k => by
    rw [constructs, mem_constructs_iff i list]
    refine Iff.trans ?_ Nat.or_exists_add_one
    refine Iff.trans (exists_congr fun j => ?_) (or_iff_right (by simp [get?])).symm
    rw [Nat.add_right_comm]
    rfl

theorem Fields.mem_constructs_iff {way : List Step} {b : Ast} :
    (fields : Fields) → (k : Nat) → ((way, b) ∈ fields.constructs k ↔
      ∃ i j c rest, way = toLex (k + i, j) :: rest ∧ fields.get? i j = some c ∧
        c.form ≠ .operator ∧ (rest, b) ∈ c.constructs)
  | .nil, k => by simp [constructs, get?]
  | .child _ a fields, k => by
    rw [constructs, List.mem_append, mem_behind_of_not_operator_iff, mem_constructs_iff fields]
    refine Iff.trans ?_ Nat.or_exists_add_one
    refine or_congr ?_ (exists_congr fun i => ?_)
    · constructor
      · rintro ⟨hform, rest, rfl, hmem⟩
        exact ⟨0, a, rest, rfl, rfl, hform, hmem⟩
      · rintro ⟨j, c, rest, rfl, hget, hform, hmem⟩
        rw [get?] at hget
        split at hget <;> cases hget
        next hj => exact ⟨hform, rest, by rw [hj]; rfl, hmem⟩
    · rw [Nat.add_right_comm]
      rfl
  | .items _ list fields, k => by
    rw [constructs, List.mem_append, Items.mem_constructs_iff k list 0, mem_constructs_iff fields]
    refine Iff.trans ?_ Nat.or_exists_add_one
    refine or_congr (exists_congr fun j => ?_) (exists_congr fun i => ?_)
    · rw [Nat.zero_add]
      rfl
    · rw [Nat.add_right_comm]
      rfl
  | .plain _ fields, k => by
    rw [constructs, mem_constructs_iff fields]
    refine Iff.trans ?_ Nat.or_exists_add_one
    refine Iff.trans (exists_congr fun i => ?_) (or_iff_right (by simp [get?])).symm
    rw [Nat.add_right_comm]
    rfl

theorem Ast.constructs_eq (a : Ast) : a.constructs = ([], a) :: a.fields.constructs 0 := by
  cases a
  rfl

/-- The list holds exactly what ways lead to. -/
theorem Ast.mem_constructs_iff {a b : Ast} {way : List Step} :
    (way, b) ∈ a.constructs ↔ a.Reaches way b := by
  constructor
  · intro h
    induction way generalizing a with
    | nil =>
      rw [constructs_eq, List.mem_cons, Fields.mem_constructs_iff] at h
      obtain heq | ⟨i, j, c, rest, hway, -⟩ := h
      · cases heq
        exact .here _
      · cases hway
    | cons s way ih =>
      rw [constructs_eq, List.mem_cons, Fields.mem_constructs_iff] at h
      obtain heq | ⟨i, j, c, rest, hway, hget, hform, hmem⟩ := h
      · cases heq
      · rw [Nat.zero_add] at hway
        cases hway
        exact .step hget hform (ih hmem)
  · intro h
    induction h with
    | here a =>
      rw [constructs_eq]
      exact List.mem_cons_self
    | @step a c b i j way hget hform _ ih =>
      rw [constructs_eq, List.mem_cons, Fields.mem_constructs_iff]
      exact .inr ⟨i, j, c, way, by rw [Nat.zero_add], hget, hform, ih⟩

/-- The constructs of a list, operators apart. -/
def Items.kept : Items → List Ast
  | .nil => []
  | .tree a rest => if a.form = .operator then rest.kept else a :: rest.kept
  | .other rest => rest.kept

/-- The fields that hold a construct or a list, each with its constructs, operators apart. -/
def Fields.kept : Fields → List (String × List Ast)
  | .nil => []
  | .child name a rest => if a.form = .operator then rest.kept else (name, [a]) :: rest.kept
  | .items name list rest => (name, list.kept) :: rest.kept
  | .plain _ rest => rest.kept

/-- What the fields of a call hold as named arguments are such. -/
def Fields.NamesArguments (fields : Fields) : Prop :=
  ∀ held, ("keywords", held) ∈ fields.kept → ∀ k ∈ held, k.form = .keyword

/-- The fields of an attribute hold the object that it belongs to, and nothing else that is a
construct. -/
def Fields.HoldObject (fields : Fields) : Prop :=
  ∃ object, fields = .child "value" object (.plain "attr" .nil)

theorem Items.kept_ofList_sublist (trees : List Ast) : (ofList trees).kept.Sublist trees := by
  induction trees with
  | nil => exact List.Sublist.slnil
  | cons a trees ih =>
    rw [ofList, kept]
    split
    · exact ih.cons a
    · exact ih.cons_cons a

theorem map_fst_behind (s : Step) (inside : List (List Step × Ast)) :
    (behind s inside).map Prod.fst = (inside.map Prod.fst).map (s :: ·) := by
  simp [behind, Function.comp_def]

/-- What comes under one step keeps its order, and so do two lists of which the first comes
under the smaller steps. -/
theorem pairwise_append_of_lt {ways ways' : List (List Step)} (hways : ways.Pairwise (· < ·))
    (hways' : ways'.Pairwise (· < ·))
    (h : ∀ w ∈ ways, ∀ w' ∈ ways', ∃ s rest s' rest', w = s :: rest ∧ w' = s' :: rest' ∧ s < s') :
    (ways ++ ways').Pairwise (· < ·) := by
  refine List.pairwise_append.2 ⟨hways, hways', fun w hw w' hw' => ?_⟩
  obtain ⟨s, rest, s', rest', rfl, rfl, hlt⟩ := h w hw w' hw'
  exact List.cons_lt_cons_iff.2 (.inl hlt)

theorem pairwise_behind (s : Step) {inside : List (List Step × Ast)}
    (h : (inside.map Prod.fst).Pairwise (· < ·)) :
    ((behind s inside).map Prod.fst).Pairwise (· < ·) := by
  rw [map_fst_behind, List.pairwise_map]
  exact h.imp fun hlt => List.cons_lt_cons_iff.2 (.inr ⟨rfl, hlt⟩)

theorem Items.exists_of_mem_constructs {list : Items} {i k : Nat} {way : List Step}
    (h : way ∈ (list.constructs i k).map Prod.fst) :
    ∃ j rest, k ≤ j ∧ way = toLex (i, j) :: rest := by
  obtain ⟨⟨way, b⟩, hmem, rfl⟩ := List.mem_map.1 h
  obtain ⟨j, c, rest, rfl, -⟩ := (mem_constructs_iff i list k).1 hmem
  exact ⟨k + j, rest, Nat.le_add_right k j, rfl⟩

theorem Fields.exists_of_mem_constructs {fields : Fields} {k : Nat} {way : List Step}
    (h : way ∈ (fields.constructs k).map Prod.fst) :
    ∃ i j rest, k ≤ i ∧ way = toLex (i, j) :: rest := by
  obtain ⟨⟨way, b⟩, hmem, rfl⟩ := List.mem_map.1 h
  obtain ⟨i, j, c, rest, rfl, -⟩ := (mem_constructs_iff fields k).1 hmem
  exact ⟨k + i, j, rest, Nat.le_add_right k i, rfl⟩

theorem exists_of_mem_behind {s : Step} {a : Ast} {way : List Step}
    (h : way ∈ (if a.form = .operator then [] else behind s a.constructs).map Prod.fst) :
    ∃ rest, way = s :: rest := by
  obtain ⟨⟨way, b⟩, hmem, rfl⟩ := List.mem_map.1 h
  obtain ⟨-, rest, rfl, -⟩ := mem_behind_of_not_operator_iff.1 hmem
  exact ⟨rest, rfl⟩

mutual

/-- The ways are in order, so that none is listed twice. -/
theorem Ast.pairwise_constructs : (a : Ast) → (a.constructs.map Prod.fst).Pairwise (· < ·)
  | .node form value extent fields => by
    rw [Ast.constructs, List.map_cons, List.pairwise_cons]
    refine ⟨fun way hway => ?_, fields.pairwise_constructs 0⟩
    obtain ⟨i, j, rest, -, rfl⟩ := Fields.exists_of_mem_constructs hway
    exact List.nil_lt_cons _ _

theorem Fields.pairwise_constructs :
    (fields : Fields) → (k : Nat) → ((fields.constructs k).map Prod.fst).Pairwise (· < ·)
  | .nil, _ => List.Pairwise.nil
  | .child _ a fields, k => by
    rw [Fields.constructs, List.map_append]
    refine pairwise_append_of_lt ?_ (fields.pairwise_constructs (k + 1)) ?_
    · split
      · exact List.Pairwise.nil
      · exact pairwise_behind _ a.pairwise_constructs
    · intro w hw w' hw'
      obtain ⟨rest, rfl⟩ := exists_of_mem_behind hw
      obtain ⟨i, j, rest', hi, rfl⟩ := Fields.exists_of_mem_constructs hw'
      exact ⟨_, rest, _, rest', rfl, rfl, Prod.Lex.toLex_lt_toLex.2 (.inl hi)⟩
  | .items _ list fields, k => by
    rw [Fields.constructs, List.map_append]
    refine pairwise_append_of_lt (list.pairwise_constructs k 0)
      (fields.pairwise_constructs (k + 1)) ?_
    intro w hw w' hw'
    obtain ⟨j, rest, -, rfl⟩ := Items.exists_of_mem_constructs hw
    obtain ⟨i, j', rest', hi, rfl⟩ := Fields.exists_of_mem_constructs hw'
    exact ⟨_, rest, _, rest', rfl, rfl, Prod.Lex.toLex_lt_toLex.2 (.inl hi)⟩
  | .plain _ fields, k => fields.pairwise_constructs (k + 1)

theorem Items.pairwise_constructs :
    (list : Items) → (i k : Nat) → ((list.constructs i k).map Prod.fst).Pairwise (· < ·)
  | .nil, _, _ => List.Pairwise.nil
  | .tree a list, i, k => by
    rw [Items.constructs, List.map_append]
    refine pairwise_append_of_lt ?_ (list.pairwise_constructs i (k + 1)) ?_
    · split
      · exact List.Pairwise.nil
      · exact pairwise_behind _ a.pairwise_constructs
    · intro w hw w' hw'
      obtain ⟨rest, rfl⟩ := exists_of_mem_behind hw
      obtain ⟨j, rest', hj, rfl⟩ := Items.exists_of_mem_constructs hw'
      exact ⟨_, rest, _, rest', rfl, rfl, Prod.Lex.toLex_lt_toLex.2 (.inr ⟨rfl, hj⟩)⟩
  | .other list, i, k => list.pairwise_constructs i (k + 1)

end

end QueryLint.Source
