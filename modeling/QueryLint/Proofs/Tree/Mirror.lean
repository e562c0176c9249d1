import Mathlib.Data.List.Forall2
import QueryLint.Proofs.Source.Constructs
import QueryLint.Proofs.Tree.Walk
import QueryLint.Tree.OfAst

/-!
# The tree mirrors the syntax

The nodes of a normalised tree are the constructs that can be reached in the syntax tree, in the
order of the ways to them. The children of a node are divided among its fields, and each field
holds the nodes of the constructs that the field of the construct holds.
-/

namespace QueryLint

open Source

/-- Items divided among fields, in the order of the fields. -/
def fieldsOf {α : Type} : List (String × Slot) → List α → List (String × List α)
  | [], _ => []
  | (name, slot) :: rest, items =>
      (name, items.take slot.width) :: fieldsOf rest (items.drop slot.width)

/-- The fields of a place with the children that they hold. -/
def Visit.fields (v : Visit) : List (String × List Visit) :=
  fieldsOf v.node.head.slots v.children

theorem fieldOf_eq_lookup {α : Type} (name : String) (slots : List (String × Slot))
    (items : List α) : fieldOf name slots items = ((fieldsOf slots items).lookup name).getD [] := by
  induction slots generalizing items with
  | nil => rfl
  | cons slot slots ih =>
    rw [fieldOf, fieldsOf, List.lookup_cons, ih, Bool.beq_comm]
    cases name == slot.1 <;> rfl

theorem fieldsOf_map {α β : Type} (f : α → β) (slots : List (String × Slot)) (items : List α) :
    fieldsOf slots (items.map f) = (fieldsOf slots items).map fun x => (x.1, x.2.map f) := by
  induction slots generalizing items with
  | nil => rfl
  | cons slot slots ih =>
    rw [fieldsOf, fieldsOf, List.map_cons, ← List.map_drop, ih, List.map_take]

/-- The number of items that fields hold. -/
def widthOf : List (String × Slot) → Nat
  | [] => 0
  | (_, slot) :: rest => slot.width + widthOf rest

theorem flatMap_fieldsOf {α : Type} (slots : List (String × Slot)) (items : List α) :
    (fieldsOf slots items).flatMap Prod.snd = items.take (widthOf slots) := by
  induction slots generalizing items with
  | nil => rfl
  | cons slot slots ih => rw [fieldsOf, List.flatMap_cons, ih, widthOf, List.take_add]

namespace Node

theorem itemCount_eq : (list : Items) → itemCount list = list.kept.length
  | .nil => rfl
  | .tree a rest => by
    rw [itemCount, Items.kept, itemCount_eq rest]
    split <;> rfl
  | .other rest => itemCount_eq rest

theorem ofItems_eq (lines : List (List Char)) :
    (list : Items) → ofItems lines list = list.kept.map (ofAst lines)
  | .nil => rfl
  | .tree a rest => by
    rw [ofItems, Items.kept, ofItems_eq lines rest]
    split <;> rfl
  | .other rest => by rw [ofItems, Items.kept, ofItems_eq lines rest]

theorem fieldsOf_ofFields (lines : List (List Char)) : (fields : Fields) →
    fieldsOf (slotsOf fields) (ofFields lines fields) =
      fields.kept.map fun x => (x.1, x.2.map (ofAst lines))
  | .nil => rfl
  | .child name a rest => by
    rw [slotsOf, ofFields, Fields.kept]
    split
    · exact fieldsOf_ofFields lines rest
    · rw [fieldsOf, List.map_cons, ← fieldsOf_ofFields lines rest]
      rfl
  | .items name list rest => by
    have hwidth : Slot.width (.many (itemCount list)) = (ofItems lines list).length := by
      rw [ofItems_eq, List.length_map, ← itemCount_eq]
      rfl
    rw [slotsOf, ofFields, Fields.kept, fieldsOf, hwidth, List.take_left, List.drop_left,
      List.map_cons, fieldsOf_ofFields lines rest, ofItems_eq]
  | .plain _ rest => fieldsOf_ofFields lines rest

theorem widthOf_slotsOf (lines : List (List Char)) : (fields : Fields) →
    widthOf (slotsOf fields) = (ofFields lines fields).length
  | .nil => rfl
  | .child name a rest => by
    rw [slotsOf, ofFields]
    split
    · exact widthOf_slotsOf lines rest
    · rw [List.length_cons, ← widthOf_slotsOf lines rest, Nat.add_comm]
      rfl
  | .items name list rest => by
    rw [slotsOf, ofFields, List.length_append, ← widthOf_slotsOf lines rest, ofItems_eq,
      List.length_map, ← itemCount_eq]
    rfl
  | .plain _ rest => widthOf_slotsOf lines rest

theorem children_ofAst (lines : List (List Char)) (a : Ast) :
    (ofAst lines a).children = ofFields lines a.fields := by
  cases a
  rfl

theorem slots_ofAst (lines : List (List Char)) (a : Ast) :
    (ofAst lines a).head.slots = slotsOf a.fields := by
  cases a
  rfl

theorem kind_ofAst (lines : List (List Char)) (a : Ast) :
    (ofAst lines a).kind = kindOf a.form a.value := by
  cases a
  rfl

/-- The form of all constructs of a kind, for some of the kinds that have only one. -/
def formOf? : NodeKind → Option Form
  | .module => some .module
  | .call => some .call
  | .attribute => some .attribute
  | .identifier => some .name
  | _ => none

theorem form_of_kindOf {form form' : Form} {value : Value} {kind : NodeKind}
    (h : kindOf form value = kind) (hform : formOf? kind = some form') : form = form' := by
  subst h
  unfold kindOf at hform
  split at hform
  any_goals cases hform
  any_goals rfl
  split at hform <;> cases hform

mutual

/-- A walk over the tree of a construct goes through the constructs inside it. -/
theorem walk_ofAst (lines : List (List Char)) :
    (a : Ast) → (ofAst lines a).walk = a.constructs.map fun x => ofAst lines x.2
  | .node form value extent fields => by
    rw [ofAst, walk, walkList_ofFields lines fields 0, Ast.constructs, List.map_cons, ofAst]

theorem walkList_ofFields (lines : List (List Char)) : (fields : Fields) → (i : Nat) →
    walkList (ofFields lines fields) = (fields.constructs i).map fun x => ofAst lines x.2
  | .nil, _ => rfl
  | .child _ a rest, i => by
    rw [ofFields, Fields.constructs, List.map_append, ← walkList_ofFields lines rest (i + 1)]
    split
    · rfl
    · rw [walkList, walk_ofAst lines a, behind, List.map_map]
      rfl
  | .items _ list rest, i => by
    rw [ofFields, Fields.constructs, List.map_append, ← walkList_ofFields lines rest (i + 1),
      walkList_append, walkList_ofItems lines list i 0]
  | .plain _ rest, i => walkList_ofFields lines rest (i + 1)

theorem walkList_ofItems (lines : List (List Char)) : (list : Items) → (i j : Nat) →
    walkList (ofItems lines list) = (list.constructs i j).map fun x => ofAst lines x.2
  | .nil, _, _ => rfl
  | .tree a rest, i, j => by
    rw [ofItems, Items.constructs, List.map_append, ← walkList_ofItems lines rest i (j + 1)]
    split
    · rfl
    · rw [walkList, walk_ofAst lines a, behind, List.map_map]
      rfl
  | .other rest, i, j => walkList_ofItems lines rest i (j + 1)

end

theorem map_node_visits (n : Node) : n.visits.map (·.node) = n.walk :=
  Visit.map_node_walkNode n [] []

/-- A node of the tree of a construct is that of a construct which a way leads to. -/
theorem exists_reaches_of_mem_walk {lines : List (List Char)} {a : Ast} {m : Node}
    (hm : m ∈ (ofAst lines a).walk) : ∃ way b, a.Reaches way b ∧ m = ofAst lines b := by
  rw [walk_ofAst] at hm
  obtain ⟨⟨way, b⟩, hmem, hnode⟩ := List.mem_map.1 hm
  exact ⟨way, b, Ast.mem_constructs_iff.1 hmem, hnode.symm⟩

theorem exists_reaches_of_mem_visits {lines : List (List Char)} {a : Ast} {v : Visit}
    (hv : v ∈ (ofAst lines a).visits) : ∃ way b, a.Reaches way b ∧ v.node = ofAst lines b :=
  exists_reaches_of_mem_walk (Visit.node_mem_walk hv)

end Node

namespace Visit

variable {lines : List (List Char)} {v : Visit} {b : Ast}

theorem field_eq_lookup (v : Visit) (name : String) :
    v.field name = (v.fields.lookup name).getD [] :=
  fieldOf_eq_lookup name v.node.head.slots v.children

/-- The fields of the place of a construct hold the nodes of what the construct holds. -/
theorem fields_of_ofAst (h : v.node = Node.ofAst lines b) :
    (v.fields.map fun x => (x.1, x.2.map (·.node))) =
      b.fields.kept.map fun x => (x.1, x.2.map (Node.ofAst lines)) := by
  have hchildren : v.children.map (·.node) = Node.ofFields lines b.fields := by
    rw [children, map_node_childrenFrom, h, Node.children_ofAst]
  rw [fields, ← fieldsOf_map, hchildren, h, Node.slots_ofAst, Node.fieldsOf_ofFields]

/-- All children of the place of a construct are in its fields. -/
theorem flatMap_fields (h : v.node = Node.ofAst lines b) :
    v.fields.flatMap Prod.snd = v.children := by
  have hlength : v.children.length = (Node.ofFields lines b.fields).length := by
    rw [← Node.children_ofAst, ← h, ← map_node_childrenFrom v 0 v.node.children, List.length_map]
    rfl
  rw [fields, flatMap_fieldsOf, h, Node.slots_ofAst, Node.widthOf_slotsOf lines, ← hlength,
    List.take_length]

end Visit

namespace Node

/-- The tree of a syntax tree mirrors it. The loop over a stack visits a place in each turn and
stops after the last one. The places are those of the constructs which can be reached without
passing through an operator, each once and in the order of the ways to them: a construct before
those inside it, and these in the order of the fields and of the lists in them. The children of a
place are what its fields hold, field by field, and these are the constructs that the fields of
its construct hold. A place is the parent of its children, and only the root has no parent. What
is found of a kind is the walk without the nodes of other kinds. -/
theorem ofAst_mirrors_constructs (lines : List (List Char)) (a : Ast) :
    let root := ofAst lines a
    (∀ n, (Tour.run n (.start root)).visited = root.visits.take n ∧
      ((Tour.run n (.start root)).stack = [] ↔ root.visits.length ≤ n)) ∧
    (∃ reached : List (List Step × Ast), (∀ way b, (way, b) ∈ reached ↔ a.Reaches way b) ∧
      (reached.map Prod.fst).Pairwise (· < ·) ∧
      List.Forall₂ (fun v x => v.node = ofAst lines x.2 ∧
          (v.fields.map fun y => (y.1, y.2.map (·.node))) =
            x.2.fields.kept.map fun y => (y.1, y.2.map (ofAst lines))) root.visits reached) ∧
    (∀ v ∈ root.visits,
      v.children = v.fields.flatMap Prod.snd ∧
      (∀ name, v.field name = (v.fields.lookup name).getD []) ∧
      (∀ c ∈ v.children, c ∈ root.visits ∧ c.parent? = some v) ∧
      (v.parent? = none ↔ v = .root root)) ∧
    ∀ kind, root.findAll kind = (root.visits.filter (·.node.kind = kind)).map (·.node) := by
  intro root
  refine ⟨fun n => Tour.run_start n root, ⟨a.constructs, fun way b => Ast.mem_constructs_iff,
    a.pairwise_constructs, ?_⟩, fun v hv => ?_, fun kind => ?_⟩
  · have hnodes : root.visits.map (·.node) = a.constructs.map fun x => ofAst lines x.2 := by
      rw [map_node_visits, walk_ofAst]
    rw [← List.forall₂_eq_eq_eq, List.forall₂_map_left_iff, List.forall₂_map_right_iff] at hnodes
    exact hnodes.imp fun v x h => ⟨h, Visit.fields_of_ofAst h⟩
  · obtain ⟨way, b, -, hnode⟩ := exists_reaches_of_mem_visits hv
    refine ⟨(Visit.flatMap_fields hnode).symm, v.field_eq_lookup, fun c hc => ?_,
      Visit.parent?_eq_none_iff hv⟩
    exact ⟨Visit.mem_walk_of_mem_children hv hc, Visit.parent?_of_mem_children hc⟩
  · rw [findAll, ← map_node_visits, List.filter_map]
    rfl

end Node

end QueryLint
