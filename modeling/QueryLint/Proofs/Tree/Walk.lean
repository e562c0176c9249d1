import Mathlib.Data.List.Basic
import QueryLint.Proofs.Tree

/-!
# Walking with a stack

A walk can be made in a loop: the place on top of a stack is visited, and its children are
pushed so that the first of them is the next on top. After any number of turns the loop has
visited that many places of the tree, in their order, and its stack is empty when there are no
more. The induction over the places of a tree, from a place to its children, is proved here too.
-/

namespace QueryLint

namespace Visit

theorem walkNodes_eq_flatMap (v : Visit) (cs : List Node) (i : Nat) :
    walkNodes cs i v.path (v.node :: v.above) = (v.childrenFrom i cs).flatMap walk := by
  induction cs generalizing i with
  | nil => rfl
  | cons c cs ih =>
    rw [walkNodes, childrenFrom, List.flatMap_cons, ih]
    rfl

/-- A walk visits a place, and then what is below its children, one after the other. -/
theorem walk_eq_cons (v : Visit) : v.walk = v :: v.children.flatMap walk := by
  obtain ⟨⟨head, cs⟩, path, above⟩ := v
  exact congrArg _ (walkNodes_eq_flatMap ⟨.mk head cs, path, above⟩ cs 0)

theorem mem_walk_iff {v w : Visit} : w ∈ v.walk ↔ w = v ∨ ∃ c ∈ v.children, w ∈ c.walk := by
  rw [walk_eq_cons, List.mem_cons, List.mem_flatMap]

theorem mem_walk_self (v : Visit) : v ∈ v.walk := mem_walk_iff.2 (.inl rfl)

theorem exists_childAt_of_mem {v c : Visit} (h : c ∈ v.children) :
    ∃ n ∈ v.node.children, ∃ i, c = v.childAt n i := by
  have hfrom : ∀ cs i, c ∈ v.childrenFrom i cs → ∃ n ∈ cs, ∃ i, c = v.childAt n i := by
    intro cs
    induction cs with
    | nil => intro i h; cases h
    | cons n cs ih =>
      intro i h
      obtain rfl | h := List.mem_cons.1 h
      · exact ⟨n, List.mem_cons_self, i, rfl⟩
      · obtain ⟨m, hm, hc⟩ := ih (i + 1) h
        exact ⟨m, List.mem_cons_of_mem n hm, hc⟩
  exact hfrom _ _ h

theorem sizeOf_node_of_mem_children {v c : Visit} (h : c ∈ v.children) :
    sizeOf c.node < sizeOf v.node := by
  obtain ⟨n, hn, i, rfl⟩ := exists_childAt_of_mem h
  obtain ⟨⟨head, cs⟩, path, above⟩ := v
  have hlt : sizeOf n < sizeOf cs := List.sizeOf_lt_of_mem hn
  simp only [childAt, Node.mk.sizeOf_spec]
  omega

/-- What holds of a place, and of the children of every place below it of which it holds, holds
of all places below. -/
theorem walk_induction {P : Visit → Prop} {v w : Visit} (hstart : P v)
    (hstep : ∀ u ∈ v.walk, P u → ∀ c ∈ u.children, P c) (hw : w ∈ v.walk) : P w := by
  obtain rfl | ⟨c, hc, hw⟩ := mem_walk_iff.1 hw
  · exact hstart
  · have hbelow : ∀ u ∈ c.walk, u ∈ v.walk := fun u hu => mem_walk_iff.2 (.inr ⟨c, hc, hu⟩)
    exact walk_induction (hstep v (mem_walk_self v) hstart c hc)
      (fun u hu => hstep u (hbelow u hu)) hw
termination_by sizeOf v.node
decreasing_by exact sizeOf_node_of_mem_children hc

theorem mem_walk_of_mem_children {v w c : Visit} (hw : w ∈ v.walk) (hc : c ∈ w.children) :
    c ∈ v.walk := by
  obtain rfl | ⟨d, hd, hw⟩ := mem_walk_iff.1 hw
  · exact mem_walk_iff.2 (.inr ⟨c, hc, mem_walk_self c⟩)
  · exact mem_walk_iff.2 (.inr ⟨d, hd, mem_walk_of_mem_children hw hc⟩)
termination_by sizeOf v.node
decreasing_by exact sizeOf_node_of_mem_children hd

theorem parent?_of_mem_children {v c : Visit} (h : c ∈ v.children) : c.parent? = some v := by
  obtain ⟨n, -, i, rfl⟩ := exists_childAt_of_mem h
  rfl

theorem parent?_root (n : Node) : (root n).parent? = none := rfl

/-- Every place of a tree but its root has a parent, which is a place of the tree and has it
among its children. -/
theorem exists_parent {n : Node} {v : Visit} (hv : v ∈ n.visits) (hroot : v ≠ root n) :
    ∃ p ∈ n.visits, v.parent? = some p ∧ v ∈ p.children := by
  refine (walk_induction (P := fun v => v = root n ∨ ∃ p ∈ n.visits, v.parent? = some p ∧
    v ∈ p.children) (.inl rfl) ?_ hv).resolve_left hroot
  intro p hp _ c hc
  exact .inr ⟨p, hp, parent?_of_mem_children hc, hc⟩

theorem parent?_eq_none_iff {n : Node} {v : Visit} (hv : v ∈ n.visits) :
    v.parent? = none ↔ v = root n := by
  constructor
  · intro hnone
    by_contra hroot
    obtain ⟨p, -, hparent, -⟩ := exists_parent hv hroot
    rw [hnone] at hparent
    cases hparent
  · rintro rfl
    exact parent?_root n

end Visit

/-- A walk under way: the places on the stack, the top one last, and those that have been
visited. -/
structure Tour where
  stack : List Visit
  visited : List Visit

namespace Tour

/-- A tour of a tree starts with its root on the stack. -/
def start (n : Node) : Tour := ⟨[.root n], []⟩

/-- One turn: the top place is taken off and visited, and its children are pushed, the last one
first. Nothing is left to do once the stack is empty. -/
def step? (t : Tour) : Option Tour :=
  t.stack.getLast?.map fun v => ⟨t.stack.dropLast ++ v.children.reverse, t.visited ++ [v]⟩

/-- So many turns, or as many as there are to make. -/
def run : Nat → Tour → Tour
  | 0, t => t
  | n + 1, t =>
      match t.step? with
      | some u => run n u
      | none => t

/-- What a tour is still going to visit. -/
def ahead (t : Tour) : List Visit := t.stack.reverse.flatMap Visit.walk

theorem ahead_start (n : Node) : (start n).ahead = n.visits := List.append_nil _

theorem ahead_eq_nil_iff (t : Tour) : t.ahead = [] ↔ t.stack = [] := by
  constructor
  · intro h
    by_contra hstack
    obtain ⟨v, hv⟩ := List.exists_mem_of_ne_nil _ hstack
    have hmem : v ∈ t.ahead :=
      List.mem_flatMap.2 ⟨v, List.mem_reverse.2 hv, Visit.mem_walk_self v⟩
    rw [h] at hmem
    cases hmem
  · intro h
    rw [ahead, h]
    rfl

theorem step?_eq_none_iff (t : Tour) : t.step? = none ↔ t.stack = [] := by
  rw [step?, Option.map_eq_none_iff, List.getLast?_eq_none_iff]

/-- A turn visits the first place of those that are ahead. -/
theorem ahead_of_step? {t u : Tour} (h : t.step? = some u) :
    ∃ v, t.ahead = v :: u.ahead ∧ u.visited = t.visited ++ [v] := by
  obtain ⟨v, hlast, rfl⟩ := Option.map_eq_some_iff.1 h
  obtain ⟨below, hstack⟩ := List.getLast?_eq_some_iff.1 hlast
  refine ⟨v, ?_, rfl⟩
  rw [ahead, ahead, hstack, List.dropLast_concat, List.reverse_append, List.reverse_append,
    List.reverse_reverse, List.reverse_singleton, List.singleton_append, List.flatMap_cons,
    List.flatMap_append, Visit.walk_eq_cons, List.cons_append]

theorem run_eq (n : Nat) (t : Tour) :
    (run n t).visited = t.visited ++ t.ahead.take n ∧ (run n t).ahead = t.ahead.drop n := by
  induction n generalizing t with
  | zero => simp [run]
  | succ n ih =>
    rw [run]
    split
    next u hstep =>
      obtain ⟨v, hahead, hvisited⟩ := ahead_of_step? hstep
      obtain ⟨hrun, hrest⟩ := ih u
      rw [hrun, hrest, hahead, hvisited]
      simp
    next hnone =>
      have hahead : t.ahead = [] := t.ahead_eq_nil_iff.2 (t.step?_eq_none_iff.1 hnone)
      simp [hahead]

/-- After a number of turns, so many places of the tree have been visited, in their order. The
stack is empty as soon as these are all. -/
theorem run_start (n : Nat) (root : Node) :
    (run n (start root)).visited = root.visits.take n ∧
      ((run n (start root)).stack = [] ↔ root.visits.length ≤ n) := by
  obtain ⟨hvisited, hahead⟩ := run_eq n (start root)
  rw [ahead_start] at hvisited hahead
  refine ⟨hvisited, ?_⟩
  rw [← ahead_eq_nil_iff, hahead, List.drop_eq_nil_iff]

end Tour

end QueryLint
