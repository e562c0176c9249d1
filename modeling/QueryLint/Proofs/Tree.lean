import QueryLint.Candidate

/-!
# Trees and the places in them

The places of a tree are those of its nodes, in the order of a walk, and what the fields of
a place hold are nodes of the tree again. So a candidate that is found at a place of a tree
has its expression in the same tree.
-/

namespace QueryLint

namespace Node

theorem mem_walk_self (n : Node) : n ∈ n.walk := by
  cases n
  exact List.mem_cons_self

theorem mem_walkList_of_mem {c : Node} {cs : List Node} (h : c ∈ cs) : c ∈ walkList cs := by
  induction cs with
  | nil => cases h
  | cons d cs ih =>
    rw [walkList, List.mem_append]
    obtain rfl | h := List.mem_cons.1 h
    · exact .inl (mem_walk_self c)
    · exact .inr (ih h)

theorem walkList_append (ns ms : List Node) :
    walkList (ns ++ ms) = walkList ns ++ walkList ms := by
  induction ns with
  | nil => rfl
  | cons n ns ih => rw [List.cons_append, walkList, walkList, ih, List.append_assoc]

mutual

/-- A walk that comes to a node comes to its children. -/
theorem mem_walk_of_mem_children {m c : Node} (hc : c ∈ m.children) :
    (n : Node) → m ∈ n.walk → c ∈ n.walk
  | .mk h cs, hm => by
    rw [walk, List.mem_cons] at hm ⊢
    obtain rfl | hm := hm
    · exact .inr (mem_walkList_of_mem hc)
    · exact .inr (mem_walkList_of_mem_children hc cs hm)

theorem mem_walkList_of_mem_children {m c : Node} (hc : c ∈ m.children) :
    (ns : List Node) → m ∈ walkList ns → c ∈ walkList ns
  | [], hm => nomatch hm
  | n :: ns, hm => by
    rw [walkList, List.mem_append] at hm ⊢
    obtain hm | hm := hm
    · exact .inl (mem_walk_of_mem_children hc n hm)
    · exact .inr (mem_walkList_of_mem_children hc ns hm)

end

end Node

namespace Visit

mutual

theorem map_node_walkNode : (n : Node) → (path : List Nat) → (above : List Node) →
    (walkNode n path above).map (·.node) = n.walk
  | .mk h cs, path, above => by
    rw [walkNode, Node.walk, List.map_cons, map_node_walkNodes]

theorem map_node_walkNodes : (ns : List Node) → (i : Nat) → (path : List Nat) →
    (above : List Node) → (walkNodes ns i path above).map (·.node) = Node.walkList ns
  | [], _, _, _ => rfl
  | n :: ns, i, path, above => by
    rw [walkNodes, Node.walkList, List.map_append, map_node_walkNode, map_node_walkNodes]

end

theorem node_mem_walk {root : Node} {v : Visit} (h : v ∈ root.visits) : v.node ∈ root.walk := by
  rw [← map_node_walkNode root [] []]
  exact List.mem_map_of_mem h

theorem map_node_childrenFrom (v : Visit) (i : Nat) (cs : List Node) :
    (v.childrenFrom i cs).map (·.node) = cs := by
  induction cs generalizing i with
  | nil => rfl
  | cons c cs ih => rw [childrenFrom, List.map_cons, ih, childAt]

theorem fieldOf_sublist {α : Type} (name : String) (slots : List (String × Slot))
    (items : List α) : (fieldOf name slots items).Sublist items := by
  induction slots generalizing items with
  | nil => exact List.nil_sublist items
  | cons slot slots ih =>
    rw [fieldOf]
    split
    · exact List.take_sublist _ _
    · exact (ih _).trans (List.drop_sublist _ _)

theorem node_mem_children {v w : Visit} {name : String} (h : w ∈ v.field name) :
    w.node ∈ v.node.children := by
  have hchild : w ∈ v.children := (fieldOf_sublist _ _ _).mem h
  rw [← map_node_childrenFrom v 0 v.node.children]
  exact List.mem_map_of_mem hchild

end Visit

namespace Candidate

/-- A candidate belongs to its site and to the block around it. The site is a call, and its
expression is an argument there, or it is an assignment, and its expression is what is
assigned. -/
theorem exists_of_detect? {lines : List (List Char)} {markers : Markers} {site : Visit}
    {candidate : Candidate} (h : detect? lines markers site = some candidate) :
    candidate.block = site.enclosingBlock? ∧ candidate.site = site ∧
      (site.node.kind = .call ∧ firstArgument? site = some candidate.expression ∨
        (site.node.kind = .assignment ∨ site.node.kind = .annotatedAssignment) ∧
          (site.field "value").head? = some candidate.expression) := by
  have hassignment : assignment? lines markers site = some candidate →
      candidate.block = site.enclosingBlock? ∧ candidate.site = site ∧
        (site.field "value").head? = some candidate.expression := by
    intro h
    obtain ⟨-, -, h⟩ := Option.bind_eq_some_iff.1 h
    obtain ⟨expression, hexpression, h⟩ := Option.bind_eq_some_iff.1 h
    cases h
    exact ⟨rfl, rfl, hexpression⟩
  unfold detect? at h
  split at h
  next hkind =>
    obtain ⟨callee, -, h⟩ := Option.bind_eq_some_iff.1 h
    obtain ⟨-, -, h⟩ := Option.bind_eq_some_iff.1 h
    obtain ⟨-, -, h⟩ := Option.bind_eq_some_iff.1 h
    obtain ⟨expression, hexpression, h⟩ := Option.bind_eq_some_iff.1 h
    cases h
    exact ⟨rfl, rfl, .inl ⟨hkind, hexpression⟩⟩
  next hkind =>
    obtain ⟨hblock, hsite, hvalue⟩ := hassignment h
    exact ⟨hblock, hsite, .inr ⟨.inl hkind, hvalue⟩⟩
  next hkind =>
    obtain ⟨hblock, hsite, hvalue⟩ := hassignment h
    exact ⟨hblock, hsite, .inr ⟨.inr hkind, hvalue⟩⟩
  next => cases h

theorem firstArgument?_mem_walk {root : Node} {call expression : Visit}
    (hcall : call.node ∈ root.walk) (h : firstArgument? call = some expression) :
    expression.node ∈ root.walk := by
  unfold firstArgument? at h
  split at h
  next a rest hargs =>
    obtain rfl := Option.some.inj h
    have harg := Visit.node_mem_children (hargs ▸ List.mem_cons_self : a ∈ call.field "args")
    exact Node.mem_walk_of_mem_children harg root hcall
  · split at h
    next k hk =>
      have hkeyword := Visit.node_mem_children (List.mem_of_find?_eq_some hk)
      have hvalue := Visit.node_mem_children (List.mem_of_head? h)
      exact Node.mem_walk_of_mem_children hvalue root
        (Node.mem_walk_of_mem_children hkeyword root hcall)
    · cases h

/-- The expression of a candidate is a node of the tree that its site is in. -/
theorem expression_mem_walk {lines : List (List Char)} {markers : Markers} {root : Node}
    {site : Visit} {candidate : Candidate} (hsite : site ∈ root.visits)
    (h : detect? lines markers site = some candidate) : candidate.expression.node ∈ root.walk := by
  have hnode := Visit.node_mem_walk hsite
  obtain ⟨-, -, ⟨-, hargument⟩ | ⟨-, hvalue⟩⟩ := exists_of_detect? h
  · exact firstArgument?_mem_walk hnode hargument
  · exact Node.mem_walk_of_mem_children (Visit.node_mem_children (List.mem_of_head? hvalue)) root
      hnode

end Candidate

end QueryLint
