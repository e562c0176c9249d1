import QueryLint.Proofs.Tree.Blocks

/-!
# Each expression has one site

The expression of a candidate is a child of its site, or the value of a named argument that is a
child of it. The two cannot meet in one expression: a named argument carries a name, while calls
and assignments carry no value at all. So the site is known from the expression, and since a place
is known from its path, no two sites share an expression.
-/

namespace QueryLint

open Source

namespace Visit

mutual

/-- What is visited below a place has a path that leads through it. -/
theorem path_suffix_of_mem_walkNode {w : Visit} : (n : Node) → (path : List Nat) →
    (above : List Node) → w ∈ walkNode n path above → path <:+ w.path
  | .mk h cs, path, above, hw => by
    rw [walkNode, List.mem_cons] at hw
    obtain rfl | hw := hw
    · exact List.suffix_rfl
    · obtain ⟨j, -, hsuffix⟩ := path_suffix_of_mem_walkNodes cs 0 path (.mk h cs :: above) hw
      exact (List.suffix_cons j path).trans hsuffix

theorem path_suffix_of_mem_walkNodes {w : Visit} : (ns : List Node) → (i : Nat) →
    (path : List Nat) → (above : List Node) → w ∈ walkNodes ns i path above →
    ∃ j, i ≤ j ∧ j :: path <:+ w.path
  | n :: ns, i, path, above, hw => by
    rw [walkNodes, List.mem_append] at hw
    obtain hw | hw := hw
    · exact ⟨i, Nat.le_refl i, path_suffix_of_mem_walkNode n (i :: path) above hw⟩
    · obtain ⟨j, hj, hsuffix⟩ := path_suffix_of_mem_walkNodes ns (i + 1) path above hw
      exact ⟨j, by omega, hsuffix⟩

end

mutual

theorem nodup_path_walkNode : (n : Node) → (path : List Nat) → (above : List Node) →
    ((walkNode n path above).map (·.path)).Nodup
  | .mk h cs, path, above => by
    rw [walkNode, List.map_cons, List.nodup_cons]
    refine ⟨fun hmem => ?_, nodup_path_walkNodes cs 0 path (.mk h cs :: above)⟩
    -- what is below has a longer path
    obtain ⟨w, hw, hpath⟩ := List.mem_map.1 hmem
    obtain ⟨j, -, hsuffix⟩ := path_suffix_of_mem_walkNodes cs 0 path (.mk h cs :: above) hw
    rw [hpath] at hsuffix
    exact Nat.not_succ_le_self _ hsuffix.length_le

theorem nodup_path_walkNodes : (ns : List Node) → (i : Nat) → (path : List Nat) →
    (above : List Node) → ((walkNodes ns i path above).map (·.path)).Nodup
  | [], _, _, _ => List.nodup_nil
  | n :: ns, i, path, above => by
    rw [walkNodes, List.map_append, List.nodup_append]
    refine ⟨nodup_path_walkNode n (i :: path) above, nodup_path_walkNodes ns (i + 1) path above, ?_⟩
    -- paths to different children branch there
    intro p hp q hq heq
    obtain ⟨v, hv, rfl⟩ := List.mem_map.1 hp
    obtain ⟨w, hw, rfl⟩ := List.mem_map.1 hq
    have hfirst := path_suffix_of_mem_walkNode n (i :: path) above hv
    obtain ⟨j, hj, hsecond⟩ := path_suffix_of_mem_walkNodes ns (i + 1) path above hw
    rw [heq] at hfirst
    have hsame := (List.suffix_of_suffix_length_le hfirst hsecond (by simp)).eq_of_length (by simp)
    obtain ⟨rfl, -⟩ := List.cons.inj hsame
    omega

end

theorem nodup_path_visits (n : Node) : (n.visits.map (·.path)).Nodup := nodup_path_walkNode n [] []

/-- A place of a tree is known from its path. -/
theorem eq_of_path_eq {n : Node} {v w : Visit} (hv : v ∈ n.visits) (hw : w ∈ n.visits)
    (h : v.path = w.path) : v = w :=
  List.inj_on_of_nodup_map (nodup_path_visits n) hv hw h

theorem eq_of_mem_children {v w c : Visit} (hv : c ∈ v.children) (hw : c ∈ w.children) : v = w :=
  Option.some.inj ((parent?_of_mem_children hv).symm.trans (parent?_of_mem_children hw))

end Visit

/-- Calls and assignments carry no value. -/
theorem Node.valueOf_eq_absent_of_siteKind {form : Form} {value : Value}
    (h : kindOf form value ∈ Candidate.siteKinds) : valueOf form value = .absent := by
  cases form with
  | call | assign | annAssign => rfl
  | constant => cases value <;> simp [kindOf, Candidate.siteKinds] at h
  | _ => simp [kindOf, Candidate.siteKinds] at h

namespace Candidate

variable {lines : List (List Char)} {markers : Markers} {site : Visit} {candidate : Candidate}

/-- The expression of a candidate is a child of its site, or a child of a child that has a
value. -/
theorem expression_below (h : detect? lines markers site = some candidate) :
    site.node.kind ∈ siteKinds ∧ (candidate.expression ∈ site.children ∨
      ∃ named ∈ site.children, named.node.value ≠ .absent ∧
        candidate.expression ∈ named.children) := by
  obtain ⟨-, -, ⟨hkind, hargument⟩ | ⟨hkind, hvalue⟩⟩ := exists_of_detect? h
  · refine ⟨by simp [siteKinds, hkind], ?_⟩
    unfold firstArgument? at hargument
    split at hargument
    next first rest hargs =>
      cases hargument
      exact .inl (Visit.mem_children_of_mem_field (hargs ▸ List.mem_cons_self))
    next =>
      split at hargument
      next named hnamed =>
        have hmem := Visit.mem_children_of_mem_field (List.mem_of_find?_eq_some hnamed)
        have hvalue : named.node.value ≠ .absent := by simpa using List.find?_some hnamed
        exact .inr ⟨named, hmem, hvalue,
          Visit.mem_children_of_mem_field (List.mem_of_head? hargument)⟩
      next => cases hargument
  · refine ⟨?_, .inl (Visit.mem_children_of_mem_field (List.mem_of_head? hvalue))⟩
    obtain hkind | hkind := hkind <;> simp [siteKinds, hkind]

/-- The site of a candidate is an ancestor of its expression. -/
theorem site_mem_ancestors (h : detect? lines markers site = some candidate) :
    site ∈ candidate.expression.ancestors := by
  obtain ⟨-, hchild | ⟨named, hnamed, -, hchild⟩⟩ := expression_below h
  · rw [Visit.ancestors_of_mem_children hchild]
    exact List.mem_cons_self
  · rw [Visit.ancestors_of_mem_children hchild, Visit.ancestors_of_mem_children hnamed]
    exact List.mem_cons_of_mem _ List.mem_cons_self

theorem expression_mem_visits {root : Node} (hsite : site ∈ root.visits)
    (h : detect? lines markers site = some candidate) : candidate.expression ∈ root.visits := by
  obtain ⟨-, hchild | ⟨named, hnamed, -, hchild⟩⟩ := expression_below h
  · exact Visit.mem_walk_of_mem_children hsite hchild
  · exact Visit.mem_walk_of_mem_children (Visit.mem_walk_of_mem_children hsite hnamed) hchild

variable {a : Ast}

theorem value_eq_absent_of_siteKind {v : Visit} (hv : v ∈ (Node.ofAst lines a).visits)
    (h : v.node.kind ∈ siteKinds) : v.node.value = .absent := by
  obtain ⟨way, ⟨form, value, extent, fields⟩, -, hnode⟩ := Node.exists_reaches_of_mem_visits hv
  rw [hnode] at h ⊢
  exact Node.valueOf_eq_absent_of_siteKind h

/-- What is a child of a site is not a child of a place with a value. -/
theorem not_named {named expression : Visit} (hsite : site ∈ (Node.ofAst lines a).visits)
    (hkind : site.node.kind ∈ siteKinds) (hchild : expression ∈ site.children)
    (hvalue : named.node.value ≠ .absent) : expression ∉ named.children := by
  intro hnamed
  obtain rfl := Visit.eq_of_mem_children hchild hnamed
  exact hvalue (value_eq_absent_of_siteKind hsite hkind)

/-- The expression of a candidate tells its site. -/
theorem site_eq_of_expression_eq {site' : Visit} {candidate' : Candidate}
    (hsite : site ∈ (Node.ofAst lines a).visits) (hsite' : site' ∈ (Node.ofAst lines a).visits)
    (h : detect? lines markers site = some candidate)
    (h' : detect? lines markers site' = some candidate')
    (heq : candidate.expression = candidate'.expression) : site = site' := by
  obtain ⟨hkind, hbelow⟩ := expression_below h
  obtain ⟨hkind', hbelow'⟩ := expression_below h'
  rw [← heq] at hbelow'
  obtain hchild | ⟨named, hnamed, hvalue, hchild⟩ := hbelow <;>
    obtain hchild' | ⟨named', hnamed', hvalue', hchild'⟩ := hbelow'
  · exact Visit.eq_of_mem_children hchild hchild'
  · exact absurd hchild' (not_named hsite hkind hchild hvalue')
  · exact absurd hchild (not_named hsite' hkind' hchild' hvalue)
  · obtain rfl := Visit.eq_of_mem_children hchild hchild'
    exact Visit.eq_of_mem_children hnamed hnamed'

end Candidate

end QueryLint
