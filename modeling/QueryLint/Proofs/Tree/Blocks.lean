import QueryLint.Proofs.Document.TextLines

/-!
# The blocks of a tree

The ancestors of a place are its parent, the parent of that one, and so on up to the root. In
the tree of a module the root opens a block, so that the search for the nearest block never
fails. The expression of a candidate is below its site with no block between them; hence a
candidate is traced in the block of its expression. For this the named arguments of a call have
to be such, which they are in every program that is read.
-/

namespace QueryLint

open Source

theorem NodeKind.isBlock_iff {kind : NodeKind} :
    kind.isBlock = true ↔ kind = .module ∨ kind = .function ∨ kind = .classDefinition := by
  cases kind <;> simp [isBlock]

namespace Visit

/-- Each place of a list is the parent of the one before. -/
abbrev Climbs (places : List Visit) : Prop := places.IsChain fun v p => v.parent? = some p

theorem ancestors_of_mem_children {v c : Visit} (h : c ∈ v.children) :
    c.ancestors = v :: v.ancestors := by
  obtain ⟨n, -, i, rfl⟩ := exists_childAt_of_mem h
  rfl

theorem climbs_ancestors {n : Node} {v : Visit} (hv : v ∈ n.visits) :
    Climbs (v :: v.ancestors) := by
  refine walk_induction (P := fun v => Climbs (v :: v.ancestors)) (.singleton (root n)) ?_ hv
  intro v _ hclimbs c hc
  rw [ancestors_of_mem_children hc]
  exact .cons_cons (parent?_of_mem_children hc) hclimbs

/-- Going up from a place ends at the root. -/
theorem getLast?_cons_ancestors {n : Node} {v : Visit} (hv : v ∈ n.visits) :
    (v :: v.ancestors).getLast? = some (root n) := by
  refine walk_induction (P := fun v => (v :: v.ancestors).getLast? = some (root n)) rfl ?_ hv
  intro v _ hlast c hc
  rw [ancestors_of_mem_children hc, List.getLast?_cons_cons, hlast]

theorem getLast?_ancestors {n : Node} {v : Visit} (hv : v ∈ n.visits) (hroot : v ≠ root n) :
    v.ancestors.getLast? = some (root n) := by
  obtain ⟨p, hp, -, hchild⟩ := exists_parent hv hroot
  rw [ancestors_of_mem_children hchild]
  exact getLast?_cons_ancestors hp

theorem mem_visits_of_mem_ancestors {n : Node} {v p : Visit} (hv : v ∈ n.visits)
    (hp : p ∈ v.ancestors) : p ∈ n.visits := by
  refine walk_induction (P := fun v => ∀ p ∈ v.ancestors, p ∈ n.visits) ?_ ?_ hv p hp
  · intro p hp
    cases hp
  · intro v hv hmem c hc p hp
    rw [ancestors_of_mem_children hc, List.mem_cons] at hp
    obtain rfl | hp := hp
    · exact hv
    · exact hmem p hp

theorem length_path_of_mem_ancestors {v p : Visit} (h : p ∈ v.ancestors) :
    p.path.length < v.path.length := by
  have hfrom : ∀ path above, p ∈ ancestorsFrom path above → p.path.length < path.length := by
    intro path above h
    induction path generalizing above with
    | nil => cases h
    | cons i path ih =>
      cases above with
      | nil => cases h
      | cons m above =>
        obtain rfl | h := List.mem_cons.1 h
        · exact Nat.lt_succ_self _
        · exact Nat.lt_succ_of_lt (ih above h)
  exact hfrom v.path v.above h

theorem ne_of_mem_ancestors {v p : Visit} (h : p ∈ v.ancestors) : p ≠ v := by
  rintro rfl
  exact Nat.lt_irrefl _ (length_path_of_mem_ancestors h)

/-- A block encloses a place: the search finds it, it is an ancestor that opens a block, and no
place between the two opens one. -/
structure EnclosedBy (v block : Visit) : Prop where
  found : v.enclosingBlock? = some block
  opens : block.node.kind = .module ∨ block.node.kind = .function ∨
    block.node.kind = .classDefinition
  nearest : ∃ between beyond, v.ancestors = between ++ block :: beyond ∧
    ∀ p ∈ between, p.node.kind ≠ .module ∧ p.node.kind ≠ .function ∧
      p.node.kind ≠ .classDefinition

theorem enclosedBy_of_enclosingBlock? {v block : Visit} (h : v.enclosingBlock? = some block) :
    v.EnclosedBy block := by
  obtain ⟨hblock, between, beyond, hsplit, hbetween⟩ := List.find?_eq_some_iff_append.1 h
  refine ⟨h, NodeKind.isBlock_iff.1 hblock, between, beyond, hsplit, fun p hp => ?_⟩
  have hplain := hbetween p hp
  rw [Bool.not_eq_true', Bool.eq_false_iff, Ne, NodeKind.isBlock_iff] at hplain
  simpa only [not_or] using hplain

/-- Below a root that opens a block, every place has a block around it. -/
theorem exists_enclosedBy {n : Node} {v : Visit} (hblock : n.kind.isBlock = true)
    (hv : v ∈ n.visits) (hroot : v ≠ root n) : ∃ block, v.EnclosedBy block := by
  have hmem : root n ∈ v.ancestors := List.mem_of_getLast? (getLast?_ancestors hv hroot)
  have hsome : v.enclosingBlock?.isSome := List.find?_isSome.2 ⟨root n, hmem, hblock⟩
  obtain ⟨block, hfound⟩ := Option.isSome_iff_exists.1 hsome
  exact ⟨block, enclosedBy_of_enclosingBlock? hfound⟩

/-- What is enclosed below a place that opens no block is enclosed by the same block. -/
theorem EnclosedBy.of_mem_children {v c block : Visit} (h : v.EnclosedBy block)
    (hkind : v.node.kind.isBlock = false) (hc : c ∈ v.children) : c.EnclosedBy block := by
  refine enclosedBy_of_enclosingBlock? ?_
  rw [enclosingBlock?, ancestors_of_mem_children hc, List.find?_cons_of_neg (by simp [hkind])]
  exact h.found

theorem mem_children_of_mem_field {v w : Visit} {name : String} (h : w ∈ v.field name) :
    w ∈ v.children :=
  (fieldOf_sublist _ _ _).mem h

/-- What the field of a place holds are nodes of constructs that the field of its construct
holds. -/
theorem exists_of_mem_field {lines : List (List Char)} {v w : Visit} {b : Ast} {name : String}
    (hnode : v.node = Node.ofAst lines b) (hw : w ∈ v.field name) :
    ∃ held, (name, held) ∈ b.fields.kept ∧ ∃ k ∈ held, w.node = Node.ofAst lines k := by
  rw [field_eq_lookup] at hw
  cases hlookup : v.fields.lookup name with
  | none => rw [hlookup] at hw; cases hw
  | some places =>
    rw [hlookup] at hw
    have hplaces : (name, places) ∈ v.fields := by
      obtain ⟨before, after, hsplit, -⟩ := List.lookup_eq_some_iff.1 hlookup
      rw [hsplit]
      exact List.mem_append_right _ List.mem_cons_self
    have hmem : (name, places.map (·.node)) ∈
        v.fields.map fun x => (x.1, x.2.map (·.node)) := List.mem_map_of_mem hplaces
    rw [fields_of_ofAst hnode] at hmem
    obtain ⟨⟨name', held⟩, hheld, heq⟩ := List.mem_map.1 hmem
    obtain ⟨rfl, hnodes⟩ := Prod.mk.inj heq
    have hwnode : w.node ∈ held.map (Node.ofAst lines) := hnodes ▸ List.mem_map_of_mem hw
    obtain ⟨k, hk, hkw⟩ := List.mem_map.1 hwnode
    exact ⟨held, hheld, k, hk, hkw.symm⟩

end Visit

/-- In all calls of a tree the named arguments are such. -/
def Source.Ast.NamesArguments (a : Ast) : Prop :=
  ∀ way b, a.Reaches way b → b.form = .call → b.fields.NamesArguments

theorem Node.kind_ofAst_of_module (lines : List (List Char)) {a : Ast} (h : a.form = .module) :
    (ofAst lines a).kind = .module := by
  cases a
  obtain rfl : _ = Form.module := h
  rfl

namespace Candidate

/-- A candidate is traced in the block that encloses its site, and its expression too. -/
structure TracedIn (candidate : Candidate) (block : Visit) : Prop where
  belongs : candidate.block = some block
  encloses_site : candidate.site.EnclosedBy block
  encloses_expression : candidate.expression.EnclosedBy block

section

variable {lines : List (List Char)} {a : Ast} {site block : Visit}

/-- The first argument of a call is enclosed by the block that the call is in. -/
theorem enclosedBy_of_firstArgument? {expression : Visit} (hnames : a.NamesArguments)
    (hsite : site ∈ (Node.ofAst lines a).visits) (hcall : site.node.kind = .call)
    (henclosed : site.EnclosedBy block) (h : firstArgument? site = some expression) :
    expression.EnclosedBy block := by
  have hplain : site.node.kind.isBlock = false := by rw [hcall]; rfl
  unfold firstArgument? at h
  split at h
  next a' rest hargs =>
    cases h
    exact henclosed.of_mem_children hplain
      (Visit.mem_children_of_mem_field (hargs ▸ List.mem_cons_self))
  · split at h
    next k hk =>
      have hmem := List.mem_of_find?_eq_some hk
      obtain ⟨way, b, hreaches, hnode⟩ := Node.exists_reaches_of_mem_visits hsite
      obtain ⟨held, hheld, named, hnamed, hknode⟩ := Visit.exists_of_mem_field hnode hmem
      have hform : b.form = .call := by
        cases b
        exact Node.form_of_kindOf (hnode ▸ hcall) rfl
      have hkeyword : k.node.kind.isBlock = false := by
        have hkeyword := hnames way b hreaches hform held hheld named hnamed
        rw [hknode]
        cases named
        obtain rfl : _ = Form.keyword := hkeyword
        rfl
      have hinner := henclosed.of_mem_children hplain (Visit.mem_children_of_mem_field hmem)
      exact hinner.of_mem_children hkeyword
        (Visit.mem_children_of_mem_field (List.mem_of_head? h))
    · cases h

/-- A candidate in the tree of a module is traced in a block. -/
theorem exists_tracedIn {markers : Markers} {candidate : Candidate} (hmodule : a.form = .module)
    (hnames : a.NamesArguments) (hsite : site ∈ (Node.ofAst lines a).visits)
    (h : detect? lines markers site = some candidate) :
    candidate.site = site ∧ ∃ block, candidate.TracedIn block := by
  obtain ⟨hblock, rfl, hcases⟩ := exists_of_detect? h
  have hroot := Node.kind_ofAst_of_module lines hmodule
  have hbelow : candidate.site ≠ .root (Node.ofAst lines a) := by
    intro heq
    rw [heq] at hcases
    obtain ⟨hkind, -⟩ | ⟨hkind | hkind, -⟩ := hcases <;> exact nomatch hroot.symm.trans hkind
  obtain ⟨block, henclosed⟩ := Visit.exists_enclosedBy (by rw [hroot]; rfl) hsite hbelow
  refine ⟨rfl, block, hblock.trans henclosed.found, henclosed, ?_⟩
  obtain ⟨hcall, hargument⟩ | ⟨hassignment, hvalue⟩ := hcases
  · exact enclosedBy_of_firstArgument? hnames hsite hcall henclosed hargument
  · have hplain : candidate.site.node.kind.isBlock = false := by
      obtain hkind | hkind := hassignment <;> rw [hkind] <;> rfl
    exact henclosed.of_mem_children hplain
      (Visit.mem_children_of_mem_field (List.mem_of_head? hvalue))

end

end Candidate

/-- In a program that is read the named arguments of calls are such. -/
theorem Engine.exists_namesArguments_of_read {language path source : String}
    {limits : Document.Limits} {d : Document}
    (h : read language path source limits = .ok (some d)) :
    ∃ a : Ast, a.form = .module ∧ a.NamesArguments ∧ d.root = Node.ofAst d.lines a := by
  obtain ⟨a, hroot, hmodule, hwithin⟩ := exists_tree_of_read h
  let window : Window := .linesOf (Document.normalize source)
  refine ⟨a, hmodule, fun way b hreaches hcall => ?_, hroot⟩
  exact (hwithin.of_reaches hreaches).admits.call hcall

namespace Node

/-- Below the root of a tree, the ancestors of a place are other places of the tree. They go from
parent to parent and end at the root, and one of them is the block around the place. -/
structure Enclosed (root : Node) (v : Visit) : Prop where
  other : ∀ p ∈ v.ancestors, p ∈ root.visits ∧ p ≠ v
  climbs : Visit.Climbs (v :: v.ancestors)
  ends : v.ancestors.getLast? = some (.root root)
  block : ∃ block, v.EnclosedBy block

theorem enclosed_of_module {lines : List (List Char)} {a : Ast} (hmodule : a.form = .module)
    {v : Visit} (hv : v ∈ (ofAst lines a).visits) (hbelow : v ≠ .root (ofAst lines a)) :
    (ofAst lines a).Enclosed v where
  other _ hp := ⟨Visit.mem_visits_of_mem_ancestors hv hp, Visit.ne_of_mem_ancestors hp⟩
  climbs := Visit.climbs_ancestors hv
  ends := Visit.getLast?_ancestors hv hbelow
  block := Visit.exists_enclosedBy (by rw [kind_ofAst_of_module lines hmodule]; rfl) hv hbelow

/-- Looking for blocks always succeeds. In the tree of a module every place below the root is
enclosed: its ancestors lead up to the root, and the block that is found is the nearest of them
which is a module, a function or a class. If the named arguments of calls are such, every
candidate has a block, which encloses its site and is also the block around its expression. In a
document that is read, all this is so. -/
theorem blocks_enclose :
    (∀ (lines : List (List Char)) (a : Ast), a.form = .module →
      (∀ v ∈ (ofAst lines a).visits, v ≠ .root (ofAst lines a) → (ofAst lines a).Enclosed v) ∧
      (a.NamesArguments → ∀ markers, ∀ site ∈ (ofAst lines a).visits, ∀ candidate,
        Candidate.detect? lines markers site = some candidate →
          candidate.site = site ∧ ∃ block, candidate.TracedIn block)) ∧
    ∀ (language path source : String) (limits : Document.Limits) (d : Document),
      Engine.read language path source limits = .ok (some d) →
      (∀ v ∈ d.root.visits, v ≠ .root d.root → d.root.Enclosed v) ∧
      ∀ markers, ∀ site ∈ d.root.visits, ∀ candidate,
        Candidate.detect? d.lines markers site = some candidate →
          candidate.site = site ∧ ∃ block, candidate.TracedIn block := by
  constructor
  · intro lines a hmodule
    refine ⟨fun v => enclosed_of_module hmodule, ?_⟩
    exact fun hnames markers site hsite candidate => Candidate.exists_tracedIn hmodule hnames hsite
  · intro language path source limits d hread
    obtain ⟨a, hmodule, hnames, hroot⟩ := Engine.exists_namesArguments_of_read hread
    rw [hroot]
    refine ⟨fun v => enclosed_of_module hmodule, ?_⟩
    exact fun markers site hsite candidate => Candidate.exists_tracedIn hmodule hnames hsite

/-- A text that is given by name, in a function without a name inside a method, is traced in the
method. -/
theorem blocks_enclose_named_argument :
    let source := "class A:\n    def f(self, q):\n        return lambda: SqlCommand(text=q)\n"
    ∃ d, Engine.read "python" "a.py" source = .ok (some d) ∧
      ∃ site ∈ d.root.visits, ∃ candidate block,
        Candidate.detect? d.lines .default site = some candidate ∧ candidate.TracedIn block ∧
          block.node.kind = .function := by
  intro source
  have hread : (Engine.read "python" "a.py" source).toOption.join.map (fun d =>
      d.root.visits.filterMap fun site => (Candidate.detect? d.lines .default site).bind fun c =>
        c.block.map (·.node.kind)) = some [.function] := by decide +kernel
  obtain ⟨d, hd, hfound⟩ := Engine.read_eq_of_map hread
  have hmem : NodeKind.function ∈ d.root.visits.filterMap fun site =>
      (Candidate.detect? d.lines .default site).bind fun c => c.block.map (·.node.kind) := by
    rw [hfound]
    exact List.mem_singleton_self _
  obtain ⟨site, hsite, hkind⟩ := List.mem_filterMap.1 hmem
  obtain ⟨candidate, hcandidate, hkind⟩ := Option.bind_eq_some_iff.1 hkind
  obtain ⟨block, hblock, hkind⟩ := Option.map_eq_some_iff.1 hkind
  obtain ⟨-, block', htraced⟩ := (blocks_enclose.2 _ _ _ _ d hd).2 .default site hsite candidate
    hcandidate
  obtain rfl : block' = block := Option.some.inj (htraced.belongs.symm.trans hblock)
  exact ⟨d, hd, site, hsite, candidate, block', hcandidate, htraced, hkind⟩

end Node

end QueryLint
