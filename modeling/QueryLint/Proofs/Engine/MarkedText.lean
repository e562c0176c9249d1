import QueryLint.Proofs.Engine.Marks
import QueryLint.Proofs.Tree.BlockTokens
import QueryLint.Proofs.Tree.Blocks

/-!
# Where marks are looked for

A site is a candidate because of a mark in the source text of its callee or of one of its targets.
These are names, or attributes of an object, and the object may be any expression: its source text
is part of the text that is searched, with the arguments, the subscripts and the strings in it.
Names and attributes lie in the source and do not end before they start. So a mark counts exactly
if it occurs in the source inside the span of the callee or of the target, whatever construct it
stands in there.
-/

namespace QueryLint

open Text Source

namespace Text

theorem hasInfix_iff {part cs : List Char} : hasInfix part cs = true ↔ part <:+: cs := by
  induction cs with
  | nil => rw [hasInfix, List.isEmpty_iff, List.infix_nil]
  | cons c cs ih =>
    rw [hasInfix, Bool.or_eq_true, List.isPrefixOf_iff_prefix, ih, List.infix_cons_iff]

theorem occursIn_iff {part text : String} :
    occursIn part text = true ↔ part.toList <:+: text.toList := hasInfix_iff

end Text

/-- One of the marks occurs in the source text of a place. -/
def Visit.IsMarked (lines : List (List Char)) (marks : List String) (v : Visit) : Prop :=
  ∃ mark ∈ marks, mark.toList <:+: (v.node.text lines).toList

theorem Markers.isCommandType_iff {markers : Markers} {lines : List (List Char)} {v : Visit} :
    markers.isCommandType (v.node.text lines) = true ↔ v.IsMarked lines markers.constructors := by
  simp only [isCommandType, List.any_eq_true, occursIn_iff, Visit.IsMarked]

theorem Markers.isCommandText_iff {markers : Markers} {lines : List (List Char)} {v : Visit} :
    markers.isCommandText (v.node.text lines) = true ↔ v.IsMarked lines markers.properties := by
  simp only [isCommandText, List.any_eq_true, occursIn_iff, Visit.IsMarked]

namespace Source.Place

/-- To read on is to get further. -/
theorem eq_nil_of_before {p : Place} {cs : List Char}
    (h : Span.before (p.advanceOver cs).line (p.advanceOver cs).column p.line p.column = true) :
    cs = [] := by
  cases cs with
  | nil => rfl
  | cons c cs =>
    have hrest := (p.advance c).before_advanceOver cs
    have hread : p.advanceOver (c :: cs) = (p.advance c).advanceOver cs := rfl
    rw [hread] at h
    have hback := Span.before_trans hrest h
    rw [Span.before_iff, advance] at hback
    split at hback <;> simp at hback

/-- Of two parts that a text begins with, the one that ends earlier is the shorter. -/
theorem prefix_of_before {before before' after after' : List Char}
    (htext : before ++ after = before' ++ after')
    (h : Span.before (start.advanceOver before).line (start.advanceOver before).column
      (start.advanceOver before').line (start.advanceOver before').column = true) :
    before <+: before' := by
  obtain hprefix | ⟨chars, rfl⟩ := List.prefix_or_prefix_of_prefix
    (List.prefix_append before after) (htext ▸ List.prefix_append before' after')
  · exact hprefix
  · rw [advanceOver_append] at h
    rw [eq_nil_of_before h, List.append_nil]

end Source.Place

namespace Span

/-- A position in the lines of a text lies behind the first part of it. -/
theorem exists_before_of_position {cs : List Char} {line column : Nat} (hpos : 1 ≤ line)
    (hle : line ≤ (newlineLines cs).length)
    (hcolumn : column ≤ (lineAt (newlineLines cs) line).length) :
    ∃ before after, cs = before ++ after ∧ (Place.start.advanceOver before).line = line ∧
      (Place.start.advanceOver before).column = column := by
  let left := (lineAt (newlineLines cs) line).take column
  let right := (lineAt (newlineLines cs) line).drop column
  have hline : lineAt (newlineLines cs) line = left ++ right := (List.take_append_drop _ _).symm
  -- a column is always at a boundary of characters, so the part is found by its bytes
  have hat : AtBoundary cs line (bytesOf left).length := ⟨hpos, hle, left, right, hline, rfl⟩
  obtain ⟨before, after, rfl, hbehind, -⟩ := hat.exists_liesBehind
  obtain ⟨hat, hcounted⟩ := Node.columnAt_of_liesBehind hbehind after
  refine ⟨before, after, rfl, hat, ?_⟩
  obtain ⟨n, rfl⟩ := Nat.exists_eq_add_of_le' hpos
  have hget : (newlineLines (before ++ after))[n]? = some (left ++ right) := by
    rw [← hline, lineAt, Nat.add_sub_cancel, List.getElem?_eq_getElem hle]
    rfl
  rw [← hcounted, Node.columnAt, hget]
  exact (charColumn_append left right).trans (List.length_take_of_le hcolumn)

/-- A span that lies in a text is that of a stretch of it. -/
theorem InLines.exists_stretch {s : Span} {cs : List Char} (h : s.InLines (newlineLines cs))
    (hforward : s.IsForward) :
    ∃ before chars after, cs = before ++ chars ++ after ∧ s = ofStretch before chars := by
  obtain ⟨line, column, line', column'⟩ := s
  obtain ⟨hpos, hle, hend, hcolumn, hbound, hcolumn', hbound'⟩ := h
  lift line to Nat using Int.le_trans (by decide) hpos
  lift line' to Nat using Int.le_trans (Int.natCast_nonneg line) hle
  lift column to Nat using hcolumn
  lift column' to Nat using hcolumn'
  simp only [Int.toNat_natCast, Nat.cast_le] at hpos hle hend hbound hbound'
  obtain ⟨before, rest, htext, rfl, rfl⟩ :=
    exists_before_of_position (by omega) (hle.trans hend) hbound
  obtain ⟨upto, after, htext', rfl, rfl⟩ := exists_before_of_position (by omega) hend hbound'
  -- what lies before the end goes on from what lies before the start
  obtain ⟨chars, rfl⟩ := Place.prefix_of_before (htext.symm.trans htext') hforward
  refine ⟨before, chars, after, htext', ?_⟩
  rw [ofStretch, Place.advanceOver_append]

/-- A text occurs in a source inside a span. -/
def Shows (s : Span) (cs part : List Char) : Prop :=
  ∃ before after, cs = before ++ part ++ after ∧ s.contains (ofStretch before part) = true

theorem Shows.of_contains {outer inner : Span} {cs part : List Char} (h : inner.Shows cs part)
    (hcontains : outer.contains inner = true) : outer.Shows cs part := by
  obtain ⟨before, after, htext, hinside⟩ := h
  exact ⟨before, after, htext, contains_trans hcontains hinside⟩

/-- What occurs in the text of a span is what occurs in the source inside the span. -/
theorem infix_excerpt_iff_shows {s : Span} {cs part : List Char} (h : s.InLines (newlineLines cs))
    (hforward : s.IsForward) : part <:+: s.excerpt (newlineLines cs) ↔ s.Shows cs part := by
  obtain ⟨before, chars, after, rfl, rfl⟩ := h.exists_stretch hforward
  rw [excerpt_ofStretch]
  constructor
  · rintro ⟨left, right, rfl⟩
    exact ⟨before ++ left, right ++ after, by simp, contains_ofStretch before left part right⟩
  · rintro ⟨before', after', htext, hcontains⟩
    obtain ⟨hfirst, hlast⟩ := contains_iff.1 hcontains
    simp only [ofStretch, ← Place.advanceOver_append] at hfirst hlast
    obtain ⟨left, rfl⟩ : before <+: before' :=
      Place.prefix_of_before (by rw [← List.append_assoc, htext, List.append_assoc]) hfirst
    obtain ⟨right, hright⟩ := Place.prefix_of_before htext.symm hlast
    refine ⟨left, right, ?_⟩
    simpa using hright

end Span

/-- On one line, columns are in the order of offsets. -/
theorem Node.columnAt_mono (lines : List (List Char)) (line : Nat) :
    Monotone (columnAt lines line) := by
  intro offset offset' h
  unfold columnAt
  split
  · exact h
  · split
    · exact charColumn_mono _ h
    · exact h

theorem Node.isForward_spanOfExtent (lines : List (List Char)) {e : Extent} (h : e.IsForward) :
    (spanOfExtent lines e).IsForward := by
  refine Span.before_iff.2 (h.imp Int.ofNat_lt.2 ?_)
  rintro ⟨hline, hoffset⟩
  have hcolumn : columnAt lines e.line e.offset ≤ columnAt lines e.endLine e.endOffset := by
    rw [hline]
    exact columnAt_mono lines e.endLine hoffset
  exact ⟨congrArg Int.ofNat hline, Int.ofNat_le.2 hcolumn⟩

/-- The names and the attributes of a document lie in it. -/
theorem Engine.inLines_of_named {language path source : String} {limits : Document.Limits}
    {d : Document} (hread : read language path source limits = .ok (some d)) {v : Visit}
    (hv : v ∈ d.root.visits) (hkind : v.node.kind = .identifier ∨ v.node.kind = .attribute) :
    v.node.span.InLines d.lines ∧ v.node.span.IsForward := by
  obtain ⟨tree, hroot, -, hwithin⟩ := exists_tree_of_read hread
  let window : Window := .linesOf (Document.normalize source)
  rw [hroot] at hv
  obtain ⟨way, ⟨form, value, extent, fields⟩, hreaches, hnode⟩ :=
    Node.exists_reaches_of_mem_visits hv
  have hform : form.IsNamed := by
    rw [hnode, Node.kind_ofAst] at hkind
    exact hkind.imp (Node.form_of_kindOf · rfl) (Node.form_of_kindOf · rfl)
  obtain ⟨e, hextent, hplaces⟩ := (hwithin.of_reaches hreaches).admits.placed hform
  obtain rfl : extent = some e := hextent
  have hspan : v.node.span = Node.spanOfExtent d.lines e := by
    rw [hnode]
    obtain rfl | rfl := hform <;> rfl
  have hle : e.line ≤ e.endLine := hplaces.forward.elim Nat.le_of_lt fun h => Nat.le_of_eq h.1
  have hend : e.endLine ≤ d.lines.length := by
    rw [lines_of_read hread]
    exact hplaces.ends
  rw [hspan]
  exact ⟨Node.inLines_spanOfExtent hplaces.starts hle hend,
    Node.isForward_spanOfExtent d.lines hplaces.forward⟩

/-- A construct leads to an object by attributes: it is the object, or an attribute of a construct
that leads to it. -/
inductive Source.Ast.LeadsTo : Ast → Ast → Prop
  | here (object : Ast) : LeadsTo object object
  | named {a object : Ast} (value : Value) (extent : Option Extent) (h : LeadsTo a object) :
      LeadsTo (.node .attribute value extent (.child "value" a (.plain "attr" .nil))) object

/-- Where attributes belong to objects, every construct leads to one that is no attribute. -/
theorem Source.Ast.Within.exists_object [Window] :
    (a : Ast) → a.Within → ∃ object, a.LeadsTo object ∧ object.Within ∧ object.form ≠ .attribute
  | .node form value extent fields, h => by
    by_cases hform : form = .attribute
    · obtain ⟨a, rfl⟩ := h.admits.access hform
      obtain ⟨object, hleads, hwithin, hother⟩ := exists_object a h.2.1
      obtain rfl : form = .attribute := hform
      exact ⟨object, .named value extent hleads, hwithin, hother⟩
    · exact ⟨_, .here _, h, hform⟩

namespace Visit

variable (lines : List (List Char)) (v : Visit)

/-- A plain dotted name: attributes lead from it to a name, which has no parts. -/
def IsDottedName : Prop :=
  ∃ a value extent, v.node = Node.ofAst lines a ∧ a.LeadsTo (.node .name value extent .nil)

/-- An attribute of something else: attributes, one at least, lead from it to an object that is
not a name. -/
def IsOtherAccess : Prop :=
  v.node.kind = .attribute ∧ ∃ a object, v.node = Node.ofAst lines a ∧ a.LeadsTo object ∧
    object.form ≠ .attribute ∧ object.form ≠ .name

variable {lines v}

/-- A plain dotted name holds nothing but names. -/
theorem IsDottedName.kind_of_mem_walk (h : v.IsDottedName lines) :
    ∀ n ∈ v.node.walk, n.kind = .identifier ∨ n.kind = .attribute := by
  obtain ⟨a, value, extent, hnode, hleads⟩ := h
  rw [hnode]
  clear hnode
  generalize hname : Ast.node .name value extent .nil = name at hleads
  induction hleads with
  | here =>
    subst hname
    intro n hn
    obtain rfl : n = Node.ofAst lines (.node .name value extent .nil) := by
      simpa [Node.ofAst, Node.ofFields, Node.walk, Node.walkList] using hn
    exact .inl rfl
  | @named a _ attr extent' _ ih =>
    intro n hn
    rw [Node.ofAst, Node.walk, List.mem_cons] at hn
    obtain rfl | hn := hn
    · exact .inr rfl
    · rw [Node.ofFields, Node.ofFields, Node.ofFields] at hn
      split at hn
      · cases hn
      · rw [Node.walkList, Node.walkList, List.append_nil] at hn
        exact ih hname n hn

theorem IsDottedName.kind (h : v.IsDottedName lines) :
    v.node.kind = .identifier ∨ v.node.kind = .attribute :=
  h.kind_of_mem_walk v.node (Node.mem_walk_self v.node)

/-- In a document, names and attributes are dotted names or attributes of something else. -/
theorem isDottedName_or_isOtherAccess {language path source : String} {limits : Document.Limits}
    {d : Document} (hread : Engine.read language path source limits = .ok (some d))
    (hv : v ∈ d.root.visits)
    (hkind : v.node.kind = .identifier ∨ v.node.kind = .attribute) :
    v.IsDottedName d.lines ∨ v.IsOtherAccess d.lines := by
  obtain ⟨tree, hroot, -, hwithin⟩ := Engine.exists_tree_of_read hread
  let window : Window := .linesOf (Document.normalize source)
  rw [hroot] at hv
  obtain ⟨way, a, hreaches, hnode⟩ := Node.exists_reaches_of_mem_visits hv
  obtain ⟨object, hleads, hobject, hother⟩ := (hwithin.of_reaches hreaches).exists_object a
  by_cases hname : object.form = .name
  · obtain ⟨form, value, extent, fields⟩ := object
    obtain rfl : form = .name := hname
    obtain rfl := hobject.admits.name rfl
    exact .inl ⟨a, value, extent, hnode, hleads⟩
  · refine .inr ⟨hkind.resolve_left fun hidentifier => ?_, a, object, hnode, hleads, hother, hname⟩
    -- a name leads to nothing but itself
    rw [hnode, Node.kind_ofAst] at hidentifier
    have hform := Node.form_of_kindOf hidentifier rfl
    cases hleads with
    | here => exact hname hform
    | named => cases hform

end Visit

namespace Candidate

variable {lines : List (List Char)} {markers : Markers} {site : Visit}

/-- A call is a candidate if it has an argument to read and what is called is marked. -/
theorem isSome_detect?_of_call (hkind : site.node.kind = .call) :
    (detect? lines markers site).isSome ↔ (firstArgument? site).isSome ∧
      ∃ callee, (site.field "func").head? = some callee ∧
        (callee.node.kind = .identifier ∨ callee.node.kind = .attribute) ∧
        callee.IsMarked lines markers.constructors := by
  have hmarked : isMarkedCall lines markers site = true ↔
      ∃ callee, (site.field "func").head? = some callee ∧
        (callee.node.kind = .identifier ∨ callee.node.kind = .attribute) ∧
        callee.IsMarked lines markers.constructors := by
    simp only [isMarkedCall, Option.any_eq_true, Bool.and_eq_true, Bool.or_eq_true, beq_iff_eq,
      Markers.isCommandType_iff]
  have hdetect : detect? lines markers site = construction? lines markers site := by
    simp only [detect?, hkind]
  rw [hdetect, construction?_eq, ← hmarked]
  split
  next h => simp [h]
  next h => simp [h]

/-- An assignment is a candidate if something is assigned and one of its targets is a marked
attribute. -/
theorem isSome_detect?_of_assignment
    (hkind : site.node.kind = .assignment ∨ site.node.kind = .annotatedAssignment) :
    (detect? lines markers site).isSome ↔ (site.field "value").head?.isSome ∧
      ∃ target ∈ targets site, target.node.kind = .attribute ∧
        target.IsMarked lines markers.properties := by
  have hmarked : isMarkedAssignment lines markers site = true ↔
      ∃ target ∈ targets site, target.node.kind = .attribute ∧
        target.IsMarked lines markers.properties := by
    simp only [isMarkedAssignment, List.any_eq_true, Bool.and_eq_true, beq_iff_eq,
      Markers.isCommandText_iff]
  have hdetect : detect? lines markers site = assignment? lines markers site := by
    obtain hkind | hkind := hkind <;> simp only [detect?, hkind]
  rw [hdetect, assignment?_eq, ← hmarked]
  split
  next h => simp [h]
  next h => simp [h]

theorem mem_children_of_mem_targets {target : Visit} (h : target ∈ targets site) :
    target ∈ site.children := by
  unfold targets at h
  split at h
  · exact Visit.mem_children_of_mem_field (List.mem_of_mem_take h)
  · exact Visit.mem_children_of_mem_field h

/-- Marks are matched in the source text of names and of attributes, whatever these are attributes
of. In every source that is read and for every set of marks, a call is a candidate exactly if it
has an argument to read and what is called is a plain dotted name, or an attribute of something
else, with a mark in its source text; an assignment is one exactly if something is assigned and
one of its targets is such an attribute. There are only names in a plain dotted name. Names and
attributes lie in the source, from their start to their end; in the text of whatever does so, a
mark occurs exactly if it occurs in the source inside the span, and so it does if it occurs inside
the span of anything in there. -/
theorem marks_match_text_of_accesses {language path source : String} {limits : Document.Limits}
    {d : Document} (hread : Engine.read language path source limits = .ok (some d))
    (markers : Markers) :
    (∀ site ∈ d.root.visits, site.node.kind = .call →
      ((detect? d.lines markers site).isSome ↔ (firstArgument? site).isSome ∧
        ∃ callee, (site.field "func").head? = some callee ∧
          (callee.IsDottedName d.lines ∨ callee.IsOtherAccess d.lines) ∧
          callee.IsMarked d.lines markers.constructors)) ∧
    (∀ site ∈ d.root.visits,
      site.node.kind = .assignment ∨ site.node.kind = .annotatedAssignment →
      ((detect? d.lines markers site).isSome ↔ (site.field "value").head?.isSome ∧
        ∃ target ∈ targets site, target.node.kind = .attribute ∧
          (target.IsDottedName d.lines ∨ target.IsOtherAccess d.lines) ∧
          target.IsMarked d.lines markers.properties)) ∧
    (∀ v : Visit, v.IsDottedName d.lines →
      ∀ n ∈ v.node.walk, n.kind = .identifier ∨ n.kind = .attribute) ∧
    (∀ v ∈ d.root.visits, v.node.kind = .identifier ∨ v.node.kind = .attribute →
      v.node.span.InLines d.lines ∧ v.node.span.IsForward) ∧
    ∀ v ∈ d.root.visits, v.node.span.InLines d.lines → v.node.span.IsForward → ∀ marks,
      (v.IsMarked d.lines marks ↔
        ∃ mark ∈ marks, v.node.span.Shows (Document.normalize source) mark.toList) ∧
      ∀ part ∈ d.root.visits, v.node.span.contains part.node.span = true → ∀ mark ∈ marks,
        part.node.span.Shows (Document.normalize source) mark.toList →
          v.IsMarked d.lines marks := by
  refine ⟨fun site hsite hkind => ?_, fun site hsite hkind => ?_,
    fun v hv => hv.kind_of_mem_walk, fun v hv hkind => Engine.inLines_of_named hread hv hkind,
    fun v hv hlines hforward marks => ?_⟩
  · rw [isSome_detect?_of_call hkind]
    refine and_congr_right fun _ => exists_congr fun callee => and_congr_right fun hcallee => ?_
    have hmem := Visit.mem_walk_of_mem_children hsite
      (Visit.mem_children_of_mem_field (List.mem_of_head? hcallee))
    refine and_congr_left fun _ => ⟨Visit.isDottedName_or_isOtherAccess hread hmem, ?_⟩
    exact fun h => h.elim Visit.IsDottedName.kind fun hother => .inr hother.1
  · rw [isSome_detect?_of_assignment hkind]
    refine and_congr_right fun _ => exists_congr fun target => and_congr_right fun htarget =>
      and_congr_right fun hattribute => (and_iff_right ?_).symm
    exact Visit.isDottedName_or_isOtherAccess hread
      (Visit.mem_walk_of_mem_children hsite (mem_children_of_mem_targets htarget))
      (.inr hattribute)
  · have hshows : v.IsMarked d.lines marks ↔
        ∃ mark ∈ marks, v.node.span.Shows (Document.normalize source) mark.toList := by
      rw [Engine.lines_of_read hread] at hlines ⊢
      refine exists_congr fun mark => and_congr_right fun _ => ?_
      rw [Node.text, String.toList_ofList, Span.infix_excerpt_iff_shows hlines hforward]
    refine ⟨hshows, fun part _ hcontains mark hmark hpart => ?_⟩
    exact hshows.2 ⟨mark, hmark, hpart.of_contains hcontains⟩

/-- The mark of the call is in an argument, and that of the assignment is in a subscript, both in
front of a dot. -/
theorem marks_match_text_of_accesses_in_receivers :
    let source :=
      "f(\"SqlCommand\").run(\"SELEKT 1\")\nd[\"CommandText\"].x.y = \"SELEKT 2\"\n"
    ∃ d, Engine.read "python" "a.py" source = .ok (some d) ∧
      (∃ site ∈ d.root.visits, (detect? d.lines .default site).isSome ∧
        ∃ callee, (site.field "func").head? = some callee ∧
          (callee.IsDottedName d.lines ∨ callee.IsOtherAccess d.lines) ∧
          callee.IsMarked d.lines ["SqlCommand"]) ∧
      (∃ site ∈ d.root.visits, (detect? d.lines .default site).isSome ∧
        ∃ target ∈ targets site, target.node.kind = .attribute ∧
          (target.IsDottedName d.lines ∨ target.IsOtherAccess d.lines) ∧
          target.IsMarked d.lines ["CommandText"]) ∧
      ∃ callee ∈ d.root.visits, ∃ part ∈ d.root.visits, part.node.kind = .stringLiteral ∧
        callee.node.span.contains part.node.span = true ∧
        part.node.span.Shows source.toList "SqlCommand".toList ∧
        callee.IsMarked d.lines ["SqlCommand"] := by
  intro source
  have hread : (Engine.read "python" "a.py" source).toOption.join.map (fun d =>
      [[0, 0], [1], [0, 0, 0], [1, 0, 0, 0, 0]].map fun path =>
        (d.root.visits.find? fun v => v.path = path).map fun v =>
          (v.node.kind, v.node.span, (detect? d.lines .default v).isSome)) =
      some [some (.call, ⟨1, 0, 1, 31⟩, true), some (.assignment, ⟨2, 0, 2, 33⟩, true),
        some (.attribute, ⟨1, 0, 1, 19⟩, false), some (.stringLiteral, ⟨1, 2, 1, 14⟩, false)] := by
    decide +kernel
  obtain ⟨d, hd, hfound⟩ := Engine.read_eq_of_map hread
  simp only [List.map_cons, List.map_nil, List.cons.injEq] at hfound
  obtain ⟨hcall, hassignment, hcallee, hliteral, -⟩ := hfound
  have hat : ∀ {path : List Nat} {kind : NodeKind} {span : Span} {candidate : Bool},
      ((d.root.visits.find? fun v => v.path = path).map fun v =>
        (v.node.kind, v.node.span, (detect? d.lines .default v).isSome)) =
          some (kind, span, candidate) →
      ∃ v ∈ d.root.visits, v.node.kind = kind ∧ v.node.span = span ∧
        (detect? d.lines .default v).isSome = candidate := by
    intro path kind span candidate h
    obtain ⟨v, hv, heq⟩ := Option.map_eq_some_iff.1 h
    cases heq
    exact ⟨v, List.mem_of_find?_eq_some hv, rfl, rfl, rfl⟩
  obtain ⟨call, hcall, hkind, -, hsome⟩ := hat hcall
  obtain ⟨assignment, hassignment, hkind', -, hsome'⟩ := hat hassignment
  obtain ⟨callee, hcallee, hattribute, hspan, -⟩ := hat hcallee
  obtain ⟨literal, hliteral, hstring, hspan', -⟩ := hat hliteral
  obtain ⟨hcalls, hassignments, -, hplaced, hparts⟩ := marks_match_text_of_accesses hd .default
  have hnormal : Document.normalize source = source.toList := by decide +kernel
  have hcontains : callee.node.span.contains literal.node.span = true := by
    rw [hspan, hspan']
    decide
  have hshows : literal.node.span.Shows source.toList "SqlCommand".toList := by
    rw [hspan']
    exact ⟨"f(\"".toList, "\").run(\"SELEKT 1\")\nd[\"CommandText\"].x.y = \"SELEKT 2\"\n".toList,
      by decide, by decide⟩
  refine ⟨d, hd, ⟨call, hcall, hsome, ((hcalls call hcall hkind).1 hsome).2⟩,
    ⟨assignment, hassignment, hsome', ((hassignments assignment hassignment (.inl hkind')).1
      hsome').2⟩, callee, hcallee, literal, hliteral, hstring, hcontains, hshows, ?_⟩
  obtain ⟨hlines, hforward⟩ := hplaced callee hcallee (.inr hattribute)
  refine (hparts callee hcallee hlines hforward _).2 literal hliteral hcontains _
    (List.mem_singleton.2 rfl) ?_
  rw [hnormal]
  exact hshows

/-- The mark occurs in no name of what is called, only in a string that is an argument in front of
the last dot. Still the call is a candidate, and what is called is no plain dotted name. -/
theorem mark_in_receiver_makes_candidate :
    let source := "f(\"SqlCommand\").run(\"SELEKT 1\")\n"
    ∃ d, Engine.read "python" "a.py" source = .ok (some d) ∧
      ∃ site ∈ d.root.visits, ∃ c callee, detect? d.lines .default site = some c ∧
        c.shape = .construction ∧ (site.field "func").head? = some callee ∧
        callee.node.text d.lines = "f(\"SqlCommand\").run" ∧ ¬ callee.IsDottedName d.lines := by
  intro source
  have hread : (Engine.read "python" "a.py" source).toOption.join.map (fun d =>
      d.root.visits.filterMap fun site =>
        (detect? d.lines .default site).bind fun c => (site.field "func").head?.map fun callee =>
          (c.shape, callee.node.text d.lines, callee.node.walk.map (·.kind))) =
      some [(.construction, "f(\"SqlCommand\").run",
        [.attribute, .call, .identifier, .stringLiteral])] := by
    decide +kernel
  obtain ⟨d, hd, hfound⟩ := Engine.read_eq_of_map hread
  obtain ⟨site, hsite, hfirst⟩ :=
    List.mem_filterMap.1 (hfound ▸ List.mem_singleton.2 rfl :
      (_, _, _) ∈ d.root.visits.filterMap _)
  obtain ⟨c, hc, hmap⟩ := Option.bind_eq_some_iff.1 hfirst
  obtain ⟨callee, hcallee, heq⟩ := Option.map_eq_some_iff.1 hmap
  obtain ⟨hshape, htext, hkinds⟩ : c.shape = .construction ∧
      callee.node.text d.lines = "f(\"SqlCommand\").run" ∧ callee.node.walk.map (·.kind) =
        [.attribute, .call, .identifier, .stringLiteral] := by simpa using heq
  refine ⟨d, hd, site, hsite, c, callee, hc, hshape, hcallee, htext, fun hdotted => ?_⟩
  have hcall : NodeKind.call ∈ callee.node.walk.map (·.kind) := by
    rw [hkinds]
    decide
  obtain ⟨n, hn, hkind⟩ := List.mem_map.1 hcall
  have hname := hdotted.kind_of_mem_walk n hn
  rw [hkind] at hname
  exact absurd hname (by decide)

end Candidate

end QueryLint
