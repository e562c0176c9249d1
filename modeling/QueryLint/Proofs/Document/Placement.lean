import QueryLint.Proofs.Document.TextLines
import QueryLint.Proofs.Resolution
import QueryLint.Proofs.Tree.Columns

/-!
# Where literals and tokens are placed

A string literal of the tree and a token of the stream both lie in the lines of their document.
For a node this rests on the lines of its construct: byte offsets may be anything, because the
conversion to columns never goes beyond a line. So the text of a candidate is placed in the
document, whether its expression is a literal or was traced to a token.
-/

namespace QueryLint

open Text Source

/-- The line of a number, counted from one; a line that is not there is empty. -/
def lineAt (lines : List (List Char)) (n : Nat) : List Char := (lines[n - 1]?).getD []

/-- A span lies in a text: its lines are lines of the text, in order, and its columns do not go
beyond these lines. -/
structure Span.InLines (lines : List (List Char)) (s : Span) : Prop where
  startLine_pos : 1 ≤ s.startLine
  startLine_le : s.startLine ≤ s.endLine
  endLine_le : s.endLine ≤ lines.length
  startColumn_nonneg : 0 ≤ s.startColumn
  startColumn_le : s.startColumn ≤ (lineAt lines s.startLine.toNat).length
  endColumn_nonneg : 0 ≤ s.endColumn
  endColumn_le : s.endColumn ≤ (lineAt lines s.endLine.toNat).length

theorem Span.inLines_mk {lines : List (List Char)} {line column line' column' : Nat}
    (hpos : 1 ≤ line) (hle : line ≤ line') (hend : line' ≤ lines.length)
    (hcolumn : column ≤ (lineAt lines line).length)
    (hcolumn' : column' ≤ (lineAt lines line').length) :
    (Span.mk line column line' column').InLines lines where
  startLine_pos := Int.ofNat_le.2 hpos
  startLine_le := Int.ofNat_le.2 hle
  endLine_le := Int.ofNat_le.2 hend
  startColumn_nonneg := Int.natCast_nonneg column
  startColumn_le := Int.ofNat_le.2 hcolumn
  endColumn_nonneg := Int.natCast_nonneg column'
  endColumn_le := Int.ofNat_le.2 hcolumn'

/-- Whatever the offset, a column is one of the line or that of its end. -/
theorem Node.columnAt_le {lines : List (List Char)} {line : Nat} (hpos : 1 ≤ line)
    (hle : line ≤ lines.length) (offset : Nat) :
    columnAt lines line offset ≤ (lineAt lines line).length := by
  obtain ⟨n, rfl⟩ := Nat.exists_eq_add_of_le' hpos
  have hline : lines[n]? = some lines[n] := List.getElem?_eq_getElem hle
  rw [columnAt, lineAt, Nat.add_sub_cancel, hline]
  exact charColumn_le _ offset

theorem Node.inLines_spanOfExtent {lines : List (List Char)} {e : Extent} (hpos : 1 ≤ e.line)
    (hle : e.line ≤ e.endLine) (hend : e.endLine ≤ lines.length) :
    (spanOfExtent lines e).InLines lines :=
  Span.inLines_mk hpos hle hend (columnAt_le hpos (hle.trans hend) e.offset)
    (columnAt_le (hpos.trans hle) hend e.endOffset)

/-- The string constants of a tree are on lines of a text with so many of them, and do not end
before they start. -/
def Source.Ast.PlacesTexts (a : Ast) (count : Nat) : Prop :=
  ∀ way b s, a.Reaches way b → b.form = .constant → b.value = .text s →
    ∃ e, b.extent = some e ∧ 1 ≤ e.line ∧ e.line ≤ e.endLine ∧ e.endLine ≤ count

/-- The functions and classes of a tree have a position. -/
def Source.Ast.PlacesDefinitions (a : Ast) : Prop :=
  ∀ way b, a.Reaches way b → b.form.IsDefinition → ∃ e, b.extent = some e ∧ 1 ≤ e.line

theorem Node.kindOf_eq_stringLiteral {form : Form} {value : Value}
    (h : kindOf form value = .stringLiteral) : form = .constant ∧ ∃ s, value = .text s := by
  unfold kindOf at h
  split at h
  any_goals cases h
  split at h
  next s => exact ⟨rfl, s, rfl⟩
  next => cases h

theorem Node.inLines_of_stringLiteral {lines : List (List Char)} {a : Ast} {m : Node}
    (htexts : a.PlacesTexts lines.length) (hm : m ∈ (ofAst lines a).walk)
    (hkind : m.kind = .stringLiteral) : m.span.InLines lines := by
  obtain ⟨way, ⟨form, value, extent, fields⟩, hreaches, rfl⟩ := exists_reaches_of_mem_walk hm
  obtain ⟨rfl, s, rfl⟩ := kindOf_eq_stringLiteral hkind
  obtain ⟨e, hextent, hpos, hle, hend⟩ := htexts way _ s hreaches rfl rfl
  obtain rfl : extent = some e := hextent
  exact inLines_spanOfExtent hpos hle hend

theorem Node.isDefinition_of_isBlock {form : Form} {value : Value}
    (hblock : (kindOf form value).isBlock = true) (hmodule : kindOf form value ≠ .module) :
    form.IsDefinition := by
  cases form
  case module => exact absurd rfl hmodule
  case functionDef => exact .inl rfl
  case asyncFunctionDef => exact .inr (.inl rfl)
  case classDef => exact .inr (.inr rfl)
  case constant => cases value <;> exact absurd hblock Bool.false_ne_true
  all_goals exact absurd hblock Bool.false_ne_true

/-- A function or class in a tree of placed definitions has a position. -/
theorem Node.hasPosition_of_isBlock {lines : List (List Char)} {a : Ast} {m : Node}
    (hdefinitions : a.PlacesDefinitions) (hm : m ∈ (ofAst lines a).walk)
    (hblock : m.kind.isBlock = true) (hmodule : m.kind ≠ .module) :
    m.span.hasPosition = true := by
  obtain ⟨way, ⟨form, value, extent, fields⟩, hreaches, rfl⟩ := exists_reaches_of_mem_walk hm
  have hform := isDefinition_of_isBlock hblock hmodule
  obtain ⟨e, hextent, hpos⟩ := hdefinitions way _ hreaches hform
  obtain rfl : extent = some e := hextent
  have hspan : spanOf lines form (some e) = spanOfExtent lines e := by
    obtain rfl | rfl | rfl := hform <;> rfl
  have hstart : (spanOf lines form (some e)).startLine = e.line := by rw [hspan]; rfl
  change decide (0 < (spanOf lines form (some e)).startLine) = true
  rw [hstart]
  exact decide_eq_true (by omega)

/-- A place that is reached by reading part of a text is on a line of it, and not beyond the end
of that line. -/
theorem Source.Place.start_advanceOver_inside (read rest : List Char) :
    let p := Place.start.advanceOver read
    1 ≤ p.line ∧ p.line ≤ (newlineLines (read ++ rest)).length ∧
      p.column ≤ (lineAt (newlineLines (read ++ rest)) p.line).length := by
  obtain ⟨above, left, hread⟩ : ∃ above left, newlineLines read = above ++ [left] :=
    ⟨_, _, (List.dropLast_concat_getLast (cutAt_ne_nil '\n' read)).symm⟩
  obtain ⟨right, below, hrest⟩ := List.exists_cons_of_ne_nil (cutAt_ne_nil '\n' rest)
  have hlines : newlineLines (read ++ rest) = above ++ (left ++ right) :: below :=
    cutAt_append hread hrest
  obtain ⟨hline, hcolumn⟩ := start_advanceOver hread
  have hat : lineAt (newlineLines (read ++ rest)) (above.length + 1) = left ++ right := by
    rw [lineAt, hlines]
    simp
  intro p
  rw [hline, hcolumn, hat, hlines]
  refine ⟨by omega, ?_, ?_⟩
  · rw [List.length_append, List.length_cons]
    omega
  · rw [List.length_append]
    omega

theorem Token.StandsIn.inLines {cs : List Char} {t : Token} (h : t.StandsIn cs) :
    t.span.InLines (newlineLines cs) := by
  obtain ⟨before, after, rfl, hspan⟩ := h
  have hfirst := Place.start_advanceOver_inside before (t.string.toList ++ after)
  have hlast := Place.start_advanceOver_inside (before ++ t.string.toList) after
  rw [← List.append_assoc] at hfirst
  rw [Place.advanceOver_append] at hlast
  obtain ⟨hpos, -, hcolumn⟩ := hfirst
  obtain ⟨-, hend, hcolumn'⟩ := hlast
  have hle : (Place.start.advanceOver before).line ≤
      ((Place.start.advanceOver before).advanceOver t.string.toList).line := by
    rw [Place.line_advanceOver (Place.start.advanceOver before)]
    exact Nat.le_add_right _ _
  rw [hspan]
  exact Span.inLines_mk hpos hle hend hcolumn hcolumn'

/-- The tokens of a block that has a position lie in its span, unless it is a module. -/
theorem Document.contains_of_mem_tokensIn {d : Document} {block : Node} {t : Token}
    (ht : t ∈ d.tokensIn block) (hmodule : block.kind ≠ .module)
    (hposition : block.span.hasPosition = true) : block.span.contains t.span = true := by
  have hfilter : d.tokensIn block = d.tokens.filter fun t => block.span.contains t.span := by
    rw [tokensIn, Token.inside, if_neg (by simp [hmodule, hposition])]
  rw [hfilter] at ht
  exact (List.mem_filter.1 ht).2

/-- The constants, the definitions and the tokens of a source that is read are placed. -/
theorem Engine.placed_of_read {language path source : String}
    {limits : Document.Limits} {d : Document}
    (hread : read language path source limits = .ok (some d)) :
    ∃ a : Ast, d.root = Node.ofAst d.lines a ∧ a.PlacesTexts d.lines.length ∧
      a.PlacesDefinitions ∧ ∀ t ∈ d.tokens, t.span.InLines d.lines := by
  obtain ⟨a, hroot, -, hwithin⟩ := exists_tree_of_read hread
  let window : Window := .linesOf (Document.normalize source)
  refine ⟨a, hroot, ?_, ?_, ?_⟩
  · intro way b s hreaches hform hvalue
    rw [lines_of_read hread]
    exact (hwithin.of_reaches hreaches).admits.text s hform hvalue
  · intro way b hreaches hform
    exact (hwithin.of_reaches hreaches).admits.definition hform
  · intro t ht
    rw [lines_of_read hread]
    exact ((laidOut_of_read hread).standsIn (List.mem_reverse.2 ht)).inLines

/-- The text of a candidate lies in its document: the expression is a literal of the tree, or it
was traced to a token of a block. -/
theorem Resolution.inLines_of_found {language path : String} {d : Document} {a : Ast}
    {markers : Markers} {site : Visit} {candidate : Candidate} {text : ResolvedText}
    (hroot : d.root = Node.ofAst d.lines a) (htexts : a.PlacesTexts d.lines.length)
    (htokens : ∀ t ∈ d.tokens, t.span.InLines d.lines) (hsite : site ∈ d.root.visits)
    (hcandidate : Candidate.detect? d.lines markers site = some candidate)
    (hfound : resolve d.lines candidate.expression.node
      ((Engine.contextOf language path d).tokensIn candidate.block) = .found text) :
    text.anchor.InLines d.lines := by
  obtain ⟨sql, hkind, -, -, rfl⟩ | ⟨-, -, -, stream, hstream, htrace⟩ :=
    resolve_eq_found_iff.1 hfound
  · have hmem := Candidate.expression_mem_walk hsite hcandidate
    rw [hroot] at hmem
    exact Node.inLines_of_stringLiteral htexts hmem hkind
  · obtain ⟨i, value, sql, -, hvalue, -, -, -, rfl⟩ := trace_eq_found_iff.1 htrace
    obtain ⟨block, -, rfl⟩ := Engine.exists_of_tokensIn hstream
    exact htokens value ((d.tokensIn_sublist block.node).mem (List.mem_of_getElem? hvalue))

end QueryLint
