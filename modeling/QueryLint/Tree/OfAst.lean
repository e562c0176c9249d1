import QueryLint.Text.Utf8
import QueryLint.Tree.Node

/-!
# From abstract syntax to the normalised tree

Operators and everything else that is not a construct are dropped. Extents, which
count bytes, become spans, which count characters.
-/

namespace QueryLint.Node

open Source

/-- The kind of a construct of the given form and value. -/
def kindOf (form : Form) (value : Value) : NodeKind :=
  match form with
  | .module => .module
  | .functionDef | .asyncFunctionDef => .function
  | .classDef => .classDefinition
  | .call => .call
  | .assign => .assignment
  | .augAssign => .augmentedAssignment
  | .annAssign => .annotatedAssignment
  | .attribute => .attribute
  | .name => .identifier
  | .keyword => .keyword
  | .starred => .starred
  | .constant =>
      match value with
      | .text _ => .stringLiteral
      | _ => .literal
  | _ => .other

/-- The value of a node. Names, constants, definitions, attributes and named arguments carry one. -/
def valueOf (form : Form) (value : Value) : Value :=
  match form with
  | .name | .constant | .attribute | .keyword => value
  | .functionDef | .asyncFunctionDef | .classDef => value
  | _ => .absent

/-- The character column of a byte offset in a line; outside the text the offset
stays as it is. -/
def columnAt (lines : List (List Char)) (line offset : Nat) : Nat :=
  match line with
  | 0 => offset
  | n + 1 =>
      match lines[n]? with
      | some l => Text.charColumn l offset
      | none => offset

def spanOfExtent (lines : List (List Char)) (e : Extent) : Span :=
  ⟨e.line, columnAt lines e.line e.offset, e.endLine, columnAt lines e.endLine e.endOffset⟩

/-- The span of a construct. A module covers all lines. -/
def spanOf (lines : List (List Char)) (form : Form) (extent : Option Extent) : Span :=
  match form with
  | .module => ⟨1, 0, lines.length, (lines.getLast?.getD []).length⟩
  | _ =>
      match extent with
      | some e => spanOfExtent lines e
      | none => .zero

mutual

def ofAst (lines : List (List Char)) : Ast → Node
  | .node form value extent fields =>
      mk ⟨kindOf form value, valueOf form value, spanOf lines form extent, form.label,
        slotsOf fields⟩ (ofFields lines fields)

/-- The nodes of all fields, in order. -/
def ofFields (lines : List (List Char)) : Fields → List Node
  | .nil => []
  | .child _ a rest =>
      if a.form = .operator then ofFields lines rest else ofAst lines a :: ofFields lines rest
  | .items _ list rest => ofItems lines list ++ ofFields lines rest
  | .plain _ rest => ofFields lines rest

def ofItems (lines : List (List Char)) : Items → List Node
  | .nil => []
  | .tree a rest =>
      if a.form = .operator then ofItems lines rest else ofAst lines a :: ofItems lines rest
  | .other rest => ofItems lines rest

/-- The fields that hold nodes, with their numbers of nodes. -/
def slotsOf : Fields → List (String × Slot)
  | .nil => []
  | .child name a rest => if a.form = .operator then slotsOf rest else (name, .one) :: slotsOf rest
  | .items name list rest => (name, .many (itemCount list)) :: slotsOf rest
  | .plain _ rest => slotsOf rest

def itemCount : Items → Nat
  | .nil => 0
  | .tree a rest => if a.form = .operator then itemCount rest else itemCount rest + 1
  | .other rest => itemCount rest

end

end QueryLint.Node
