import QueryLint.Source.Ast
import QueryLint.Tree.Span

/-!
# The normalised tree

A tree of nodes of a few kinds, each with a span in characters. The children of a
node are listed in order; its slots say how the list divides into named fields.
-/

namespace QueryLint

open Source (Value)

/-- The kinds of nodes that the analysis tells apart. -/
inductive NodeKind where
  | module
  | function
  | classDefinition
  | call
  | assignment
  | augmentedAssignment
  | annotatedAssignment
  | attribute
  | identifier
  | stringLiteral
  | literal
  | keyword
  | starred
  | other
deriving DecidableEq, Inhabited

namespace NodeKind

def label : NodeKind → String
  | .module => "module"
  | .function => "function_definition"
  | .classDefinition => "class_definition"
  | .call => "call"
  | .assignment => "assignment"
  | .augmentedAssignment => "augmented_assignment"
  | .annotatedAssignment => "annotated_assignment"
  | .attribute => "attribute"
  | .identifier => "identifier"
  | .stringLiteral => "string_literal"
  | .literal => "literal"
  | .keyword => "keyword"
  | .starred => "starred"
  | .other => "other"

def all : List NodeKind :=
  [.module, .function, .classDefinition, .call, .assignment, .augmentedAssignment,
    .annotatedAssignment, .attribute, .identifier, .stringLiteral, .literal, .keyword, .starred,
    .other]

def ofLabel? (s : String) : Option NodeKind := all.find? fun k => k.label == s

/-- Kinds that open a block in which names are looked up. -/
def isBlock : NodeKind → Bool
  | .module | .function | .classDefinition => true
  | _ => false

end NodeKind

/-- How many children a field holds: exactly one, or a list of them. -/
inductive Slot where
  | one
  | many (count : Nat)
deriving DecidableEq

def Slot.width : Slot → Nat
  | one => 1
  | many n => n

/-- What a node is, its children apart. -/
structure Head where
  kind : NodeKind
  value : Value
  span : Span
  /-- The name of the construct the node stands for. -/
  label : String
  /-- The fields in order, with the number of children each holds. -/
  slots : List (String × Slot)

inductive Node where
  | mk (head : Head) (children : List Node)

namespace Node

def head : Node → Head
  | mk h _ => h

def children : Node → List Node
  | mk _ cs => cs

def kind (n : Node) : NodeKind := n.head.kind

def value (n : Node) : Value := n.head.value

def span (n : Node) : Span := n.head.span

def text (lines : List (List Char)) (n : Node) : String := String.ofList (n.span.excerpt lines)

/-- A one-line description of a node. -/
def describe (n : Node) : String :=
  "ASTNode(kind=" ++ Text.quoted n.kind.label ++ ", value=" ++ n.value.display ++ ", line=" ++
    toString n.span.startLine ++ ")"

mutual

/-- The node and all its descendants, a node before its children and the children
in order. -/
def walk : Node → List Node
  | mk h cs => mk h cs :: walkList cs

def walkList : List Node → List Node
  | [] => []
  | c :: rest => walk c ++ walkList rest

end

def findAll (kind : NodeKind) (n : Node) : List Node := n.walk.filter (·.kind == kind)

end Node

/-- The stretch of `items` that belongs to a field, given the slots of all. -/
def fieldOf {α : Type} (name : String) : List (String × Slot) → List α → List α
  | [], _ => []
  | (n, slot) :: rest, items =>
      if n == name then items.take slot.width else fieldOf name rest (items.drop slot.width)

/-- A node at its place in a tree. -/
structure Visit where
  node : Node
  /-- Positions among the siblings, from the node up to the root. -/
  path : List Nat
  /-- The ancestors, from the parent up to the root. -/
  above : List Node

namespace Visit

/-- A tree at its root. -/
def root (n : Node) : Visit := ⟨n, [], []⟩

def childAt (v : Visit) (child : Node) (i : Nat) : Visit := ⟨child, i :: v.path, v.node :: v.above⟩

def childrenFrom (v : Visit) : Nat → List Node → List Visit
  | _, [] => []
  | i, c :: rest => v.childAt c i :: childrenFrom v (i + 1) rest

def children (v : Visit) : List Visit := v.childrenFrom 0 v.node.children

/-- The nodes that a field holds; empty if there is no such field. -/
def field (v : Visit) (name : String) : List Visit := fieldOf name v.node.head.slots v.children

def parent? (v : Visit) : Option Visit :=
  match v.above, v.path with
  | p :: above, _ :: path => some ⟨p, path, above⟩
  | _, _ => none

/-- The places of the ancestors, nearest first. -/
def ancestorsFrom : List Nat → List Node → List Visit
  | _ :: path, p :: above => ⟨p, path, above⟩ :: ancestorsFrom path above
  | _, _ => []

def ancestors (v : Visit) : List Visit := ancestorsFrom v.path v.above

/-- The nearest ancestor that opens a block. -/
def enclosingBlock? (v : Visit) : Option Visit := v.ancestors.find? (·.node.kind.isBlock)

mutual

/-- All places at and below a node, in the order of `Node.walk`. -/
def walkNode : Node → List Nat → List Node → List Visit
  | .mk h cs, path, above => ⟨.mk h cs, path, above⟩ :: walkNodes cs 0 path (.mk h cs :: above)

def walkNodes : List Node → Nat → List Nat → List Node → List Visit
  | [], _, _, _ => []
  | c :: rest, i, path, above => walkNode c (i :: path) above ++ walkNodes rest (i + 1) path above

end

def walk (v : Visit) : List Visit := walkNode v.node v.path v.above

end Visit

/-- All places in a tree. -/
def Node.visits (n : Node) : List Visit := (Visit.root n).walk

end QueryLint
