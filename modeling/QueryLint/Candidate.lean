import QueryLint.Datum.Basic
import QueryLint.Text.Search
import QueryLint.Tree.Node

/-!
# Candidate sites

Two shapes of code carry the text of a command: the construction of a command
object, `SqlCommand("SELECT ...")`, and the assignment of a command's text,
`cmd.CommandText = "SELECT ..."`. No types are known, so both are recognised by
marks that occur in the source text of the callee or of the target.
-/

namespace QueryLint

/-- The marks of command types and of command-text properties. -/
structure Markers where
  constructors : List String
  properties : List String
deriving DecidableEq

namespace Markers

def default : Markers := ⟨["SqlCommand"], ["CommandText"]⟩

def isCommandType (m : Markers) (text : String) : Bool :=
  m.constructors.any fun mark => Text.occursIn mark text

def isCommandText (m : Markers) (text : String) : Bool :=
  m.properties.any fun mark => Text.occursIn mark text

end Markers

/-- Marks as the settings list them. Looking for marks goes through the list and fails
at the first thing that is no text, which is the first of `odd`. -/
structure MarkList where
  texts : List String
  odd : List Datum := []

namespace MarkList

def ofItems : List Datum → MarkList
  | .text s :: rest =>
      let tail := ofItems rest
      ⟨s :: tail.texts, tail.odd⟩
  | items => ⟨[], items⟩

def toDatum (m : MarkList) : Datum := .list (m.texts.map .text ++ m.odd)

/-- Whether looking for the marks in a text fails. -/
def fails (m : MarkList) (text : String) : Bool :=
  !m.odd.isEmpty && !m.texts.any fun mark => Text.occursIn mark text

end MarkList

structure MarkerSettings where
  constructors : MarkList
  properties : MarkList

namespace MarkerSettings

/-- The marks that are looked for. -/
def markers (s : MarkerSettings) : Markers := ⟨s.constructors.texts, s.properties.texts⟩

/-- Whether the settings list nothing but the given marks. -/
def isJust (s : MarkerSettings) (m : Markers) : Bool :=
  s.markers == m && s.constructors.odd.isEmpty && s.properties.odd.isEmpty

end MarkerSettings

inductive Shape where
  | construction
  | assignment
deriving DecidableEq

def Shape.label : Shape → String
  | construction => "construction"
  | assignment => "assignment"

/-- An expression that carries a command's text, and the block to trace it in. -/
structure Candidate where
  shape : Shape
  site : Visit
  expression : Visit
  block : Option Visit

namespace Candidate

/-- The first argument that can be read: the first positional one, else the value
of the first named one. Unpacked mappings have no name and do not count. -/
def firstArgument? (call : Visit) : Option Visit :=
  match call.field "args" with
  | a :: _ => some a
  | [] =>
      match (call.field "keywords").find? (·.node.value != .absent) with
      | some k => (k.field "value").head?
      | none => none

def construction? (lines : List (List Char)) (markers : Markers) (call : Visit) :
    Option Candidate := do
  let callee ← (call.field "func").head?
  guard (callee.node.kind == .identifier || callee.node.kind == .attribute)
  guard (markers.isCommandType (callee.node.text lines))
  let expression ← firstArgument? call
  return ⟨.construction, call, expression, call.enclosingBlock?⟩

/-- The targets of an assignment. -/
def targets (site : Visit) : List Visit :=
  match site.node.kind with
  | .annotatedAssignment => (site.field "target").take 1
  | _ => site.field "targets"

def assignment? (lines : List (List Char)) (markers : Markers) (site : Visit) :
    Option Candidate := do
  guard ((targets site).any fun t =>
    t.node.kind == .attribute && markers.isCommandText (t.node.text lines))
  let expression ← (site.field "value").head?
  return ⟨.assignment, site, expression, site.enclosingBlock?⟩

/-- The kinds of nodes that can be candidate sites. -/
def siteKinds : List NodeKind := [.call, .assignment, .annotatedAssignment]

/-- The candidate at a node, if the node is one. -/
def detect? (lines : List (List Char)) (markers : Markers) (site : Visit) : Option Candidate :=
  match site.node.kind with
  | .call => construction? lines markers site
  | .assignment | .annotatedAssignment => assignment? lines markers site
  | _ => none

/-- Whether looking for marks at a node fails. -/
def isUndecided (lines : List (List Char)) (s : MarkerSettings) (site : Visit) : Bool :=
  match site.node.kind with
  | .call =>
      (site.field "func").head?.any fun callee =>
        (callee.node.kind == .identifier || callee.node.kind == .attribute) &&
          s.constructors.fails (callee.node.text lines)
  | .assignment | .annotatedAssignment =>
      ((targets site).find? (·.node.kind == .attribute)).any fun t =>
        s.properties.fails (t.node.text lines)
  | _ => false

end Candidate

end QueryLint
