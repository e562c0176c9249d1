import QueryLint.Document
import QueryLint.Finding.Basic
import QueryLint.Suppression

/-!
# The context of an analysis

What rules see of one file: its text by lines, its tree and tokens if it has them,
and the lines that suppression comments cover.
-/

namespace QueryLint

structure Context where
  path : String
  content : String
  /-- The language under the name by which it was asked for. -/
  language : String
  document : Option Document

namespace Context

/-- The lines of the text as a reader sees them. -/
def lines (c : Context) : List String := Text.viewLines c.content

def isSuppressed (c : Context) (line : Int) : Bool := Suppression.covers c.lines line

/-- The lines from `line - size` to `line + size` that precede and follow a line. -/
def snippetOf (lines : List String) (line size : Int) : Snippet where
  code := if 0 < line ∧ line ≤ lines.length then (lines[(line - 1).toNat]?).getD "" else ""
  line := line
  before := Text.slice lines (max 0 (line - size - 1)) (line - 1)
  after := Text.slice lines line (min lines.length (line + size))

/-- The number of lines shown before and after a reported line. -/
def snippetSize : Int := 3

def snippet (c : Context) (line size : Int) : Snippet := snippetOf c.lines line size

def locate (c : Context) (span : Span) : Location := ⟨c.path, span⟩

/-- The tokens of a block, if there is a tree and a block. -/
def tokensIn (c : Context) (block : Option Visit) : Option (List Token) :=
  match c.document, block with
  | some d, some b => some (d.tokensIn b.node)
  | _, _ => none

/-- All places of the tree whose nodes are of the given kinds; no kinds, no limit. -/
def traverse (c : Context) (kinds : Option (List NodeKind)) : List Visit :=
  match c.document with
  | none => []
  | some d =>
      match kinds with
      | none => d.root.visits
      | some ks => d.root.visits.filter fun v => ks.contains v.node.kind

end Context

end QueryLint
