import QueryLint.Json.Basic
import QueryLint.Text.CodePoint
import QueryLint.Tree.Span

/-!
# Findings

A finding is one report about one place in a source: which rule reports it, what it
says, how grave and how certain it is, and where it stands.
-/

namespace QueryLint

inductive Severity where
  | error
  | warning
  | info
deriving DecidableEq, Inhabited

namespace Severity

def label : Severity → String
  | error => "error"
  | warning => "warning"
  | info => "info"

def all : List Severity := [error, warning, info]

def ofLabel? (s : String) : Option Severity := all.find? (·.label == s)

/-- Graver severities rank higher. -/
def rank : Severity → Nat
  | info => 0
  | warning => 1
  | error => 2

instance : LE Severity := ⟨fun a b => a.rank ≤ b.rank⟩
instance : LT Severity := ⟨fun a b => a.rank < b.rank⟩
instance (a b : Severity) : Decidable (a ≤ b) := inferInstanceAs (Decidable (a.rank ≤ b.rank))
instance (a b : Severity) : Decidable (a < b) := inferInstanceAs (Decidable (a.rank < b.rank))

end Severity

inductive Confidence where
  | high
  | medium
  | low
deriving DecidableEq, Inhabited

namespace Confidence

def label : Confidence → String
  | high => "high"
  | medium => "medium"
  | low => "low"

def all : List Confidence := [high, medium, low]

def ofLabel? (s : String) : Option Confidence := all.find? (·.label == s)

end Confidence

inductive Category where
  | sqlSyntax
deriving DecidableEq, Inhabited

namespace Category

def label : Category → String
  | sqlSyntax => "sql_syntax"

def all : List Category := [sqlSyntax]

def ofLabel? (s : String) : Option Category := all.find? (·.label == s)

end Category

/-- A span in a file. -/
structure Location where
  path : String
  span : Span
deriving DecidableEq, Inhabited

namespace Location

/-- A location in the form `path:line:column`, columns counted from one. -/
def display (l : Location) : String :=
  l.path ++ ":" ++ toString l.span.startLine ++ ":" ++ toString (l.span.startColumn + 1)

end Location

/-- A line of code with the lines around it. -/
structure Snippet where
  code : String
  line : Int
  before : List String
  after : List String
deriving DecidableEq, Inhabited

structure Finding where
  ruleId : String
  title : String
  /-- The message of the report. -/
  description : String
  severity : Severity
  confidence : Confidence
  category : Category
  location : Location
  snippet : Option Snippet
  language : String
  tags : List String
  /-- Further data about the finding, by key. -/
  metadata : List (String × Json)
  suppressed : Bool
  suppressionReason : Option String
deriving Inhabited

namespace Finding

/-- Whether `a` comes no later than `b`: by path, line, column and rule. -/
def comesBefore (a b : Finding) : Bool :=
  if a.location.path ≠ b.location.path then
    Text.comesBefore a.location.path b.location.path
  else if a.location.span.startLine ≠ b.location.span.startLine then
    a.location.span.startLine < b.location.span.startLine
  else if a.location.span.startColumn ≠ b.location.span.startColumn then
    a.location.span.startColumn < b.location.span.startColumn
  else Text.comesNoLater a.ruleId b.ruleId

/-- Findings in order; those that compare equal keep their order. -/
def sort (findings : List Finding) : List Finding := findings.mergeSort comesBefore

/-- The findings that a report shows. -/
def visible (includeSuppressed : Bool) (findings : List Finding) : List Finding :=
  findings.filter fun f => includeSuppressed || !f.suppressed

end Finding

end QueryLint
