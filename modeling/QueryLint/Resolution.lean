import QueryLint.Candidate
import QueryLint.Log
import QueryLint.Source.Read
import QueryLint.Text.Blank
import QueryLint.Text.Quoted

/-!
# The text behind an expression

A string literal stands for itself. Any other expression is traced by its source
text: the first name token of that text in the block is taken for the place where
it is assigned, and the token two places further on for the assigned literal. This
is a heuristic; it knows nothing of reassignment or shadowing.
-/

namespace QueryLint

/-- How a text was found. -/
inductive Origin where
  | literal
  | traced
deriving DecidableEq

def Origin.label : Origin → String
  | literal => "literal"
  | traced => "traced"

/-- A command's text, with the span that reports about it refer to. -/
structure ResolvedText where
  sql : String
  anchor : Span
  origin : Origin
  identifier : Option String
deriving DecidableEq

/-- Why an expression has no text. -/
inductive Decline where
  /-- The literal, or the expression's source, is blank. -/
  | blank
  /-- The expression is a call. -/
  | callResult (source : String) (line : Int)
  /-- There are no tokens to trace in. -/
  | noTokens
  /-- No token is the traced name. -/
  | unseen (name : String)
  /-- The first such token is not followed by an assigned string. -/
  | unassigned (name : String)
  /-- The assigned literal is not a text, or is blank. -/
  | notText
deriving DecidableEq

namespace Decline

/-- What is logged, if anything. -/
def note? : Decline → Option String
  | callResult source line =>
      some ("Not resolving call result " ++ Text.quoted source ++ " at line " ++ toString line)
  | unseen name => some ("No token for " ++ Text.quoted name ++ " in enclosing block")
  | unassigned name =>
      some ("First occurrence of " ++ Text.quoted name ++ " is not followed by a string assignment")
  | _ => none

end Decline

/-- Why asking for a text fails. -/
inductive Breakdown where
  /-- The assigned literal has no value at all. -/
  | noValue
  /-- A node that stands for a text holds something else. -/
  | notText
deriving DecidableEq

/-- The outcome of asking for the text of an expression. -/
inductive Resolution where
  | found (text : ResolvedText)
  | declined (why : Decline)
  | failed (why : Breakdown)
deriving DecidableEq

namespace Resolution

/-- The distance from a name to its assigned value, across the equals sign. -/
def valueDistance : Nat := 2

/-- Traces a name through the tokens of a block. -/
def trace (name : String) (tokens : List Token) : Resolution :=
  match Token.findFrom? (fun t => t.type == .name && t.string == name) 0 tokens with
  | none => .declined (.unseen name)
  | some i =>
      match tokens[i + valueDistance]? with
      | none => .declined (.unassigned name)
      | some value =>
          if value.type ≠ .string then .declined (.unassigned name)
          else
            match Source.textLiteral value.string with
            | .error _ => .failed .noValue
            | .ok none => .declined .notText
            | .ok (some sql) =>
                if Text.isBlankText sql then .declined .notText
                else .found ⟨sql, value.span, .traced, some name⟩

/-- The text of an expression, given the tokens of its block if there are any. -/
def resolve (lines : List (List Char)) (expression : Node) (tokens : Option (List Token)) :
    Resolution :=
  match expression.kind, expression.value with
  | .stringLiteral, .text sql =>
      if Text.isBlankText sql then .declined .blank
      else .found ⟨sql, expression.span, .literal, none⟩
  | .stringLiteral, .absent => .declined .blank
  | .stringLiteral, _ => .failed .notText
  | kind, _ =>
      let name := expression.text lines
      if Text.isBlankText name then .declined .blank
      else if kind = .call then .declined (.callResult name expression.span.startLine)
      else
        match tokens with
        | none => .declined .noTokens
        | some tokens => trace name tokens

def log : Resolution → List LogEntry
  | declined why => (why.note?.map fun m => ⟨.debug, .resolution, m⟩).toList
  | _ => []

end Resolution

end QueryLint
