import QueryLint.Datum.Shape
import QueryLint.Grammar.Description
import QueryLint.Log

/-!
# Asking a grammar about a text

The grammar itself is not part of this library: it is a function from texts to
outcomes. A validator turns an outcome into messages for the reader, one for each
error, and lets through only the failures that are not about the text.
-/

namespace QueryLint

/-- One error as a grammar reports it. Every part may be missing. -/
structure GrammarError where
  description : Option String
  highlight : Option String
  line : Option Datum
  column : Option Datum

/-- What a grammar makes of a text. -/
inductive GrammarOutcome where
  | accepted
  /-- The text is not in the language: the errors, and a text about all of them. -/
  | rejected (errors : List GrammarError) (text : String)
  /-- The text could not be read at all. -/
  | unreadable (text : String)
  | crashed (message : String)
  | interrupted

abbrev Grammar := String → GrammarOutcome

/-- What a validator says about a text. -/
inductive Verdict where
  | messages (errors : List String)
  | crashed (message : String)
  | interrupted
deriving DecidableEq

structure Validator where
  validate : String → Verdict
  /-- What is logged when a text is validated. -/
  log : String → List LogEntry

namespace GrammarError

/-- A text that may be missing or empty; nothing if it is another value. -/
def text? (d : Datum) : Option (Option String) :=
  match d with
  | .text s => some (some s)
  | d => if d.isFilled then none else some none

def given? : Datum → Option Datum
  | .null => none
  | d => some d

/-- The error that a mapping describes. -/
def ofDatum (d : Datum) : Except Failure GrammarError := do
  let description ← d.member "description"
  let highlight ← d.member "highlight"
  let line ← d.member "line"
  let column ← d.member "col"
  match text? description, text? highlight with
  | some description, some highlight => return ⟨description, highlight, given? line, given? column⟩
  | none, _ => throw (.notText description.typeName)
  | _, none => throw (.noMember highlight.typeName "strip")

/-- The message for one error: what is wrong, near what, and where. -/
def message (e : GrammarError) : String :=
  let cleaned := Description.cleanChars (e.description.getD "").toList
  let words := (cleaned.reverse.dropWhile (· == '.')).reverse
  let description := if words.isEmpty then "Syntax error" else String.ofList words
  let highlight := Text.strip (e.highlight.getD "")
  let nearby := if highlight.isEmpty then "" else " near '" ++ highlight ++ "'"
  let place := match e.line, e.column with
    | some l, some c => " (line " ++ l.plain ++ ", col " ++ c.plain ++ ")"
    | _, _ => ""
  description ++ nearby ++ place ++ "."

end GrammarError

namespace Validator

def verdict : GrammarOutcome → Verdict
  | .accepted => .messages []
  | .rejected errors text =>
      if errors.isEmpty then .messages [Description.clean text]
      else .messages (errors.map GrammarError.message)
  | .unreadable text => .messages [Description.clean text]
  | .crashed message => .crashed message
  | .interrupted => .interrupted

/-- The note about a text that is not accepted. -/
def note? (dialect sql : String) : GrammarOutcome → Option LogEntry
  | .rejected _ text | .unreadable text =>
      some ⟨.debug, .grammar,
        "sqlglot (" ++ dialect ++ ") rejected " ++ Text.quoted sql ++ ": " ++ text⟩
  | _ => none

/-- The validator for a dialect, given its grammar. -/
def ofGrammar (dialect : String) (grammar : Grammar) : Validator where
  validate sql := verdict (grammar sql)
  log sql := (note? dialect sql (grammar sql)).toList

/-- A validator as messages name it. -/
def display (dialect : Datum) : String := "SqlglotValidator(dialect=" ++ dialect.display ++ ")"

end Validator

end QueryLint
