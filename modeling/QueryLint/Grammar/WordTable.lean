import QueryLint.Grammar.Validator

/-!
# Grammars given by tables of words

The simplest grammars: a text is looked at word by word, and a table says which
words are errors and which stop the reading.
-/

namespace QueryLint

/-- What a word leads to. -/
inductive WordAction where
  | error (e : GrammarError)
  | reject (text : String)
  | unreadable (text : String)
  | crash (message : String)
  | interrupt

abbrev WordTable := List (String × WordAction)

namespace WordTable

/-- Words that are misspelt keywords. -/
def misspellings : WordTable :=
  ["SELEKT", "FROMM", "WHER"].map fun w => (w, .error ⟨some "Incorrect syntax", some w, none, none⟩)

def outcomeFrom (table : WordTable) : List GrammarError → List String → GrammarOutcome
  | errors, [] =>
      if errors.isEmpty then .accepted
      else .rejected errors (toString errors.length ++ " error(s)")
  | errors, w :: rest =>
      match table.lookup w with
      | none => outcomeFrom table errors rest
      | some (.error e) => outcomeFrom table (errors ++ [e]) rest
      | some (.reject text) => .rejected [] text
      | some (.unreadable text) => .unreadable text
      | some (.crash message) => .crashed message
      | some .interrupt => .interrupted

def grammar (table : WordTable) : Grammar := fun sql => outcomeFrom table [] (Text.words sql)

def verdictFrom (table : WordTable) : List String → List String → Verdict
  | errors, [] => .messages errors
  | errors, w :: rest =>
      match table.lookup w with
      | none => verdictFrom table errors rest
      | some (.error _) => verdictFrom table (errors ++ ["Bad word " ++ w]) rest
      | some (.reject text) | some (.unreadable text) | some (.crash text) => .crashed text
      | some .interrupt => .interrupted

/-- A validator that names the bad words and knows no grammar. -/
def validator (table : WordTable) : Validator where
  validate sql := verdictFrom table [] (Text.words sql)
  log _ := []

end WordTable

end QueryLint
