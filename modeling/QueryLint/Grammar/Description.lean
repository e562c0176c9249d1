import QueryLint.Text.Blank
import QueryLint.Text.Identifier
import QueryLint.Text.Search

/-!
# Descriptions of grammar errors

A grammar describes its errors in words of its own, with the names of its classes
and tokens in angle brackets. Cleaning a description puts the bare name for a
class, the text in quotes for a token, and nothing for any other group in brackets.
-/

namespace QueryLint.Description

open Text (isBlank isWordChar afterPrefix?)

/-! ### Replacing groups -/

/-- Replaces every group that `group?` recognises at the start of a text, from the
left. The fuel is the length of the text. -/
def replaceFrom (group? : List Char → Option (List Char × List Char)) :
    Nat → List Char → List Char
  | _, [] => []
  | 0, cs => cs
  | fuel + 1, c :: cs =>
      match group? (c :: cs) with
      | some (replacement, rest) => replacement ++ replaceFrom group? fuel rest
      | none => c :: replaceFrom group? fuel cs

def replace (group? : List Char → Option (List Char × List Char)) (cs : List Char) : List Char :=
  replaceFrom group? (cs.length + 1) cs

/-! ### Classes -/

/-- The last of several words joined by dots. -/
def lastWord? : List Char → List Char → Option (List Char)
  | word, [] => if word.isEmpty then none else some word.reverse
  | word, c :: cs =>
      if c = '.' then (if word.isEmpty then none else lastWord? [] cs) else lastWord? (c :: word) cs

/-- A class in brackets, `<class 'a.b.Name'>`: its bare name, and what follows. -/
def class? (cs : List Char) : Option (List Char × List Char) := do
  let rest ← afterPrefix? "<class '".toList cs
  let path := rest.takeWhile fun c => isWordChar c || c == '.'
  let name ← lastWord? [] path
  let rest ← afterPrefix? "'>".toList (rest.dropWhile fun c => isWordChar c || c == '.')
  some (name, rest)

/-! ### Tokens -/

/-- The part of a token that follows its text: up to the first closing bracket. -/
def tokenEnd? (cs : List Char) : Option (List Char) := do
  let rest ← afterPrefix? ", line: ".toList cs
  let rest := rest.dropWhile (· != '>')
  match rest with
  | _ :: after => some after
  | [] => none

/-- The text of a token, up to the nearest place where its end follows. -/
def tokenText? : List Char → Option (List Char × List Char)
  | [] => none
  | c :: cs =>
      match tokenEnd? (c :: cs) with
      | some rest => some ([], rest)
      | none =>
          if c = '\n' then none else (tokenText? cs).map fun (text, rest) => (c :: text, rest)

/-- A token in brackets: its text in quotes, or a phrase for the end of the input. -/
def token? (cs : List Char) : Option (List Char × List Char) := do
  let rest ← afterPrefix? "<Token token_type: TokenType.".toList cs
  let type := rest.takeWhile isWordChar
  if type.isEmpty then none
  else
    let rest ← afterPrefix? ", text: ".toList (rest.dropWhile isWordChar)
    let (text, rest) ← tokenText? rest
    if type = "SENTINEL".toList || text.isEmpty then some ("end of input".toList, rest)
    else some ('\'' :: text ++ ['\''], rest)

/-! ### Other groups -/

/-- Any other group in brackets, with the blanks before it. -/
def group? (cs : List Char) : Option (List Char × List Char) :=
  match cs.dropWhile isBlank with
  | '<' :: rest =>
      match rest.dropWhile fun c => c != '<' && c != '>' with
      | '>' :: after => some ([], after)
      | _ => none
  | _ => none

/-- A description in words that an author of SQL would recognise. -/
def cleanChars (cs : List Char) : List Char :=
  Text.trim (replace group? (replace token? (replace class? cs)))

def clean (s : String) : String := String.ofList (cleanChars s.toList)

end QueryLint.Description
