import QueryLint.Text.Blank
import QueryLint.Text.Identifier

/-!
# Suppression comments

A comment `# noqa` or `# embedsql: ignore`, in any case, covers its own line and
the next one.
-/

namespace QueryLint.Suppression

open Text (isBlank isWordChar)

/-- Letters that count as the same letter in another case. The dotted and dotless
forms of i, and the long s, belong to i and s. -/
def sameLetter (p c : Char) : Bool :=
  c == p || c == p.toUpper || (p == 'i' && (c == 'İ' || c == 'ı')) || (p == 's' && c == 'ſ')

/-- What follows a word in any case, if the text starts with the word. -/
def afterWord? : List Char → List Char → Option (List Char)
  | [], cs => some cs
  | _ :: _, [] => none
  | p :: ps, c :: cs => if sameLetter p c then afterWord? ps cs else none

/-- A word ends here: no further word character follows. -/
def endsWord : List Char → Bool
  | [] => true
  | c :: _ => !isWordChar c

def isShortForm (cs : List Char) : Bool :=
  match afterWord? "noqa".toList cs with
  | some rest => endsWord rest
  | none => false

def isLongForm (cs : List Char) : Bool :=
  match afterWord? "embedsql:".toList cs with
  | some rest =>
      match afterWord? "ignore".toList (rest.dropWhile isBlank) with
      | some rest => endsWord rest
      | none => false
  | none => false

/-- Whether a line holds a suppression comment. -/
def marks : List Char → Bool
  | [] => false
  | c :: cs =>
      (c == '#' && (isShortForm (cs.dropWhile isBlank) || isLongForm (cs.dropWhile isBlank))) ||
        marks cs

/-- Whether line `n` of a text is there and holds a suppression comment. -/
def marksLine (lines : List String) (n : Int) : Bool :=
  0 < n && ((lines[(n - 1).toNat]?).map fun l => marks l.toList).getD false

/-- Whether a line is covered: by its own comment or by that of the line before. -/
def covers (lines : List String) (n : Int) : Bool := marksLine lines n || marksLine lines (n - 1)

/-- All covered lines, in ascending order. The line after the last one can be
among them. -/
def coveredLines (lines : List String) : List Nat :=
  ((List.range (lines.length + 2)).filter fun n => covers lines n)

end QueryLint.Suppression
