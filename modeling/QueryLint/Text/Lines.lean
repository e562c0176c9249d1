/-!
# Lines

Two ways to cut a text into lines live side by side: at newline characters only
(the numbering of syntax), and at every kind of line break (the numbering of
text views). `unifyNewlines` maps the three newline styles to one.
-/

namespace QueryLint.Text

/-- The pieces between the occurrences of `sep`; always at least one. -/
def cutAt (sep : Char) : List Char → List (List Char)
  | [] => [[]]
  | c :: rest =>
      match cutAt sep rest with
      | [] => [[c]]
      | piece :: pieces => if c = sep then [] :: piece :: pieces else (c :: piece) :: pieces

/-- Lines in the numbering of syntax: cut at newline characters only. -/
def newlineLines (cs : List Char) : List (List Char) := cutAt '\n' cs

/-- Characters that end a line in a text view. -/
def isLineBreak (c : Char) : Bool :=
  let n := c.toNat
  (10 ≤ n && n ≤ 13) || (28 ≤ n && n ≤ 30) || n == 0x85 || n == 0x2028 || n == 0x2029

/-- Lines of a text view, the last line still open. A carriage return followed by
a newline is one break. -/
def viewLinesFrom : List Char → List Char → List (List Char)
  | line, [] => if line.isEmpty then [] else [line.reverse]
  | line, '\r' :: '\n' :: rest => line.reverse :: viewLinesFrom [] rest
  | line, c :: rest =>
      if isLineBreak c then line.reverse :: viewLinesFrom [] rest
      else viewLinesFrom (c :: line) rest

/-- Lines of a text view: a break ends a line, and nothing follows the last break. -/
def viewLines (s : String) : List String := (viewLinesFrom [] s.toList).map String.ofList

/-- Every newline style becomes a single newline character. -/
def unifyNewlines : List Char → List Char
  | [] => []
  | '\r' :: '\n' :: rest => '\n' :: unifyNewlines rest
  | '\r' :: rest => '\n' :: unifyNewlines rest
  | c :: rest => c :: unifyNewlines rest

/-- Without one leading byte-order mark. -/
def dropMark : List Char → List Char
  | '﻿' :: rest => rest
  | cs => cs

/-- Texts with `sep` between any two. -/
def joinWith (sep : String) (parts : List String) : String :=
  String.ofList (List.intercalate sep.toList (parts.map String.toList))

end QueryLint.Text
