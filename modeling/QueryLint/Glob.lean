import QueryLint.Text.CodePoint

/-!
# Patterns for file names

In a pattern a star stands for any text, a question mark for any character and a
bracketed set for one of its characters, or, after an exclamation mark, for any
other. Slashes are ordinary characters. A bracket that is not closed stands for
itself.
-/

namespace QueryLint.Glob

/-- Characters from `first` to `last`. -/
structure Range where
  first : Char
  last : Char
deriving DecidableEq

/-- What a piece of a pattern stands for. -/
inductive Piece where
  | star
  | any
  | one (c : Char)
  | set (negated : Bool) (ranges : List Range)
deriving DecidableEq

/-- Ranges go by code points, so those of halves lie where the halves do. -/
def Range.contains (r : Range) (c : Char) : Bool :=
  Text.codePoint r.first ≤ Text.codePoint c && Text.codePoint c ≤ Text.codePoint r.last

/-! ### Sets -/

/-- Cuts the text of a set at its hyphens into the stretches between them. A hyphen
at the start of a stretch, or right after the end of a range, does not cut. -/
def stretches : Nat → List Char → List Char → List (List Char)
  | _, current, [] => [current.reverse]
  | skip, current, c :: rest =>
      if c = '-' ∧ skip = 0 then current.reverse :: stretches 2 [] rest
      else stretches (skip - 1) (c :: current) rest

/-- A hyphen at the very end belongs to the last stretch. -/
def closeStretches (parts : List (List Char)) : List (List Char) :=
  match parts.reverse with
  | [] :: last :: before => ((last ++ ['-']) :: before).reverse
  | _ => parts

/-- Joins stretches between which the range would be empty, from the right. -/
def dropEmptyRanges : List (List Char) → List (List Char)
  | [] => []
  | part :: rest =>
      match dropEmptyRanges rest with
      | (c :: cs) :: more =>
          match part.getLast? with
          | some d =>
              if Text.codePoint c < Text.codePoint d then (part.dropLast ++ cs) :: more
              else part :: (c :: cs) :: more
          | none => part :: (c :: cs) :: more
      | others => part :: others

/-- The ranges of a set given by its stretches: the last character of each and the
first of the next are the ends of a range. -/
def rangesOf : List (List Char) → List Range
  | [] => []
  | [part] => part.map fun c => ⟨c, c⟩
  | part :: next :: rest =>
      part.map (fun c => ⟨c, c⟩) ++
        (match part.getLast?, next.head? with
          | some a, some b => [⟨a, b⟩]
          | _, _ => []) ++
        rangesOf (next :: rest)

/-- The set that a text between brackets stands for. Whether it is negated shows only when the
empty ranges are gone. If these leave the exclamation mark alone before a hyphen, the hyphen is
the first character that is left out. -/
def setOf (text : List Char) : Piece :=
  let negated := text.head? = some '!'
  let parts :=
    if text.contains '-' then
      dropEmptyRanges (closeStretches (stretches (if negated then 2 else 1) [] text))
    else [text]
  match parts with
  | [['!']] => .any
  | ['!'] :: rest => .set true (⟨'-', '-'⟩ :: rangesOf rest)
  | ('!' :: first) :: rest => .set true (rangesOf (first :: rest))
  | parts => .set false (rangesOf parts)

/-- The text of a set, up to the bracket that closes it. A closing bracket right at
the start belongs to the set. -/
def setText? (cs : List Char) : Option (List Char × List Char) :=
  let (head, body) := match cs with
    | '!' :: ']' :: rest => (['!', ']'], rest)
    | '!' :: rest => (['!'], rest)
    | ']' :: rest => ([']'], rest)
    | rest => ([], rest)
  match body.dropWhile (· != ']') with
  | _ :: after => some (head ++ body.takeWhile (· != ']'), after)
  | [] => none

/-! ### Patterns -/

/-- The pieces of a pattern; the fuel is its length. -/
def piecesFrom : Nat → List Char → List Piece
  | _, [] => []
  | 0, _ => []
  | fuel + 1, c :: rest =>
      if c = '*' then .star :: piecesFrom fuel rest
      else if c = '?' then .any :: piecesFrom fuel rest
      else if c = '[' then
        match setText? rest with
        | some (text, after) => setOf text :: piecesFrom fuel after
        | none => .one '[' :: piecesFrom fuel rest
      else .one c :: piecesFrom fuel rest

def pieces (pattern : String) : List Piece := piecesFrom (pattern.length + 1) pattern.toList

/-- Whether a piece for one character stands for a given one. -/
def Piece.accepts : Piece → Char → Bool
  | .star, _ => false
  | .any, _ => true
  | .one p, c => p == c
  | .set negated ranges, c => ranges.any (·.contains c) != negated

/-- Moves one character on: at every place, whether the piece stands for the character
there and the rest of the pattern, given by its answers, for what follows. -/
def advance (p : Piece) : List Char → List Bool → List Bool
  | c :: cs, _ :: rest => (p.accepts c && rest.headD false) :: advance p cs rest
  | _, _ => [false]

/-- At every place, whether one of the answers from there on is yes. -/
def anyFrom : List Bool → List Bool
  | [] => []
  | b :: rest =>
      let later := anyFrom rest
      (b || later.headD false) :: later

/-- For every place in a text, whether the pieces stand for all that follows. -/
def answers : List Piece → List Char → List Bool
  | [], cs => cs.map (fun _ => false) ++ [true]
  | .star :: rest, cs => anyFrom (answers rest cs)
  | p :: rest, cs => advance p cs (answers rest cs)

/-- Whether a pattern stands for the whole of a name. -/
def matchesName (pattern name : String) : Bool := (answers (pieces pattern) name.toList).headD false

end QueryLint.Glob
