import QueryLint.Number.Binary64
import QueryLint.Text.Blank
import QueryLint.Text.DecimalDigit
import QueryLint.Text.Digits

/-!
# Numbers in texts

A text denotes a number if nothing but blanks stands around it. Digits of all scripts
count. Whole numbers may have single underscores between their digits, and the mark of
their base before them.
-/

namespace QueryLint.Number

open Text

/-- Why a text denotes no number. -/
inductive Fault where
  | notWhole (base : Nat) (text : String)
  | tooManyDigits (count : Nat)
  | notAFraction (text : String)
deriving DecidableEq, Inhabited

/-- The text in the characters that numbers are made of: digits of other scripts become
plain ones, and blanks outside ASCII become spaces. The text ends with the first other
character outside ASCII. -/
def plainForm : List Char → List Char
  | [] => []
  | c :: rest =>
      if c.toNat < 127 then c :: plainForm rest
      else if isBlank c then ' ' :: plainForm rest
      else
        match decimalValue? c with
        | some d => Char.ofNat ('0'.toNat + d) :: plainForm rest
        | none => ['?']

/-- Blanks that may stand around a number. -/
def isMargin (c : Char) : Bool := c == ' ' || ('\t' ≤ c && c ≤ '\r')

/-- Whether a sign says less than zero, and what follows it. -/
def cutSign : List Char → Bool × List Char
  | '-' :: cs => (true, cs)
  | '+' :: cs => (false, cs)
  | cs => (false, cs)

/-- The letters that mark a base. -/
def baseMark : Nat → List Char
  | 2 => ['b', 'B']
  | 8 => ['o', 'O']
  | 16 => ['x', 'X']
  | _ => []

/-- What follows the mark of a base. One underscore may stand after the mark. -/
def afterBaseMark (base : Nat) (cs : List Char) : List Char :=
  match cs with
  | '0' :: c :: rest =>
      if (baseMark base).contains c then
        match rest with
        | '_' :: rest => rest
        | rest => rest
      else cs
  | cs => cs

/-- Whether underscores stand only between digits, one at a time. -/
def isWellSpaced : List Char → Bool
  | [] => false
  | ['_'] => false
  | [_] => true
  | '_' :: _ => false
  | _ :: '_' :: '_' :: _ => false
  | _ :: '_' :: rest => isWellSpaced rest
  | _ :: rest => isWellSpaced rest

/-- The whole number that a text denotes in a base. -/
def whole (base : Nat) (s : String) : Except Fault Int := do
  let (negative, cs) := cutSign ((plainForm s.toList).dropWhile isMargin)
  let cs := afterBaseMark base cs
  let run := cs.takeWhile fun c => c == '_' || (isHexDigit c && digitValue c < base)
  let digits := run.filter (· != '_')
  if !isWellSpaced run then throw (.notWhole base s)
  if base = 10 ∧ maxDecimalDigits < digits.length then throw (.tooManyDigits digits.length)
  if !((cs.drop run.length).dropWhile isMargin).isEmpty then throw (.notWhole base s)
  return Binary64.signed negative (natOfDigits base digits)

/-- Some digits, at least one. -/
def areDigits (cs : List Char) : Bool := !cs.isEmpty && cs.all isDigit

/-- The number after the mark of an exponent; zero without one. -/
def exponent? (cs : List Char) : Option Int :=
  match cs with
  | [] => some 0
  | e :: rest =>
      let (negative, ds) := cutSign rest
      if (e == 'e' || e == 'E') && areDigits ds then
        some (Binary64.signed negative (natOfDigits 10 ds))
      else none

/-- The double nearest to digits with an optional point and an optional exponent. -/
def decimal? (negative : Bool) (cs : List Char) : Option Binary64 :=
  let before := cs.takeWhile isDigit
  let (after, rest) :=
    match cs.drop before.length with
    | '.' :: rest => (rest.takeWhile isDigit, rest.dropWhile isDigit)
    | rest => ([], rest)
  let digits := before ++ after
  match exponent? rest with
  | some e =>
      if digits.isEmpty then none
      else some (.ofDecimal negative (natOfDigits 10 digits) (e - after.length))
  | none => none

/-- The double that a text denotes. -/
def fraction (s : String) : Except Fault Binary64 :=
  let cs := (plainForm s.toList).dropWhile isMargin
  let (negative, cs) := cutSign (cs.reverse.dropWhile isMargin).reverse
  match String.ofList (cs.map Char.toLower) with
  | "inf" | "infinity" => .ok (.infinite negative)
  | "nan" => .ok .notANumber
  | _ =>
      match decimal? negative cs with
      | some x => .ok x
      | none => .error (.notAFraction s)

end QueryLint.Number
