import QueryLint.Template.Fault
import QueryLint.Text.DecimalDigit

/-!
# Layouts of fields

A layout says how a value fills a field: with which character, on which side, in which
width, and how much of it is shown. The numbers of a layout may be written in the digits
of any script.
-/

namespace QueryLint.Template

open Text (isDecimal natOfDecimals)

inductive Alignment where
  | left
  | right
  | center
  | numeric
deriving DecidableEq

def Alignment.ofChar? (c : Char) : Option Alignment :=
  if c == '<' then some .left
  else if c == '>' then some .right
  else if c == '^' then some .center
  else if c == '=' then some .numeric
  else none

/-- The greatest number that can be written in a template. -/
def maxNumber : Nat := 9223372036854775807

/-- Digits at the start of a text: their number, if there are any, and the rest. -/
def leadingNumber (cs : List Char) : Except Fault (Option Nat × List Char) :=
  let ds := cs.takeWhile isDecimal
  let n := natOfDecimals ds
  if ds.isEmpty then .ok (none, cs)
  else if maxNumber < n then .error .tooManyDigits
  else .ok (some n, cs.dropWhile isDecimal)

/-- The number that a text is, if it has nothing but digits. -/
def number? (cs : List Char) : Except Fault (Option Nat) := do
  let (n, rest) ← leadingNumber cs
  return if rest.isEmpty then n else none

/-- Wider texts are not held. -/
def maxWidth : Nat := 4294967296

/-- A layout as written. -/
structure Layout where
  fill : Option Char
  alignment : Option Alignment
  sign : Option Char
  /-- Whether a zero has no sign. -/
  unsignedZero : Bool
  alternate : Bool
  zeroPadded : Bool
  width : Option Nat
  separator : Option Char
  length : Option Nat
  type : Option Char

/-- Fill and alignment, and what follows them. -/
def alignmentOf (cs : List Char) : Option Char × Option Alignment × List Char :=
  match cs with
  | a :: b :: rest =>
      match Alignment.ofChar? b with
      | some al => (some a, some al, rest)
      | none =>
          match Alignment.ofChar? a with
          | some al => (none, some al, b :: rest)
          | none => (none, none, cs)
  | [a] =>
      match Alignment.ofChar? a with
      | some al => (none, some al, [])
      | none => (none, none, cs)
  | [] => (none, none, [])

/-- A character that stands at the start of a text, or nothing. -/
def leading? (p : Char → Bool) : List Char → Option Char × List Char
  | c :: rest => if p c then (some c, rest) else (none, c :: rest)
  | [] => (none, [])

/-- A thousands separator; the two of them exclude each other. -/
def separatorOf (cs : List Char) : Except Fault (Option Char × List Char) :=
  match cs with
  | ',' :: '_' :: _ => .error .bothSeparators
  | '_' :: ',' :: _ => .error .bothSeparators
  | ',' :: rest => .ok (some ',', rest)
  | '_' :: rest => .ok (some '_', rest)
  | _ => .ok (none, cs)

def lengthOf (cs : List Char) : Except Fault (Option Nat × List Char) := do
  match cs with
  | '.' :: rest =>
      match ← leadingNumber rest with
      | (some n, rest) => return (some n, rest)
      | (none, _) => .error .missingLength
  | _ => return (none, cs)

/-- Whether numbers of the given type can have the thousands separator. -/
def takesSeparator (separator type : Char) : Bool :=
  ['d', 'e', 'f', 'g', 'E', 'G', '%', 'F'].contains type ||
    (separator == '_' && ['b', 'o', 'x', 'X'].contains type)

/-- Reads the layout of a value of the type `subject`, which is written as `usual` says
if the layout does not. -/
def readLayout (subject : String) (usual : Option Char) (text : List Char) :
    Except Fault Layout := do
  let (fill, alignment, cs) := alignmentOf text
  let (sign, cs) := leading? (fun c => c == ' ' || c == '+' || c == '-') cs
  let (unsigned, cs) := leading? (· == 'z') cs
  let (alternate, cs) := leading? (· == '#') cs
  let (pad, cs) := if fill.isSome then (none, cs) else leading? (· == '0') cs
  let (width, cs) ← leadingNumber cs
  let (separator, cs) ← separatorOf cs
  let (length, cs) ← lengthOf cs
  let type ← match cs with
    | [] => pure usual
    | [t] => pure (some t)
    | _ => .error (.badLayout (String.ofList text) subject)
  match separator, type with
  | some s, some t => if takesSeparator s t then pure () else .error (.separatorWith s t)
  | _, _ => pure ()
  return ⟨fill, alignment, sign, unsigned.isSome, alternate.isSome, pad.isSome, width, separator,
    length, type⟩

namespace Layout

def fillChar (l : Layout) : Char := l.fill.getD (if l.zeroPadded then '0' else ' ')

/-- How many characters go before and how many after a text that lacks `missing`. -/
def sides (alignment : Alignment) (missing : Nat) : Nat × Nat :=
  match alignment with
  | .right => (missing, 0)
  | .center => (missing / 2, missing - missing / 2)
  | _ => (0, missing)

/-- Why a layout is not one of texts, if it is not. -/
def textFault? (l : Layout) : Option Fault :=
  match l.type with
  | some 's' =>
      if l.sign = some ' ' then some .spaceInLayout
      else if l.sign.isSome then some .signInLayout
      else if l.unsignedZero then some .zeroSignInLayout
      else if l.alternate then some .alternateInLayout
      else if l.alignment = some .numeric then some .numericAlignment
      else if maxWidth < l.width.getD 0 then some .outOfMemory
      else none
  | some t => some (.unknownType t "str")
  | none => none

def textIn (l : Layout) (cs : List Char) : List Char :=
  let cs := match l.length with
    | some n => cs.take n
    | none => cs
  let (before, after) := sides (l.alignment.getD .left) (l.width.getD 0 - cs.length)
  List.replicate before l.fillChar ++ cs ++ List.replicate after l.fillChar

end Layout

/-- A text in a field. -/
def layOutText (layout text : List Char) : Except Fault (List Char) :=
  (readLayout "str" (some 's') layout).bind fun l =>
    match l.textFault? with
    | some fault => .error fault
    | none => .ok (l.textIn text)

end QueryLint.Template
