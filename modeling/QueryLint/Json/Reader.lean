import QueryLint.Json.Basic
import QueryLint.Text.CodePoint
import QueryLint.Text.Digits

/-!
# Reading data values from text

A strict reader: no comments, no trailing commas, no control characters in
strings, nothing after the value. The names of the non-finite numbers are
admitted. A key that occurs twice has its last value. The first fault of a text,
from the left, is the one that is reported.
-/

namespace QueryLint.Json

open Text (isDigit isHexDigit digitValue natOfDigits charsOfUnits maxDecimalDigits)

/-- Why a text cannot be read. -/
inductive ReadFault where
  | malformed
  /-- A whole number has more digits than are accepted. -/
  | tooManyDigits (count : Nat)
  /-- Lists and objects are nested too deeply, and the innermost is an object or not. -/
  | tooDeep (isObject : Bool)
deriving DecidableEq

def isSpace (c : Char) : Bool := c == ' ' || c == '\t' || c == '\n' || c == '\r'

def skipSpace (cs : List Char) : List Char := cs.dropWhile isSpace

/-! ### Strings -/

/-- An escape inside a string. -/
inductive StringEscape where
  | none
  | opened
  /-- So many hexadecimal digits are still required. -/
  | hex (left value : Nat)

def simpleEscape? (c : Char) : Option Nat :=
  match c with
  | '"' => some 34
  | '\\' => some 92
  | '/' => some 47
  | 'b' => some 8
  | 'f' => some 12
  | 'n' => some 10
  | 'r' => some 13
  | 't' => some 9
  | _ => Option.none

/-- The code points of a string up to its closing quote, and what is left. -/
def stringBody : StringEscape → List Char → Option (List Nat × List Char)
  | _, [] => Option.none
  | .none, c :: rest =>
      if c = '"' then some ([], rest)
      else if c = '\\' then stringBody .opened rest
      else if c.toNat < 32 then Option.none
      else (stringBody .none rest).map fun (ns, r) => (c.toNat :: ns, r)
  | .opened, c :: rest =>
      if c = 'u' then stringBody (.hex 4 0) rest
      else match simpleEscape? c with
        | some n => (stringBody .none rest).map fun (ns, r) => (n :: ns, r)
        | Option.none => Option.none
  | .hex left v, c :: rest =>
      if isHexDigit c then
        let v := v * 16 + digitValue c
        if left ≤ 1 then (stringBody .none rest).map fun (ns, r) => (v :: ns, r)
        else stringBody (.hex (left - 1) v) rest
      else Option.none

/-- A string after its opening quote. -/
def readString (cs : List Char) : Except ReadFault (String × List Char) :=
  match stringBody .none cs with
  | some (ns, rest) => .ok (String.ofList (charsOfUnits ns), rest)
  | Option.none => .error .malformed

/-! ### Numbers -/

/-- A sign, digits without a leading zero, and optionally a fraction and an
exponent. -/
def readNumber (cs : List Char) : Except ReadFault (Json × List Char) :=
  let (negative, cs) := sign cs
  let (whole, rest) := whole cs
  if whole.isEmpty then .error .malformed
  else
    let (part, rest) := fraction rest
    let (expo, rest) := exponent rest
    if part.isEmpty && expo.isNone then
      if whole.length > maxDecimalDigits then .error (.tooManyDigits whole.length)
      else
        let n : Int := natOfDigits 10 whole
        .ok (int (if negative then -n else n), rest)
    else
      let e := expo.getD 0 - part.length
      .ok (float (.ofDecimal negative (natOfDigits 10 (whole ++ part)) e), rest)
where
  sign : List Char → Bool × List Char
    | '-' :: rest => (true, rest)
    | cs => (false, cs)
  whole : List Char → List Char × List Char
    | '0' :: rest => (['0'], rest)
    | cs => cs.span isDigit
  fraction (cs : List Char) : List Char × List Char :=
    match cs with
    | '.' :: more =>
        let ds := more.takeWhile isDigit
        if ds.isEmpty then ([], cs) else (ds, more.dropWhile isDigit)
    | _ => ([], cs)
  exponent (cs : List Char) : Option Int × List Char :=
    match cs with
    | e :: rest =>
        if e = 'e' ∨ e = 'E' then
          let (negative, ds) := match rest with
            | '-' :: more => (true, more)
            | '+' :: more => (false, more)
            | _ => (false, rest)
          let digits := ds.takeWhile isDigit
          if digits.isEmpty then (none, cs)
          else
            let n : Int := natOfDigits 10 digits
            (some (if negative then -n else n), ds.dropWhile isDigit)
        else (none, cs)
    | [] => (none, cs)

/-! ### Values -/

/-- The rest of a text behind a fixed beginning. -/
def after? (beginning cs : List Char) : Option (List Char) :=
  if beginning.isPrefixOf cs then some (cs.drop beginning.length) else none

/-- Scalars that are single words. -/
def wordValues : List (List Char × Json) :=
  [(['n', 'u', 'l', 'l'], null), (['t', 'r', 'u', 'e'], bool true),
    (['f', 'a', 'l', 's', 'e'], bool false), (['N', 'a', 'N'], float .notANumber),
    (['I', 'n', 'f', 'i', 'n', 'i', 't', 'y'], float (.infinite false)),
    (['-', 'I', 'n', 'f', 'i', 'n', 'i', 't', 'y'], float (.infinite true))]

def readWord (cs : List Char) : Option (Json × List Char) :=
  wordValues.findSome? fun (w, v) => (after? w cs).map fun rest => (v, rest)

mutual

/-- A value at the head of a text, with lists and objects nested at most `depth` deep. -/
def readValue (depth : Nat) : Nat → List Char → Except ReadFault (Json × List Char)
  | 0, _ => .error .malformed
  | n + 1, cs =>
      match cs with
      | '"' :: rest => do
          let (s, rest) ← readString rest
          return (string s, rest)
      | '[' :: rest =>
          match depth with
          | 0 => .error (.tooDeep false)
          | depth + 1 =>
              match skipSpace rest with
              | ']' :: rest => .ok (array [], rest)
              | rest => do
                  let (items, rest) ← readItems depth n rest
                  return (array items, rest)
      | '\x7b' :: rest =>
          match depth with
          | 0 => .error (.tooDeep true)
          | depth + 1 =>
              match skipSpace rest with
              | '\x7d' :: rest => .ok (object [], rest)
              | rest => do
                  let (entries, rest) ← readEntries depth n [] rest
                  return (object entries, rest)
      | _ =>
          match readWord cs with
          | some r => .ok r
          | none => readNumber cs

/-- One or more items, up to the closing bracket. -/
def readItems (depth : Nat) : Nat → List Char → Except ReadFault (List Json × List Char)
  | 0, _ => .error .malformed
  | n + 1, cs => do
      let (v, rest) ← readValue depth n cs
      match skipSpace rest with
      | ',' :: rest =>
          let (items, rest) ← readItems depth n (skipSpace rest)
          return (v :: items, rest)
      | ']' :: rest => return ([v], rest)
      | _ => .error .malformed

/-- One or more entries, up to the closing brace. -/
def readEntries (depth : Nat) :
    Nat → List (String × Json) → List Char → Except ReadFault (List (String × Json) × List Char)
  | 0, _, _ => .error .malformed
  | n + 1, done, cs =>
      match cs with
      | '"' :: rest => do
          let (key, rest) ← readString rest
          match skipSpace rest with
          | ':' :: rest =>
              let (v, rest) ← readValue depth n (skipSpace rest)
              let done := setKey key v done
              match skipSpace rest with
              | ',' :: rest => readEntries depth n done (skipSpace rest)
              | '\x7d' :: rest => return (done, rest)
              | _ => .error .malformed
          | _ => .error .malformed
      | _ => .error .malformed

end

/-- The value a text denotes, with lists and objects nested at most `depth` deep. -/
def readWithin (depth : Nat) (cs : List Char) : Except ReadFault Json := do
  let (v, rest) ← readValue depth (cs.length + 1) (skipSpace cs)
  if (skipSpace rest).isEmpty then return v else .error .malformed

/-- The value a text denotes, however deeply nested. -/
def read? (cs : List Char) : Option Json := (readWithin cs.length cs).toOption

end QueryLint.Json
