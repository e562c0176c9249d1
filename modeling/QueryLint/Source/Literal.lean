import QueryLint.Source.Ast
import QueryLint.Source.Scan
import QueryLint.Text.CharName
import QueryLint.Text.CodePoint

/-!
# Literals

What number and string literals denote. A string literal is taken apart into its
letters and its body; bodies that are not raw have their escapes decoded.
-/

namespace QueryLint.Source

open QueryLint.Text

/-! ### Numbers -/

/-- The number a decimal text with point and exponent denotes. -/
def decimalValue (ds : List Char) : Binary64 :=
  let (mantissa, expo) := ds.span fun c => c != 'e' && c != 'E'
  let (whole, part) := mantissa.span (· != '.')
  let part := part.drop 1
  let exponent : Int :=
    match expo.drop 1 with
    | '-' :: es => -(natOfDigits 10 es : Int)
    | '+' :: es => natOfDigits 10 es
    | es => natOfDigits 10 es
  Binary64.ofDecimal false (natOfDigits 10 (whole ++ part)) (exponent - part.length)

/-- The value of a number literal. -/
def numberValue (cs : List Char) : Option Value :=
  let ds := cs.filter (· != '_')
  match ds with
  | '0' :: b :: rest =>
      if b = 'x' ∨ b = 'X' then some (.integer (natOfDigits 16 rest))
      else if b = 'o' ∨ b = 'O' then some (.integer (natOfDigits 8 rest))
      else if b = 'b' ∨ b = 'B' then some (.integer (natOfDigits 2 rest))
      else decimal ds
  | _ => decimal ds
where
  decimal (ds : List Char) : Option Value :=
    if ds.getLast?.any (fun c => c == 'j' || c == 'J') then
      some (.imaginary (decimalValue ds.dropLast))
    else if ds.all isDigit then
      if ds.length > maxDecimalDigits then none else some (.integer (natOfDigits 10 ds))
    else some (.float (decimalValue ds))

/-! ### Escapes -/

/-- An escape that has been opened by a backslash. -/
inductive Escape where
  | none
  | opened
  /-- So many hexadecimal digits are still required. -/
  | hex (left value : Nat)
  /-- So many octal digits may still follow. -/
  | octal (left value : Nat)
  /-- A character given by its name; `inside` once the brace is open. -/
  | named (inside : Bool) (name : List Char)

/-- The character a one-letter escape stands for. -/
def simpleEscape? (c : Char) : Option Nat :=
  match c with
  | '\\' => some 92
  | '\'' => some 39
  | '"' => some 34
  | 'a' => some 7
  | 'b' => some 8
  | 't' => some 9
  | 'n' => some 10
  | 'v' => some 11
  | 'f' => some 12
  | 'r' => some 13
  | _ => Option.none

def isOctalDigit (c : Char) : Bool := '0' ≤ c && c ≤ '7'

/-- Decodes the escapes of a body into code points. `wide` admits the escapes that
only texts have; `lookup` finds a character by its name. -/
def decodeEscapes (wide : Bool) (lookup : List Char → Option Nat) :
    Escape → List Char → Option (List Nat)
  | .none, [] => some []
  | .opened, [] => some [92]
  | .octal _ v, [] => some [v]
  | .hex _ _, [] => Option.none
  | .named _ _, [] => Option.none
  | state, c :: rest =>
      let plain : Unit → Option (List Nat) := fun _ =>
        if c = '\\' then decodeEscapes wide lookup .opened rest
        else (decodeEscapes wide lookup .none rest).map (c.toNat :: ·)
      match state with
      | .none => plain ()
      | .opened =>
          if c = '\n' then decodeEscapes wide lookup .none rest
          else if isOctalDigit c then decodeEscapes wide lookup (.octal 2 (digitValue c)) rest
          else if c = 'x' then decodeEscapes wide lookup (.hex 2 0) rest
          else if wide && c == 'u' then decodeEscapes wide lookup (.hex 4 0) rest
          else if wide && c == 'U' then decodeEscapes wide lookup (.hex 8 0) rest
          else if wide && c == 'N' then decodeEscapes wide lookup (.named false []) rest
          else match simpleEscape? c with
            | some n => (decodeEscapes wide lookup .none rest).map (n :: ·)
            | Option.none => (decodeEscapes wide lookup .none rest).map fun ns => 92 :: c.toNat :: ns
      | .hex left v =>
          if isHexDigit c then
            let v := v * 16 + digitValue c
            if left ≤ 1 then
              if v > 0x10FFFF then Option.none
              else (decodeEscapes wide lookup .none rest).map (v :: ·)
            else decodeEscapes wide lookup (.hex (left - 1) v) rest
          else Option.none
      | .octal left v =>
          if isOctalDigit c && left > 0 then
            decodeEscapes wide lookup (.octal (left - 1) (v * 8 + digitValue c)) rest
          else (plain ()).map (v :: ·)
      | .named false _ =>
          if c = '\x7b' then decodeEscapes wide lookup (.named true []) rest else Option.none
      | .named true name =>
          if c = '\x7d' then do
            let n ← lookup name.reverse
            (decodeEscapes wide lookup .none rest).map (n :: ·)
          else decodeEscapes wide lookup (.named true (c :: name)) rest

/-- The text a body denotes. -/
def textOfBody (raw : Bool) (body : List Char) : Option (List Char) :=
  if raw then some body
  else (decodeEscapes true namedChar? .none body).map fun ns => ns.map charOfCodePoint

/-- The bytes a body denotes; it must be ASCII. -/
def bytesOfBody (raw : Bool) (body : List Char) : Option (List UInt8) :=
  if body.any (fun c => c.toNat ≥ 128) then none
  else if raw then some (body.map fun c => UInt8.ofNat c.toNat)
  else (decodeEscapes false namedChar? .none body).map fun ns => ns.map UInt8.ofNat

/-! ### String literals -/

/-- A string literal taken apart. -/
structure StringParts where
  raw : Bool
  isBytes : Bool
  isFormat : Bool
  /-- The letters and the opening quotes. -/
  opening : List Char
  body : List Char

/-- Takes a scanned string literal apart. -/
def StringParts.of (cs : List Char) : StringParts :=
  let (letters, quoted) := cs.span fun c => !isQuote c
  let has (l u : Char) : Bool := letters.contains l || letters.contains u
  let q := quoted.headD '\''
  let width := if quoted.length ≥ 6 ∧ quoted.take 3 = [q, q, q] then 3 else 1
  { raw := has 'r' 'R'
    isBytes := has 'b' 'B'
    isFormat := has 'f' 'F'
    opening := letters ++ quoted.take width
    body := (quoted.drop width).take (quoted.length - 2 * width) }

end QueryLint.Source
