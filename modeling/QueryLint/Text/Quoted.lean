import QueryLint.Text.CodePoint
import QueryLint.Text.Printable

/-!
# Quoted texts

A text shown between quotes. Apostrophes delimit it, unless it holds an
apostrophe and no quotation mark. Backslash, the delimiter and the three common
controls have short escapes; any other character that is not printable is
written by its code point.
-/

namespace QueryLint.Text

def hexDigit (n : Nat) : Char :=
  if n < 10 then Char.ofNat (n + '0'.toNat) else Char.ofNat (n - 10 + 'a'.toNat)

/-- The last `width` hexadecimal digits of `n`. -/
def hexDigits : Nat → Nat → List Char
  | 0, _ => []
  | width + 1, n => hexDigits width (n / 16) ++ [hexDigit (n % 16)]

/-- The escape of a code point, as short as its size allows. -/
def codePointEscape (n : Nat) : List Char :=
  if n < 0x100 then '\\' :: 'x' :: hexDigits 2 n
  else if n < 0x10000 then '\\' :: 'u' :: hexDigits 4 n
  else '\\' :: 'U' :: hexDigits 8 n

def quotedChar (delimiter c : Char) : List Char :=
  if c = '\\' ∨ c = delimiter then ['\\', c]
  else if c = '\n' then ['\\', 'n']
  else if c = '\r' then ['\\', 'r']
  else if c = '\t' then ['\\', 't']
  else if isPrintable c then [c]
  else codePointEscape (codePoint c)

def delimiterFor (cs : List Char) : Char :=
  if cs.contains '\'' && !cs.contains '"' then '"' else '\''

/-- The text between its delimiters. -/
def quoted (s : String) : String :=
  let cs := s.toList
  let d := delimiterFor cs
  String.ofList (d :: cs.flatMap (quotedChar d) ++ [d])

/-- A text with every character outside ASCII written by its code point. -/
def inAscii (s : String) : String :=
  String.ofList (s.toList.flatMap fun c =>
    if c.toNat < 128 then [c] else codePointEscape (codePoint c))

/-! ### Bytes -/

def quotedByte (delimiter : Char) (b : UInt8) : List Char :=
  if b.toNat < 128 then quotedChar delimiter (Char.ofNat b.toNat) else codePointEscape b.toNat

/-- Bytes between delimiters after a mark. -/
def quotedBytes (bs : List UInt8) : String :=
  let d := delimiterFor (bs.map fun b => Char.ofNat b.toNat)
  String.ofList ('b' :: d :: bs.flatMap (quotedByte d) ++ [d])

end QueryLint.Text
