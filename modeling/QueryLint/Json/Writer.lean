import QueryLint.Json.Basic
import QueryLint.Text.Quoted

/-!
# Writing data values as text

Texts are written in ASCII: other characters by their UTF-16 code units. With an
indentation every item stands on a line of its own; without one everything stands
on one line, with blanks after commas and colons.
-/

namespace QueryLint.Json

/-! ### Scalars -/

def unitEscape (n : Nat) : List Char := '\\' :: 'u' :: Text.hexDigits 4 n

def escapedChar (c : Char) : List Char :=
  let n := Text.codePoint c
  if c = '"' then ['\\', '"']
  else if c = '\\' then ['\\', '\\']
  else if c = '\n' then ['\\', 'n']
  else if c = '\r' then ['\\', 'r']
  else if c = '\t' then ['\\', 't']
  else if c = '\x0c' then ['\\', 'f']
  else if c = '\x08' then ['\\', 'b']
  else if 32 ≤ n ∧ n < 127 then [c]
  else if n < 0x10000 then unitEscape n
  else unitEscape (0xD800 + (n - 0x10000) / 0x400) ++ unitEscape (0xDC00 + (n - 0x10000) % 0x400)

def writeString (s : String) : List Char := '"' :: s.toList.flatMap escapedChar ++ ['"']

def writeFloat : Binary64 → List Char
  | .notANumber => ['N', 'a', 'N']
  | .infinite false => ['I', 'n', 'f', 'i', 'n', 'i', 't', 'y']
  | .infinite true => ['-', 'I', 'n', 'f', 'i', 'n', 'i', 't', 'y']
  | x => x.text.toList

def writeInt (n : Int) : List Char :=
  if n < 0 then '-' :: Nat.toDigits 10 n.natAbs else Nat.toDigits 10 n.natAbs

/-! ### Layout -/

/-- How items are laid out: on one line, or on lines that start with a text for each
level. -/
inductive Layout where
  | oneLine
  | indented (unit : List Char)

namespace Layout

/-- Lines that start with so many blanks a level. -/
def blanks (width : Nat) : Layout := indented (List.replicate width ' ')

/-- A negative indentation counts as none, but still breaks lines. -/
def ofIndent : Option Int → Layout
  | none => oneLine
  | some n => blanks n.toNat

/-- The start of a line at the given depth. -/
def margin (unit : List Char) : Nat → List Char
  | 0 => []
  | depth + 1 => unit ++ margin unit depth

/-- The line break before an item at the given depth. -/
def break_ (l : Layout) (depth : Nat) : List Char :=
  match l with
  | oneLine => []
  | indented unit => '\n' :: margin unit depth

def comma (l : Layout) (depth : Nat) : List Char :=
  match l with
  | oneLine => [',', ' ']
  | indented _ => ',' :: l.break_ depth

end Layout

mutual

def writeAt (l : Layout) (depth : Nat) : Json → List Char
  | null => ['n', 'u', 'l', 'l']
  | bool true => ['t', 'r', 'u', 'e']
  | bool false => ['f', 'a', 'l', 's', 'e']
  | int n => writeInt n
  | float x => writeFloat x
  | string s => writeString s
  | array [] => ['[', ']']
  | array (v :: rest) =>
      '[' :: l.break_ (depth + 1) ++ writeAt l (depth + 1) v ++ writeItems l (depth + 1) rest ++
        l.break_ depth ++ [']']
  | object [] => ['\x7b', '\x7d']
  | object ((k, v) :: rest) =>
      '\x7b' :: l.break_ (depth + 1) ++ writeString k ++ [':', ' '] ++ writeAt l (depth + 1) v ++
        writeEntries l (depth + 1) rest ++ l.break_ depth ++ ['\x7d']

/-- The items after the first, each behind a comma. -/
def writeItems (l : Layout) (depth : Nat) : List Json → List Char
  | [] => []
  | v :: rest => l.comma depth ++ writeAt l depth v ++ writeItems l depth rest

/-- The entries after the first, each behind a comma. -/
def writeEntries (l : Layout) (depth : Nat) : List (String × Json) → List Char
  | [] => []
  | (k, v) :: rest =>
      l.comma depth ++ writeString k ++ [':', ' '] ++ writeAt l depth v ++ writeEntries l depth rest

end

/-- The text of a value in a layout. -/
def writeIn (l : Layout) (j : Json) : String := String.ofList (writeAt l 0 j)

/-- The text of a value. -/
def write (indent : Option Int) (j : Json) : String := j.writeIn (.ofIndent indent)

end QueryLint.Json
