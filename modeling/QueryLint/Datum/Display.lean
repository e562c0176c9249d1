import QueryLint.Datum.Basic
import QueryLint.Text.Quoted

/-!
# How messages speak of data

The words in which messages quote data and name their types.
-/

namespace QueryLint.Datum

/-- The name of a value's type. -/
def typeName : Datum → String
  | null => "NoneType"
  | bool _ => "bool"
  | int _ => "int"
  | float _ => "float"
  | text _ => "str"
  | bytes _ => "bytes"
  | date _ => "datetime.date"
  | moment _ => "datetime.datetime"
  | list _ => "list"
  | tuple _ => "tuple"
  | set _ => "set"
  | mapping _ => "dict"
  | again isMapping => if isMapping then "dict" else "list"

/-- The name of a value's type without the module that it belongs to. -/
def shortTypeName : Datum → String
  | date _ => "date"
  | moment _ => "datetime"
  | d => d.typeName

mutual

/-- The value as messages quote it. -/
def display : Datum → String
  | null => "None"
  | bool true => "True"
  | bool false => "False"
  | int n => toString n
  | float x => x.text
  | text s => Text.quoted s
  | bytes bs => Text.quotedBytes bs
  | date d => d.display
  | moment m => m.display
  | list items => "[" ++ displayItems items ++ "]"
  | tuple [d] => "(" ++ display d ++ ",)"
  | tuple items => "(" ++ displayItems items ++ ")"
  | set [] => "set()"
  | set items => "\x7b" ++ displayItems items ++ "\x7d"
  | mapping entries => "\x7b" ++ displayEntries entries ++ "\x7d"
  | again true => "\x7b...\x7d"
  | again false => "[...]"

/-- Items with commas between them. -/
def displayItems : List Datum → String
  | [] => ""
  | [d] => display d
  | d :: rest => display d ++ ", " ++ displayItems rest

def displayEntries : List (Datum × Datum) → String
  | [] => ""
  | [(k, v)] => display k ++ ": " ++ display v
  | (k, v) :: rest => display k ++ ": " ++ display v ++ ", " ++ displayEntries rest

end

/-- The value as it stands in running text: a text without quotes. -/
def plain : Datum → String
  | text s => s
  | date d => d.plain
  | moment m => m.plain
  | d => d.display

/-- A value is filled if it is neither null nor false, zero or empty. -/
def isFilled : Datum → Bool
  | null => false
  | bool b => b
  | int n => n != 0
  | float (.finite _ m _) => m != 0
  | float _ => true
  | text s => !s.isEmpty
  | bytes bs => !bs.isEmpty
  | date _ => true
  | moment _ => true
  | list items => !items.isEmpty
  | tuple items => !items.isEmpty
  | set items => !items.isEmpty
  | mapping entries => !entries.isEmpty
  | again _ => true

/-- The value, or another one if it is not filled. -/
def orElse (d other : Datum) : Datum := if d.isFilled then d else other

mutual

/-- Whether a value can be a key or a member of a set. -/
def isHashable : Datum → Bool
  | list _ => false
  | set _ => false
  | mapping _ => false
  | again _ => false
  | tuple items => areHashable items
  | _ => true

def areHashable : List Datum → Bool
  | [] => true
  | d :: rest => isHashable d && areHashable rest

end

end QueryLint.Datum

/-! ### Records -/

namespace QueryLint.Json

def typeName (j : Json) : String := (Datum.ofJson j).typeName

def display (j : Json) : String := (Datum.ofJson j).display

def plain (j : Json) : String := (Datum.ofJson j).plain

def isFilled (j : Json) : Bool := (Datum.ofJson j).isFilled

/-- The value, or another one if it is not filled. -/
def orElse (j other : Json) : Json := if j.isFilled then j else other

end QueryLint.Json
