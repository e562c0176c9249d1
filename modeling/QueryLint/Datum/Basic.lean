import QueryLint.Calendar
import QueryLint.Json.Basic

/-!
# Data of any shape

Values as settings files hold them. Besides the values of records there are bytes,
days, moments, sets and fixed rows, mappings have keys of any kind, and a list or a
mapping may lie inside itself. Mappings keep the order in which their keys were first
set.
-/

namespace QueryLint

inductive Datum where
  | null
  | bool (b : Bool)
  | int (n : Int)
  | float (x : Binary64)
  | text (s : String)
  | bytes (bs : List UInt8)
  | date (d : Date)
  | moment (m : Moment)
  | list (items : List Datum)
  | tuple (items : List Datum)
  | set (items : List Datum)
  | mapping (entries : List (Datum × Datum))
  /-- A list or a mapping inside itself. -/
  | again (isMapping : Bool)
deriving Inhabited

namespace Datum

/-- A list of texts. -/
def texts (ss : List String) : Datum := list (ss.map text)

/-- A mapping whose keys are texts. -/
def ofEntries (entries : List (String × Datum)) : Datum :=
  mapping (entries.map fun (k, v) => (text k, v))

/-- The value of a text among the keys. -/
def find? (key : String) : List (Datum × Datum) → Option Datum
  | [] => none
  | (text k, v) :: rest => if k == key then some v else find? key rest
  | _ :: rest => find? key rest

/-- The entries whose keys are texts. -/
def textEntries (entries : List (Datum × Datum)) : List (String × Datum) :=
  entries.filterMap fun
    | (text k, v) => some (k, v)
    | _ => none

/-! ### Records as data -/

mutual

def ofJson : Json → Datum
  | .null => null
  | .bool b => bool b
  | .int n => int n
  | .float x => float x
  | .string s => text s
  | .array items => list (ofItems items)
  | .object entries => mapping (ofFields entries)

def ofItems : List Json → List Datum
  | [] => []
  | j :: rest => ofJson j :: ofItems rest

def ofFields : List (String × Json) → List (Datum × Datum)
  | [] => []
  | (k, j) :: rest => (text k, ofJson j) :: ofFields rest

end

/-- A key as a text. -/
def keyText : Datum → String
  | text s => s
  | null => "null"
  | bool true => "true"
  | bool false => "false"
  | int n => toString n
  | float .notANumber => "NaN"
  | float (.infinite negative) => if negative then "-Infinity" else "Infinity"
  | float x => x.text
  | date d => d.plain
  | moment m => m.plain
  | _ => ""

mutual

/-- The record that is nearest to a datum. -/
def toJson : Datum → Json
  | null => .null
  | bool b => .bool b
  | int n => .int n
  | float x => .float x
  | text s => .string s
  | bytes bs => .array (bs.map fun b => .int b.toNat)
  | date d => .string d.plain
  | moment m => .string m.plain
  | list items => .array (toItems items)
  | tuple items => .array (toItems items)
  | set items => .array (toItems items)
  | mapping entries =>
      .object ((toFields entries).foldl (fun acc (k, v) => Json.setKey k v acc) [])
  | again _ => .null

def toItems : List Datum → List Json
  | [] => []
  | d :: rest => toJson d :: toItems rest

def toFields : List (Datum × Datum) → List (String × Json)
  | [] => []
  | (k, d) :: rest => (keyText k, toJson d) :: toFields rest

end

/-! ### Equality -/

/-- A number as a fraction; a truth value counts as one or zero. -/
def fraction? : Datum → Option (Int × Nat)
  | int n => some (n, 1)
  | bool b => some (if b then 1 else 0, 1)
  | float (.finite negative m e) =>
      let n := Binary64.signed negative m
      some (if e < 0 then (n, Binary64.pow2 (-e).toNat) else (n * Binary64.pow2 e.toNat, 1))
  | _ => none

/-- Whether two numbers are equal; nothing if one of them is none. -/
def sameNumber? (a b : Datum) : Option Bool :=
  match a.fraction?, b.fraction? with
  | some (m, n), some (p, q) => some (m * q == p * n)
  | some _, none => some false
  | none, some _ => some false
  | none, none => none

mutual

/-- Whether two keys are one: numbers and truth values are if their values are equal, moments
whose clocks say how far they are off if they are the same time, and rows if their items are. -/
def sameKey (a b : Datum) : Bool :=
  match sameNumber? a b with
  | some r => r
  | none =>
      match a, b with
      | null, null => true
      | float (.infinite s), float (.infinite t) => s == t
      | float .notANumber, float .notANumber => true
      | text s, text t => s == t
      | bytes a, bytes b => a == b
      | date a, date b => a == b
      | moment a, moment b => a.isSame b
      | tuple as, tuple bs => sameItems as bs
      | _, _ => false

def sameItems : List Datum → List Datum → Bool
  | [], [] => true
  | a :: as, b :: bs => sameKey a b && sameItems as bs
  | _, _ => false

end

/-- Sets a key: a new key goes to the end, a known one keeps its place. -/
def setKey (key value : Datum) : List (Datum × Datum) → List (Datum × Datum)
  | [] => [(key, value)]
  | (k, v) :: rest => if sameKey k key then (k, value) :: rest else (k, v) :: setKey key value rest

end Datum

end QueryLint
