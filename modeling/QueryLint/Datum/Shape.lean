import QueryLint.Failure
import QueryLint.Text.Search

/-!
# Data of the wrong shape

Settings are used as lists, as mappings or as numbers, whatever they are. A value
of the wrong shape fails at its use.
-/

namespace QueryLint.Datum

/-- The items of a value that is run through: those of a list, the characters of a
text, the keys of a mapping. -/
def items : Datum → Except Failure (List Datum)
  | list items => .ok items
  | tuple items => .ok items
  | set items => .ok items
  | text s => .ok (s.toList.map fun c => text c.toString)
  | bytes bs => .ok (bs.map fun b => int b.toNat)
  | mapping entries => .ok (entries.map Prod.fst)
  | d => .error (.notIterable d.typeName)

/-- The member of a mapping, or another value if it is missing. -/
def memberOr (d : Datum) (key : String) (default : Datum) : Except Failure Datum :=
  match d with
  | mapping entries => .ok ((find? key entries).getD default)
  | d => .error (.noMember d.typeName "get")

/-- The member of a mapping; null if it is missing. -/
def member (d : Datum) (key : String) : Except Failure Datum := d.memberOr key null

/-- Whether a text is among some items. -/
def hasText (s : String) (items : List Datum) : Bool := items.any (sameKey (text s))

/-- Whether a value contains a text: a mapping as a key, a list as an item, a text as
a part of it. -/
def contains (d : Datum) (s : String) : Except Failure Bool :=
  match d with
  | mapping entries => .ok (find? s entries).isSome
  | list items => .ok (hasText s items)
  | tuple items => .ok (hasText s items)
  | set items => .ok (hasText s items)
  | text t => .ok (Text.occursIn s t)
  | bytes _ => .error .textInBytes
  | d => .error (.notAContainer d.typeName)

/-- The value at a key that a value contains. -/
def at_ (d : Datum) (key : String) : Except Failure Datum :=
  match d with
  | mapping entries =>
      match find? key entries with
      | some v => .ok v
      | none => .error (.missingKey key)
  | d => .error (.textIndex d.typeName)

/-- The number of items of a value. -/
def length (d : Datum) : Except Failure Nat :=
  match d.items with
  | .ok items => .ok items.length
  | .error _ => .error (.noLength d.typeName)

/-! ### Mappings -/

/-- The two items of a pair, which is the `index`-th item of a list. -/
def pair (index : Nat) (d : Datum) : Except Failure (Datum × Datum) :=
  match d.items with
  | .error _ => .error (.notASequence index)
  | .ok [a, b] => .ok (a, b)
  | .ok items => .error (.notAPair index items.length)

/-- The pairs of a list from the `index`-th on, whose first items can be keys. -/
def pairsFrom : Nat → List Datum → Except Failure (List (Datum × Datum))
  | _, [] => .ok []
  | index, d :: rest => do
      let (k, v) ← pair index d
      if !k.isHashable then throw (.unhashable k.typeName)
      return (k, v) :: (← pairsFrom (index + 1) rest)

/-- The pairs of keys and values of a value that is read as a mapping. -/
def pairs : Datum → Except Failure (List (Datum × Datum))
  | mapping entries => .ok entries
  | d => do pairsFrom 0 (← d.items)

/-- Adds the entries of a value that is read as a mapping. Keys that are not texts have
no effect. -/
def addEntries (d : Datum) (entries : List (String × Datum)) :
    Except Failure (List (String × Datum)) := do
  return (textEntries (← d.pairs)).foldl (fun acc (k, v) => Json.setKey k v acc) entries

/-- The entries of a value that is read as a mapping. -/
def toEntries (d : Datum) : Except Failure (List (String × Datum)) :=
  match d with
  | mapping es => .ok (textEntries es)
  | d => d.addEntries []

/-! ### Numbers -/

/-- Whether a whole number is greater than a value. -/
def isExceededBy (d : Datum) (n : Int) : Except Failure Bool :=
  match d with
  | float (.infinite negative) => .ok negative
  | float .notANumber => .ok false
  | d =>
      match d.fraction? with
      | some (p, q) => .ok (decide (p < n * q))
      | none => .error (.unordered ">" "int" d.typeName)

/-- Whether a value is greater than a whole number. -/
def exceeds (d : Datum) (n : Int) : Except Failure Bool :=
  match d with
  | float (.infinite negative) => .ok (!negative)
  | float .notANumber => .ok false
  | d =>
      match d.fraction? with
      | some (p, q) => .ok (decide (n * q < p))
      | none => .error (.unordered ">" d.typeName "int")

end QueryLint.Datum
