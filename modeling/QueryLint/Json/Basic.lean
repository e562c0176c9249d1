import QueryLint.Number.Binary64

/-!
# Data values

Values as configuration files and reports hold them. Objects keep the order in
which their keys were first set.
-/

namespace QueryLint

inductive Json where
  | null
  | bool (b : Bool)
  | int (n : Int)
  | float (x : Binary64)
  | string (s : String)
  | array (items : List Json)
  | object (entries : List (String × Json))
deriving Inhabited

namespace Json

/-- Sets a key: a new key goes to the end, a known one keeps its place. -/
def setKey {α : Type} (key : String) (value : α) : List (String × α) → List (String × α)
  | [] => [(key, value)]
  | (k, v) :: rest => if k == key then (k, value) :: rest else (k, v) :: setKey key value rest

/-- The value of a key, if the value is an object that has it. -/
def get? (j : Json) (key : String) : Option Json :=
  match j with
  | object entries => entries.lookup key
  | _ => none

def strings (ss : List String) : Json := array (ss.map string)

def ofOption (s : Option String) : Json :=
  match s with
  | some s => string s
  | none => null

mutual

def beq : Json → Json → Bool
  | null, null => true
  | bool a, bool b => a == b
  | int a, int b => a == b
  | float a, float b => a == b
  | string a, string b => a == b
  | array a, array b => beqItems a b
  | object a, object b => beqEntries a b
  | _, _ => false

def beqItems : List Json → List Json → Bool
  | [], [] => true
  | a :: as, b :: bs => beq a b && beqItems as bs
  | _, _ => false

def beqEntries : List (String × Json) → List (String × Json) → Bool
  | [], [] => true
  | (k, a) :: as, (l, b) :: bs => k == l && beq a b && beqEntries as bs
  | _, _ => false

end

instance : BEq Json := ⟨beq⟩

mutual

/-- A value and all values that lie in it. -/
def parts : Json → List Json
  | array items => array items :: partsOfItems items
  | object entries => object entries :: partsOfEntries entries
  | j => [j]

def partsOfItems : List Json → List Json
  | [] => []
  | j :: rest => parts j ++ partsOfItems rest

def partsOfEntries : List (String × Json) → List Json
  | [] => []
  | (_, j) :: rest => parts j ++ partsOfEntries rest

end

end Json

end QueryLint
