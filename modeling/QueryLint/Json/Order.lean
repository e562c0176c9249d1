import QueryLint.Failure

/-!
# Equality, order and arithmetic of data values

Numbers are compared and added by their values, whether they are whole or not, and a
truth value counts as one or zero. Texts are ordered by code points, lists by their
first items that differ. Everything else has no order.
-/

namespace QueryLint.Json

/-! ### Numbers -/

/-- A number: exact if it is whole. -/
inductive Number where
  | whole (n : Int)
  | double (x : Binary64)

def number? : Json → Option Number
  | int n => some (.whole n)
  | bool b => some (.whole (if b then 1 else 0))
  | float x => some (.double x)
  | _ => none

namespace Number

/-- Whole numbers that no double is near to cannot be counted with other doubles. -/
def toDouble : Number → Except Failure Binary64
  | double x => .ok x
  | whole n =>
      match Binary64.ofInt n with
      | .infinite _ => .error .overflow
      | x => .ok x

def toJson : Number → Json
  | whole n => int n
  | double x => float x

def add : Number → Number → Except Failure Number
  | whole m, whole n => .ok (whole (m + n))
  | a, b => do return double (.add (← a.toDouble) (← b.toDouble))

def subtract : Number → Number → Except Failure Number
  | whole m, whole n => .ok (whole (m - n))
  | a, b => do return double (.add (← a.toDouble) (← b.toDouble).negate)

/-- A number times the given power of two, if it is finite. -/
def scaled? (scale : Nat) : Number → Option Int
  | whole n => some (n * Binary64.pow2 scale)
  | double (.finite negative m e) =>
      some (Binary64.signed negative (m * Binary64.pow2 (e + scale).toNat))
  | double _ => none

/-- The order of two numbers; nothing if one of them is not a number. -/
def compare? (a b : Number) : Option Ordering :=
  let scale := (-Binary64.minExponent).toNat
  match a.scaled? scale, b.scaled? scale with
  | some m, some n => some (compare m n)
  | _, _ =>
      match a, b with
      | double .notANumber, _ => none
      | _, double .notANumber => none
      | double (.infinite s), double (.infinite t) => some (compare t.toNat s.toNat)
      | double (.infinite s), _ => some (if s then .lt else .gt)
      | _, double (.infinite t) => some (if t then .gt else .lt)
      | _, _ => none

end Number

/-- The sum of two numbers. -/
def add (a b : Json) : Except Failure Json :=
  match a.number?, b.number? with
  | some m, some n => Number.toJson <$> m.add n
  | _, _ => .error (.operands "+" a.typeName b.typeName)

/-- The difference of two numbers. -/
def subtract (a b : Json) : Except Failure Json :=
  match a.number?, b.number? with
  | some m, some n => Number.toJson <$> m.subtract n
  | _, _ => .error (.operands "-" a.typeName b.typeName)

/-! ### Equality -/

mutual

/-- Whether two values are equal. The order of keys does not matter. -/
def same : Json → Json → Bool
  | null, b => match b with
      | null => true
      | _ => false
  | string s, b => match b with
      | string t => s == t
      | _ => false
  | array as, b => match b with
      | array bs => sameItems as bs
      | _ => false
  | object as, b => match b with
      | object bs => as.length == bs.length && sameEntries as bs
      | _ => false
  | a, b =>
      match a.number?, b.number? with
      | some m, some n =>
          match m.compare? n with
          | some o => o == .eq
          | none => a == b
      | _, _ => false

def sameItems : List Json → List Json → Bool
  | [], bs => bs.isEmpty
  | _ :: _, [] => false
  | a :: as, b :: bs => same a b && sameItems as bs

/-- Whether every entry is among others. -/
def sameEntries : List (String × Json) → List (String × Json) → Bool
  | [], _ => true
  | (k, a) :: as, bs =>
      (match bs.lookup k with
        | some b => same a b
        | none => false) &&
      sameEntries as bs

end

/-! ### Order -/

def unordered {α : Type} (a b : Json) : Except Failure α :=
  .error (.unordered "<" a.typeName b.typeName)

mutual

/-- Whether a value comes before another one. -/
def less : Json → Json → Except Failure Bool
  | string s, b => match b with
      | string t => .ok (Text.comesBefore s t)
      | b => unordered (string s) b
  | array as, b => match b with
      | array bs => lessItems as bs
      | b => unordered (array as) b
  | a, b =>
      match a.number?, b.number? with
      | some m, some n => .ok (m.compare? n == some .lt)
      | _, _ => unordered a b

/-- Lists are ordered by their first items that differ, or else by their lengths. -/
def lessItems : List Json → List Json → Except Failure Bool
  | [], bs => .ok !bs.isEmpty
  | _ :: _, [] => .ok false
  | a :: as, b :: bs => if same a b then lessItems as bs else less a b

end

end QueryLint.Json
