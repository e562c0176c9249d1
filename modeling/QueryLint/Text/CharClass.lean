/-!
# Classes of characters as runs

Outside ASCII a class of characters is written as the lengths of its runs: the
numbers alternate between characters outside the class and characters inside
it, starting at code point zero. A code point belongs to the class exactly when
an odd number of runs start at or before it.
-/

namespace QueryLint.Text

/-- The value of a digit in base thirty-six, and zero for anything else. -/
def baseDigit (c : Char) : Nat :=
  if '0' ≤ c ∧ c ≤ '9' then c.toNat - '0'.toNat
  else if 'a' ≤ c ∧ c ≤ 'z' then c.toNat - 'a'.toNat + 10
  else 0

/-- Blank-separated numerals in base thirty-six, read from the left. -/
def numerals (s : String) : List Nat :=
  let step : List Nat × Option Nat → Char → List Nat × Option Nat := fun (done, open?) c =>
    if c = ' ' || c = '\n' then
      match open? with
      | none => (done, none)
      | some n => (n :: done, none)
    else (done, some (open?.getD 0 * 36 + baseDigit c))
  match s.toList.foldl step ([], none) with
  | (done, none) => done.reverse
  | (done, some n) => (n :: done).reverse

/-- The points at which runs of the given lengths change over. -/
def runStarts : Nat → List Nat → List Nat
  | _, [] => []
  | at_, n :: rest => (at_ + n) :: runStarts (at_ + n) rest

/-- Membership in a class given by its ascending change-over points. -/
def inRuns (starts : List Nat) (c : Char) : Bool :=
  (starts.takeWhile (· ≤ c.toNat)).length % 2 == 1

end QueryLint.Text
