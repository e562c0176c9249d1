/-!
# Slices by signed positions

A position counts from the left when it is not negative and from the right end
otherwise; a position outside the list stands for the nearer end.
-/

namespace QueryLint.Text

/-- The place a signed position denotes in a list of length `n`. -/
def sliceBound (n : Nat) (i : Int) : Nat :=
  if i < 0 then ((n : Int) + i).toNat else min i.toNat n

/-- The elements from position `i` up to position `j`. -/
def slice {α : Type} (xs : List α) (i j : Int) : List α :=
  (xs.take (sliceBound xs.length j)).drop (sliceBound xs.length i)

/-- The elements from position `i` on. -/
def sliceFrom {α : Type} (xs : List α) (i : Int) : List α :=
  xs.drop (sliceBound xs.length i)

/-- The elements up to position `j`. -/
def sliceTo {α : Type} (xs : List α) (j : Int) : List α :=
  xs.take (sliceBound xs.length j)

/-- The element at a signed position, if there is one. -/
def signedGet? {α : Type} (xs : List α) (i : Int) : Option α :=
  if 0 ≤ i then xs[i.toNat]?
  else if 0 ≤ (xs.length : Int) + i then xs[((xs.length : Int) + i).toNat]?
  else none

end QueryLint.Text
