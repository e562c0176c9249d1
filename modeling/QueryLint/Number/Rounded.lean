import QueryLint.Number.Binary64

/-!
# Doubles to a given number of digits

A double as digits with a point among them: rounded to a number of significant digits
or of places after the point, or as the fewest digits that read back. Rounding is of
the exact value, a tie going to the even digit.
-/

namespace QueryLint.Binary64

/-- Digits, and the place of the point: after that many of them. -/
structure Digits where
  digits : List Char
  point : Int

namespace Digits

def zero : Digits := ⟨['0'], 1⟩

def isZero (d : Digits) : Bool := d.digits.all (· == '0')

/-- The digits at the places from `start` up to `stop`; outside the given digits there
are zeros. -/
def between (d : Digits) (start stop : Int) : List Char :=
  let before := zeros (min stop 0 - start).toNat
  let inside := (d.digits.drop start.toNat).take (stop.toNat - start.toNat)
  before ++ inside ++ zeros (stop.toNat - start.toNat - inside.length)

end Digits

/-- No double has a digit other than zero after so many digits or places. -/
def maxDigits : Nat := 1100

/-- `m * 2 ^ q` divided by `10 ^ e`, rounded. -/
def roundedAt (m : Nat) (q e : Int) : Nat :=
  roundDiv (m * pow2 q.toNat * pow10 (-e).toNat) (pow2 (-q).toNat * pow10 e.toNat)

/-- Rounded to `count` significant digits, without zeros at the end. -/
def significant (count m : Nat) (q : Int) : Digits :=
  if m = 0 then .zero
  else
    let k := decimalExponent m q
    let ds := Nat.toDigits 10 (roundedAt m q (k - (min count maxDigits : Nat)))
    ⟨dropTrailingZeros ds, k + ((ds.length : Int) - (min count maxDigits : Nat))⟩

/-- Rounded to `places` digits after the point. -/
def toPlaces (places m : Nat) (q : Int) : Digits :=
  let held := min places maxDigits
  let ds := Nat.toDigits 10 (roundedAt m q (-held))
  ⟨ds, (ds.length : Int) - held⟩

/-- The fewest digits that read back. -/
def fewest (m : Nat) (q : Int) : Digits :=
  if m = 0 then .zero
  else
    let (c, e) := shortest m q
    let ds := Nat.toDigits 10 c
    ⟨dropTrailingZeros ds, ds.length + e⟩

end QueryLint.Binary64
