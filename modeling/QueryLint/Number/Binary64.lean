/-!
# Binary floating-point numbers

Doubles as exact values: a mantissa below `2 ^ 53` times a power of two. Decimals
are rounded to the nearest double, ties going to the even mantissa. All
arithmetic is on natural numbers.
-/

namespace QueryLint

inductive Binary64 where
  /-- The value `mantissa * 2 ^ exponent`, with its sign. -/
  | finite (negative : Bool) (mantissa : Nat) (exponent : Int)
  | infinite (negative : Bool)
  | notANumber
deriving DecidableEq, Inhabited

namespace Binary64

def pow2 (n : Nat) : Nat := Nat.pow 2 n

def pow10 (n : Nat) : Nat := Nat.pow 10 n

/-- The least exponent of a double. -/
def minExponent : Int := -1074

/-- The quotient rounded to the nearest natural number, a tie to the even one. -/
def roundDiv (num den : Nat) : Nat :=
  let q := num / den
  let twice := 2 * (num % den)
  if twice < den then q
  else if den < twice then q + 1
  else if q % 2 = 0 then q else q + 1

/-- The fraction `num / den` divided by `2 ^ e`, as a fraction. -/
def scaleDown (num den : Nat) (e : Int) : Nat × Nat :=
  if e < 0 then (num * pow2 (-e).toNat, den) else (num, den * pow2 e.toNat)

/-- The exponent at which `num / den` has a mantissa of 53 bits, if the range of
doubles allows it. -/
def exponentOf (num den : Nat) : Int :=
  let guess : Int := max ((num.log2 : Int) - den.log2 - 52) minExponent
  let (n, d) := scaleDown num den guess
  if n < d * pow2 52 then max (guess - 1) minExponent else guess

/-- The double nearest to a fraction. -/
def ofRatio (negative : Bool) (num den : Nat) : Binary64 :=
  if num = 0 then .finite negative 0 0
  else
    let e := exponentOf num den
    let (n, d) := scaleDown num den e
    let m := roundDiv n d
    let (m, e) := if m = pow2 53 then (pow2 52, e + 1) else (m, e)
    if e > 971 then .infinite negative else .finite negative m e

/-- The double nearest to `digits * 10 ^ e`. Exponents far out of range are
settled without computing the power. -/
def ofDecimal (negative : Bool) (digits : Nat) (e : Int) : Binary64 :=
  let width : Int := (Nat.toDigits 10 digits).length
  if digits = 0 then .finite negative 0 0
  else if e + width > 400 then .infinite negative
  else if e + width < -400 then .finite negative 0 0
  else if e < 0 then ofRatio negative digits (pow10 (-e).toNat)
  else ofRatio negative (digits * pow10 e.toNat) 1

def ofInt (i : Int) : Binary64 := ofRatio (i < 0) i.natAbs 1

/-! ### Arithmetic -/

/-- The number with the other sign. -/
def negate : Binary64 → Binary64
  | .finite negative m e => .finite (!negative) m e
  | .infinite negative => .infinite (!negative)
  | .notANumber => .notANumber

def signed (negative : Bool) (n : Nat) : Int := if negative then -n else n

/-- The double nearest to `n * 2 ^ e`; a zero has the given sign. -/
def ofScaled (zeroSign : Bool) (n : Int) (e : Int) : Binary64 :=
  let negative := if n = 0 then zeroSign else decide (n < 0)
  if e < 0 then ofRatio negative n.natAbs (pow2 (-e).toNat)
  else ofRatio negative (n.natAbs * pow2 e.toNat) 1

/-- The sum of two doubles, rounded once. -/
def add : Binary64 → Binary64 → Binary64
  | .finite s m q, .finite t n r =>
      let e := min q r
      ofScaled (s && t) (signed s (m * pow2 (q - e).toNat) + signed t (n * pow2 (r - e).toNat)) e
  | .notANumber, _ => .notANumber
  | _, .notANumber => .notANumber
  | .infinite s, .infinite t => if s == t then .infinite s else .notANumber
  | .infinite s, .finite .. => .infinite s
  | .finite .., .infinite t => .infinite t

/-- The product of two doubles, rounded once. -/
def mul : Binary64 → Binary64 → Binary64
  | .finite s m q, .finite t n r => ofScaled (s != t) (signed (s != t) (m * n)) (q + r)
  | .notANumber, _ => .notANumber
  | _, .notANumber => .notANumber
  | .infinite s, .infinite t => .infinite (s != t)
  | .infinite s, .finite t n _ => if n = 0 then .notANumber else .infinite (s != t)
  | .finite s m _, .infinite t => if m = 0 then .notANumber else .infinite (s != t)

/-! ### The fewest digits that read back -/

/-- Compares `c * 10 ^ e` with `x * 2 ^ q`. -/
def compareDecimal (c : Nat) (e : Int) (x : Nat) (q : Int) : Ordering :=
  let left := c * pow10 e.toNat * pow2 (-q).toNat
  let right := x * pow2 q.toNat * pow10 (-e).toNat
  compare left right

/-- Rounding a decimal to a double yields the mantissa `m` at exponent `q` exactly
when it lies in this interval, in units of `2 ^ (q - 2)`; the ends belong to it
when `m` is even. -/
def roundingInterval (m : Nat) (q : Int) : Nat × Nat :=
  (if m = pow2 52 ∧ minExponent < q then 4 * m - 1 else 4 * m - 2, 4 * m + 2)

def readsBack (m : Nat) (q : Int) (c : Nat) (e : Int) : Bool :=
  let (low, high) := roundingInterval m q
  let inside : Ordering → Bool := fun o => o == .gt || (o == .eq && m % 2 == 0)
  inside (compareDecimal c e low (q - 2)) && inside (compareDecimal c e high (q - 2)).swap

/-- The number `k` with `10 ^ (k - 1) ≤ m * 2 ^ q < 10 ^ k`, for a positive double. -/
def decimalExponent (m : Nat) (q : Int) : Int :=
  let scaled := m * pow10 330 * pow2 q.toNat / pow2 (-q).toNat
  ((Nat.toDigits 10 scaled).length : Int) - 330

/-- The multiple of `10 ^ e` just below `m * 2 ^ q`. -/
def floorDecimal (m : Nat) (q e : Int) : Nat :=
  (m * pow2 q.toNat * pow10 (-e).toNat) / (pow2 (-q).toNat * pow10 e.toNat)

/-- Of the two neighbours on the grid of `10 ^ e`, the one that reads back; the
nearer if both do, the even one on a tie. -/
def gridPoint? (m : Nat) (q e : Int) : Option Nat :=
  let c := floorDecimal m q e
  match readsBack m q c e, readsBack m q (c + 1) e with
  | false, false => none
  | true, false => some c
  | false, true => some (c + 1)
  | true, true =>
      match compareDecimal (2 * c + 1) e (2 * m) q with
      | .gt => some c
      | .lt => some (c + 1)
      | .eq => some (if c % 2 = 0 then c else c + 1)

/-- Tries grids of one digit, two digits and so on. -/
def shortestFrom (m : Nat) (q k : Int) : Nat → Nat → Nat × Int
  | 0, digits => (floorDecimal m q (k - digits), k - digits)
  | tries + 1, digits =>
      match gridPoint? m q (k - digits) with
      | some c => (c, k - digits)
      | none => shortestFrom m q k tries (digits + 1)

/-- The decimal `c * 10 ^ e` with the fewest digits that reads back as
`m * 2 ^ q`. -/
def shortest (m : Nat) (q : Int) : Nat × Int := shortestFrom m q (decimalExponent m q) 17 1

/-! ### Texts -/

def zeros (n : Nat) : List Char := List.replicate n '0'

def dropTrailingZeros (ds : List Char) : List Char := (ds.reverse.dropWhile (· == '0')).reverse

/-- A decimal exponent with its sign and at least two digits. -/
def exponentText (e : Int) : List Char :=
  let ds := Nat.toDigits 10 e.natAbs
  (if e < 0 then '-' else '+') :: (if ds.length < 2 then '0' :: ds else ds)

/-- The digits `ds` with the point after the first `point` of them: positional from
`10 ^ (-4)` up to `10 ^ 16`, otherwise with an exponent. `whole` ends a positional
integer. -/
def layoutDigits (ds : List Char) (point : Int) (whole : List Char) : List Char :=
  if -4 < point ∧ point ≤ 16 then
    if point ≤ 0 then '0' :: '.' :: zeros (-point).toNat ++ ds
    else if (ds.length : Int) ≤ point then ds ++ zeros (point.toNat - ds.length) ++ whole
    else ds.take point.toNat ++ '.' :: ds.drop point.toNat
  else
    let tail := ds.drop 1
    ds.take 1 ++ (if tail.isEmpty then [] else '.' :: tail) ++ 'e' :: exponentText (point - 1)

def magnitudeText (m : Nat) (q : Int) (whole : List Char) : List Char :=
  if m = 0 then '0' :: whole
  else
    let (c, e) := shortest m q
    let ds := Nat.toDigits 10 c
    layoutDigits (dropTrailingZeros ds) (ds.length + e) whole

def signText (negative : Bool) : List Char := if negative then ['-'] else []

/-- The shortest text that reads back, integers ending in `whole`. -/
def textWith (whole : List Char) : Binary64 → String
  | .finite negative m q => String.ofList (signText negative ++ magnitudeText m q whole)
  | .infinite negative => String.ofList (signText negative ++ ['i', 'n', 'f'])
  | .notANumber => "nan"

/-- The shortest text that reads back; a whole number ends in `.0`. -/
def text (x : Binary64) : String := textWith ['.', '0'] x

/-- The shortest text that reads back; a whole number has no point. -/
def bareText (x : Binary64) : String := textWith [] x

/-- A decimal with `places` digits after the point, the exact value rounded to
nearest and a tie to even. -/
def fixed (places : Nat) : Binary64 → String
  | .finite negative m q =>
      let n := roundDiv (m * pow2 q.toNat * pow10 places) (pow2 (-q).toNat)
      let ds := Nat.toDigits 10 n
      let ds := zeros (places + 1 - ds.length) ++ ds
      let whole := ds.take (ds.length - places)
      let part := ds.drop (ds.length - places)
      String.ofList (signText negative ++ whole ++ (if places = 0 then [] else '.' :: part))
  | .infinite negative => String.ofList (signText negative ++ ['i', 'n', 'f'])
  | .notANumber => "nan"

end Binary64

end QueryLint
