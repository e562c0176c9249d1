import QueryLint.Number.Rounded
import QueryLint.Template.Layout
import QueryLint.Text.CodePoint

/-!
# Layout of a number in a field

A number is first written as a numeral: its sign, a mark of the base, digits, and what
follows them. The layout then groups the digits and fills the field, and may put the
filling between the sign and the digits.
-/

namespace QueryLint.Template

structure Numeral where
  negative : Bool
  mark : List Char
  digits : List Char
  tail : List Char

/-- How digits are grouped. -/
structure Grouping where
  size : Nat
  separator : Char

namespace Grouping

/-- Digits from the last to the first in groups, with zeros after them until the result
has `width` characters. -/
def reversed (g : Grouping) : (fuel : Nat) → List Char → (width : Nat) → List Char
  | 0, _, _ => []
  | fuel + 1, ds, width =>
      let size := min g.size (max (max ds.length width) 1)
      let group := ds.take size ++ Binary64.zeros (size - ds.length)
      let rest := ds.drop size
      if rest.isEmpty && width ≤ size then group
      else group ++ g.separator :: reversed g fuel rest (width - size - 1)

/-- Digits in groups, with zeros before them up to a width. A group that is begun for
the sake of the width has at least one zero. -/
def apply (g : Grouping) (ds : List Char) (width : Nat) : List Char :=
  (g.reversed (ds.length + width + 1) ds.reverse width).reverse

end Grouping

/-- Digits in groups if there are groups, with zeros before them up to a width. -/
def groupedDigits (grouping : Option Grouping) (ds : List Char) (width : Nat) : List Char :=
  if ds.isEmpty then []
  else
    match grouping with
    | some g => g.apply ds width
    | none => Binary64.zeros (width - ds.length) ++ ds

namespace Layout

/-- Digits of a base that is a power of two are grouped by four, others by three. -/
def grouping (l : Layout) : Option Grouping :=
  l.separator.map fun s =>
    ⟨if [some 'b', some 'o', some 'x', some 'X'].contains l.type then 4 else 3, s⟩

/-- Numbers stand on the right, and behind zeros only their sign stands before them. -/
def numberAlignment (l : Layout) : Alignment :=
  l.alignment.getD (if l.zeroPadded then .numeric else .right)

def signText (l : Layout) (negative : Bool) : List Char :=
  if negative then ['-']
  else
    match l.sign with
    | some '+' => ['+']
    | some ' ' => [' ']
    | _ => []

/-- A numeral in a field. -/
def numeralIn (l : Layout) (n : Numeral) : List Char :=
  let sign := l.signText n.negative
  let width := l.width.getD 0
  let other := sign.length + n.mark.length + n.tail.length
  let isFilled := l.fillChar = '0' && l.numberAlignment = .numeric
  let digits := groupedDigits l.grouping n.digits (if isFilled then width - other else 0)
  let missing := width - (other + digits.length)
  let body := digits ++ n.tail
  if l.numberAlignment = .numeric then
    sign ++ n.mark ++ List.replicate missing l.fillChar ++ body
  else
    let (before, after) := sides l.numberAlignment missing
    List.replicate before l.fillChar ++ sign ++ n.mark ++ body ++ List.replicate after l.fillChar

end Layout

/-! ### Doubles -/

/-- How a double is written: with an exponent always, never, or for very large and very
small numbers. -/
inductive DoubleStyle where
  | scientific
  | positional
  | general
deriving DecidableEq

namespace DoubleStyle

/-- The style that a type names, if it names one. -/
def ofType? (t : Char) : Option DoubleStyle :=
  if t == 'e' || t == 'E' then some scientific
  else if t == 'f' || t == 'F' || t == '%' then some positional
  else if t == 'g' || t == 'G' || t == 'n' then some general
  else none

end DoubleStyle

/-- The digits of a double as they are written out. -/
structure DoublePlan where
  digits : Binary64.Digits
  hasExponent : Bool
  /-- The place after the last digit. -/
  stop : Int
  /-- Whether at least one digit follows the point of a positional numeral. -/
  hasPlace : Bool

namespace DoublePlan

/-- Digits and what follows them, with the point kept or not when it is the last. -/
def write (p : DoublePlan) (keepsPoint : Bool) : List Char × List Char :=
  let point := if p.hasExponent then 1 else p.digits.point
  let start := if point ≤ 0 then point - 1 else 0
  let stop := max p.stop (if p.hasPlace && !p.hasExponent then point + 1 else point)
  let places := p.digits.between point stop
  let exponent :=
    if p.hasExponent then 'e' :: Binary64.exponentText (p.digits.point - 1) else []
  (p.digits.between start point,
    (if places.isEmpty && !keepsPoint then [] else '.' :: places) ++ exponent)

/-- The usual number of digits. -/
def usualLength : Nat := 6

/-- The plan for `m * 2 ^ q`. Without a style the fewest digits are written, or as many
as the layout says. -/
def make (style : Option DoubleStyle) (length : Option Nat) (alternate : Bool) (m : Nat) (q : Int) :
    DoublePlan :=
  let count := length.getD usualLength
  match style, length with
  | some .scientific, _ => ⟨Binary64.significant (count + 1) m q, true, count + 1, false⟩
  | some .positional, _ =>
      let d := Binary64.toPlaces count m q
      ⟨d, false, d.point + count, false⟩
  | none, none =>
      let d := Binary64.fewest m q
      ⟨d, d.point ≤ -4 || 16 < d.point, d.digits.length, true⟩
  | style, _ =>
      let count := max count 1
      let d := Binary64.significant count m q
      let most : Int := if style.isNone then count - 1 else count
      ⟨d, d.point ≤ -4 || most < d.point, if alternate then count else d.digits.length,
        style.isNone⟩

end DoublePlan

/-- The numeral of a double, given the type and the length of its layout. -/
def doubleNumeral (l : Layout) (x : Binary64) : Numeral :=
  let x := if l.type = some '%' then x.mul (.ofInt 100) else x
  let mark := if l.type = some '%' then ['%'] else []
  let inCase : List Char → List Char := fun cs =>
    if l.type.any (·.isUpper) then cs.map (·.toUpper) else cs
  match x with
  | .notANumber => ⟨false, [], [], inCase ['n', 'a', 'n'] ++ mark⟩
  | .infinite negative => ⟨negative, [], [], inCase ['i', 'n', 'f'] ++ mark⟩
  | .finite negative m q =>
      let plan := DoublePlan.make (l.type.bind DoubleStyle.ofType?) l.length l.alternate m q
      let (digits, tail) := plan.write l.alternate
      ⟨negative && !(l.unsignedZero && plan.digits.isZero), [], digits, inCase tail ++ mark⟩

/-- The longest length of a double. -/
def maxLength : Nat := 2147483647

def layOutDoubleIn (l : Layout) (x : Binary64) : Except Fault (List Char) :=
  if maxLength < l.length.getD 0 then .error .lengthTooBig
  else if maxWidth < max (l.width.getD 0) (l.length.getD 0) then .error .outOfMemory
  else .ok (l.numeralIn (doubleNumeral l x))

/-- A double in a field. -/
def layOutDouble (layout : List Char) (x : Binary64) : Except Fault (List Char) := do
  let l ← readLayout "float" none layout
  match l.type with
  | some t =>
      if (DoubleStyle.ofType? t).isSome then layOutDoubleIn l x
      else .error (.unknownType t "float")
  | none => layOutDoubleIn l x

/-! ### Whole numbers -/

/-- A way to write whole numbers: in a base, with its mark, in capitals or not. -/
structure Base where
  radix : Nat
  mark : List Char
  isUpper : Bool

def Base.ofType? (t : Char) : Option Base :=
  if t == 'd' || t == 'n' then some ⟨10, [], false⟩
  else if t == 'b' then some ⟨2, ['0', 'b'], false⟩
  else if t == 'o' then some ⟨8, ['0', 'o'], false⟩
  else if t == 'x' then some ⟨16, ['0', 'x'], false⟩
  else if t == 'X' then some ⟨16, ['0', 'X'], true⟩
  else none

def Base.numeral (b : Base) (alternate : Bool) (n : Int) : Numeral :=
  let ds := Nat.toDigits b.radix n.natAbs
  ⟨n < 0, if alternate then b.mark else [], if b.isUpper then ds.map (·.toUpper) else ds, []⟩

/-- The numeral that is the character of a code point. -/
def characterNumeral (l : Layout) (n : Int) : Except Fault Numeral :=
  if l.sign.isSome then .error .signWithCharacter
  else if l.alternate then .error .alternateWithCharacter
  else if n < -9223372036854775808 ∨ 9223372036854775807 < n then .error .tooLargeForCharacter
  else if n < 0 ∨ 0x10FFFF < n then .error .notACharacter
  else .ok ⟨false, [], [], [Text.charOfCodePoint n.toNat]⟩

/-- A whole number in a field; truth values are laid out like them. -/
def layOutInteger (subject : String) (layout : List Char) (n : Int) :
    Except Fault (List Char) := do
  let l ← readLayout subject (some 'd') layout
  let t := l.type.getD 'd'
  match Base.ofType? t, t == 'c', (DoubleStyle.ofType? t).isSome with
  | none, false, true =>
      match Binary64.ofInt n with
      | .infinite _ => .error .tooLargeForDouble
      | x => layOutDoubleIn l x
  | none, false, false => .error (.unknownType t subject)
  | base?, _, _ =>
      if l.length.isSome then .error .lengthInInteger
      else if l.unsignedZero then .error .zeroSignInInteger
      else do
        let numeral ← match base? with
          | some base => pure (base.numeral l.alternate n)
          | none => characterNumeral l n
        if maxWidth < l.width.getD 0 then .error .outOfMemory
        else return l.numeralIn numeral

end QueryLint.Template
