/-!
# UTF-8

Columns of a line in bytes and in characters, and the decoding of bytes: each
maximal ill-formed stretch becomes one replacement character.
-/

namespace QueryLint.Text

/-- The number of characters that end at or before byte `b`. -/
def charColumn : List Char → Nat → Nat
  | [], _ => 0
  | c :: rest, b => if c.utf8Size ≤ b then charColumn rest (b - c.utf8Size) + 1 else 0

/-- The character that stands for ill-formed bytes. -/
def replacement : Char := '�'

/-- What a first byte announces: how many bytes follow, the bits it brings, and
the range the next byte must lie in. -/
structure LeadByte where
  more : Nat
  bits : Nat
  low : Nat
  high : Nat

def leadByte? (b : Nat) : Option LeadByte :=
  if b < 0x80 then some ⟨0, b, 0, 0⟩
  else if b < 0xC2 then none
  else if b < 0xE0 then some ⟨1, b - 0xC0, 0x80, 0xBF⟩
  else if b = 0xE0 then some ⟨2, 0, 0xA0, 0xBF⟩
  else if b = 0xED then some ⟨2, 0xD, 0x80, 0x9F⟩
  else if b < 0xF0 then some ⟨2, b - 0xE0, 0x80, 0xBF⟩
  else if b = 0xF0 then some ⟨3, 0, 0x90, 0xBF⟩
  else if b < 0xF4 then some ⟨3, b - 0xF0, 0x80, 0xBF⟩
  else if b = 0xF4 then some ⟨3, 4, 0x80, 0x8F⟩
  else none

/-- Decoding in the middle of a character: `need` bytes are still to come, the
next one between `low` and `high`. -/
structure Partial where
  need : Nat
  bits : Nat
  low : Nat
  high : Nat

/-- Decodes byte by byte, with `mark` in the place of each ill-formed stretch. A byte
that cannot continue an open character closes it with a mark and is then read afresh. -/
def decodeFrom (mark : List Char) : Option Partial → List UInt8 → List Char
  | none, [] => []
  | some _, [] => mark
  | state, b :: rest =>
      let n := b.toNat
      let fresh : Unit → List Char := fun _ =>
        match leadByte? n with
        | none => mark ++ decodeFrom mark none rest
        | some ⟨0, bits, _, _⟩ => Char.ofNat bits :: decodeFrom mark none rest
        | some ⟨more, bits, low, high⟩ => decodeFrom mark (some ⟨more, bits, low, high⟩) rest
      match state with
      | none => fresh ()
      | some p =>
          if p.low ≤ n ∧ n ≤ p.high then
            let bits := p.bits * 64 + (n - 0x80)
            if p.need = 1 then Char.ofNat bits :: decodeFrom mark none rest
            else decodeFrom mark (some ⟨p.need - 1, bits, 0x80, 0xBF⟩) rest
          else mark ++ fresh ()

/-- Total decoding of bytes. -/
def decodeUtf8 (bytes : List UInt8) : List Char := decodeFrom [replacement] none bytes

/-! ### Ill-formed bytes -/

/-- The first ill-formed stretch of some bytes: its first byte, where it starts and
ends, and what is wrong with it. -/
structure Utf8Fault where
  byte : Nat
  first : Nat
  last : Nat
  reason : String
deriving DecidableEq

/-- A character whose bytes have not all been seen: where it started, and with which
byte. -/
structure OpenChar where
  start : Nat
  byte : Nat
  rest : Partial

def firstFaultFrom : Nat → Option OpenChar → List UInt8 → Option Utf8Fault
  | _, none, [] => none
  | position, some o, [] => some ⟨o.byte, o.start, position - 1, "unexpected end of data"⟩
  | position, none, b :: rest =>
      match leadByte? b.toNat with
      | none => some ⟨b.toNat, position, position, "invalid start byte"⟩
      | some ⟨0, _, _, _⟩ => firstFaultFrom (position + 1) none rest
      | some ⟨more, bits, low, high⟩ =>
          firstFaultFrom (position + 1) (some ⟨position, b.toNat, more, bits, low, high⟩) rest
  | position, some o, b :: rest =>
      if o.rest.low ≤ b.toNat ∧ b.toNat ≤ o.rest.high then
        if o.rest.need = 1 then firstFaultFrom (position + 1) none rest
        else
          firstFaultFrom (position + 1)
            (some { o with rest := ⟨o.rest.need - 1, o.rest.bits, 0x80, 0xBF⟩ }) rest
      else some ⟨o.byte, o.start, position - 1, "invalid continuation byte"⟩

/-- What is wrong first with some bytes, if they are not well-formed. -/
def firstFault? (bytes : List UInt8) : Option Utf8Fault := firstFaultFrom 0 none bytes

end QueryLint.Text
