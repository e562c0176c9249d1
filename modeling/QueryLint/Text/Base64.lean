import QueryLint.Text.Identifier

/-!
# Bytes in base sixty-four

Four characters stand for three bytes. Characters outside the alphabet are passed
over; the sign for padding ends the text once it fills up a group of four.
-/

namespace QueryLint.Text.Base64

def digit? (c : Char) : Option Nat :=
  if 'A' ≤ c && c ≤ 'Z' then some (c.toNat - 'A'.toNat)
  else if 'a' ≤ c && c ≤ 'z' then some (c.toNat - 'a'.toNat + 26)
  else if isDigit c then some (c.toNat - '0'.toNat + 52)
  else if c == '+' then some 62
  else if c == '/' then some 63
  else none

/-- Reads from within a group of which `place` characters were read, with the bits
that are left of the last one and the number of signs for padding right before. -/
def decodeFrom : (place left pads : Nat) → List Char → Option (List UInt8)
  | place, _, _, [] => if place = 0 then some [] else none
  | place, left, pads, c :: rest =>
      if c == '=' then
        if 2 ≤ place && 4 ≤ place + pads + 1 then some []
        else decodeFrom place left (if 2 ≤ place then pads + 1 else pads) rest
      else
        match digit? c with
        | none => decodeFrom place left pads rest
        | some d =>
            match place with
            | 0 => decodeFrom 1 d 0 rest
            | 1 => (decodeFrom 2 (d % 16) 0 rest).map (UInt8.ofNat (left * 4 + d / 16) :: ·)
            | 2 => (decodeFrom 3 (d % 4) 0 rest).map (UInt8.ofNat (left * 16 + d / 4) :: ·)
            | _ => (decodeFrom 0 0 0 rest).map (UInt8.ofNat (left * 64 + d) :: ·)

/-- The bytes of a text, if its last group is complete. -/
def decode? (s : String) : Option (List UInt8) := decodeFrom 0 0 0 s.toList

end QueryLint.Text.Base64
