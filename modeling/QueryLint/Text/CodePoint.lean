/-!
# Code points

Texts may hold halves of surrogate pairs that stand alone. Such a half has no
character; a private character of the last plane stands for it, so that lengths,
orders of entries and equality are those of the code points.

The 2048 characters from U+10D800 to U+10DFFF are taken for this, and no text holds
them for themselves. What is said of all texts is said of texts of halves and of all
other characters.
-/

namespace QueryLint.Text

/-- Code points reserved for the halves of surrogate pairs. -/
def isSurrogate (n : Nat) : Bool := 0xD800 ≤ n && n < 0xE000

/-- The character for a code point, a surrogate half included. -/
def charOfCodePoint (n : Nat) : Char :=
  if isSurrogate n then Char.ofNat (0x100000 + n) else Char.ofNat n

/-- Whether a character stands for a surrogate half. -/
def isHalf (c : Char) : Bool := 0x10D800 ≤ c.toNat && c.toNat < 0x10E000

/-- The code point a character stands for. -/
def codePoint (c : Char) : Nat := if isHalf c then c.toNat - 0x100000 else c.toNat

/-- The code points of a text. -/
def codePoints (s : String) : List Nat := s.toList.map codePoint

/-- Whether a text comes before another in the order of code points. -/
def comesBefore (a b : String) : Bool := decide (codePoints a < codePoints b)

/-- Whether a text is the same as another or comes before it. -/
def comesNoLater (a b : String) : Bool := !comesBefore b a

/-- Code points as characters, where the two halves of a pair make one character. -/
def charsOfUnits : List Nat → List Char
  | high :: low :: rest =>
      if 0xD800 ≤ high ∧ high < 0xDC00 ∧ 0xDC00 ≤ low ∧ low < 0xE000 then
        Char.ofNat (0x10000 + (high - 0xD800) * 0x400 + (low - 0xDC00)) :: charsOfUnits rest
      else charOfCodePoint high :: charsOfUnits (low :: rest)
  | [n] => [charOfCodePoint n]
  | [] => []

end QueryLint.Text
