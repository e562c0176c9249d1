import QueryLint.Text.Blank
import QueryLint.Text.Digits
import QueryLint.Text.Lines
import QueryLint.Text.NameTable

/-!
# Names of characters

Characters found by the names the standard gives them. Most names stand in a
table; ideographs are named by their code points, and syllables of the Korean
script by the sounds they are composed of. Letter case does not matter, except in
the names of unified ideographs and syllables.
-/

namespace QueryLint.Text

/-! ### The table -/

/-- The length given by a digit in base thirty-six. -/
def keptLength (c : Char) : Nat :=
  if isDigit c then c.toNat - '0'.toNat else c.toNat - 'A'.toNat + 10

def expandEntry (entry : List Char) : List Char :=
  entry.flatMap fun c => (nameFragment c).toList

/-- Searches entries in order. `code` is the code point of the next name, and `last` is the
name before it. Yields the code point, or what the search has come to. -/
def findEntry (name : List Char) :
    (code : Nat) → (last : List Char) → List (List Char) → Except Nat (Nat × List Char)
  | code, last, [] => .ok (code, last)
  | code, last, entry :: rest =>
      match trimLeft entry with
      | [] => findEntry name code last rest
      | '@' :: digits => findEntry name (natOfDigits 16 digits) last rest
      | kept :: fragment =>
          let own := last.take (keptLength kept) ++ expandEntry fragment
          if own = name then .error code else findEntry name (code + 1) own rest

/-- Searches the texts of a table in order. -/
def findInTexts (name : List Char) : (code : Nat) → (last : List Char) → List String → Option Nat
  | _, _, [] => none
  | code, last, text :: rest =>
      match findEntry name code last (cutAt ';' text.toList) with
      | .error found => some found
      | .ok (code, last) => findInTexts name code last rest

/-- The code point an alias names. -/
def findAlias (name : List Char) : Option Nat :=
  (cutAt ';' nameAliases.toList).findSome? fun entry =>
    match cutAt ' ' (trimLeft entry) with
    | digits :: _ =>
        if (trimLeft entry).drop (digits.length + 1) = name then some (natOfDigits 16 digits)
        else none
    | [] => none

/-! ### Names formed by a rule -/

/-- Code points of the unified ideographs, by their first and last. -/
def unifiedIdeographs : List (Nat × Nat) :=
  [(0x3400, 0x4dbf), (0x4e00, 0x9fff), (0x20000, 0x2a6df), (0x2a700, 0x2b738),
   (0x2b740, 0x2b81d), (0x2b820, 0x2cea1), (0x2ceb0, 0x2ebe0), (0x30000, 0x3134a)]

/-- Characters named by a common beginning and their code point. -/
def numberedNames : List (String × List (Nat × Nat)) :=
  [("CJK COMPATIBILITY IDEOGRAPH-", [(0xf900, 0xfa6d), (0xfa70, 0xfad9), (0x2f800, 0x2fa1d)]),
   ("KHITAN SMALL SCRIPT CHARACTER-", [(0x18b00, 0x18cd5)]),
   ("NUSHU CHARACTER-", [(0x1b170, 0x1b2fb)])]

def inRanges (ranges : List (Nat × Nat)) (n : Nat) : Bool :=
  ranges.any fun (first, last) => first ≤ n && n ≤ last

/-- What follows a fixed beginning. -/
def behind? (beginning : String) (name : List Char) : Option (List Char) :=
  if beginning.toList.isPrefixOf name then some (name.drop beginning.length) else none

def isUpperHexDigit (c : Char) : Bool := isDigit c || ('A' ≤ c && c ≤ 'F')

/-- A unified ideograph by its code point in four or five digits. -/
def ideograph? (digits : List Char) : Option Nat :=
  let n := natOfDigits 16 digits
  if (digits.length == 4 || digits.length == 5) && digits.all isUpperHexDigit &&
      inRanges unifiedIdeographs n then some n
  else none

/-- A character whose name ends in its own code point, without a leading zero. -/
def numbered? (name : List Char) : Option Nat :=
  numberedNames.findSome? fun (beginning, ranges) => do
    let digits ← behind? beginning name
    let n := natOfDigits 16 digits
    if digits.all isUpperHexDigit && inRanges ranges n && digits.head? != some '0' then some n
    else none

/-- A variation selector by its abbreviation and number. -/
def selector? (name : List Char) : Option Nat := do
  let digits ← behind? "VS" name
  let n := natOfDigits 10 digits
  if digits.isEmpty || !digits.all isDigit || digits.head? == some '0' then none
  else if 1 ≤ n ∧ n ≤ 16 then some (0xfe00 + n - 1)
  else if 17 ≤ n ∧ n ≤ 256 then some (0xe0100 + n - 17)
  else none

def leadingSounds : List String :=
  ["G", "GG", "N", "D", "DD", "R", "M", "B", "BB", "S", "SS", "", "J", "JJ", "C", "K", "T", "P",
   "H"]

def vowelSounds : List String :=
  ["A", "AE", "YA", "YAE", "EO", "E", "YEO", "YE", "O", "WA", "WAE", "OE", "YO", "U", "WEO", "WE",
   "WI", "YU", "EU", "YI", "I"]

def trailingSounds : List String :=
  ["", "G", "GG", "GS", "N", "NJ", "NH", "D", "L", "LG", "LM", "LB", "LS", "LT", "LP", "LH", "M",
   "B", "BS", "S", "SS", "NG", "J", "C", "K", "T", "P", "H"]

/-- The longest sound at the head of a name: its number among the sounds, and what follows. -/
def longestSound (sounds : List String) (name : List Char) : Option (Nat × List Char) :=
  (sounds.zipIdx.foldl (fun best (sound, index) =>
    if sound.toList.isPrefixOf name then
      match best with
      | some (length, _) => if length < sound.length then some (sound.length, index) else best
      | none => some (sound.length, index)
    else best) none).map fun (length, index) => (index, name.drop length)

/-- A syllable of the Korean script by its sounds. -/
def syllable? (name : List Char) : Option Nat := do
  let (lead, rest) ← longestSound leadingSounds name
  let (vowel, rest) ← longestSound vowelSounds rest
  let (trail, rest) ← longestSound trailingSounds rest
  if rest.isEmpty then some (0xac00 + (lead * 21 + vowel) * 28 + trail) else none

/-! ### Search -/

/-- The code point of the character with the given name. -/
def namedChar? (name : List Char) : Option Nat :=
  match behind? "HANGUL SYLLABLE " name with
  | some sounds => syllable? sounds
  | none =>
      match behind? "CJK UNIFIED IDEOGRAPH-" name with
      | some digits => ideograph? digits
      | none =>
          let name := name.map Char.toUpper
          ((findAlias name).or ((selector? name).or (numbered? name))).or
            (findInTexts name 0 [] nameTable)

end QueryLint.Text
