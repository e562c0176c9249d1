import QueryLint.Text.Quoted

/-!
# Faults of message templates

Every way in which a template cannot be filled in, and the words for it.
-/

namespace QueryLint.Template

/-- Why a template cannot be filled in. -/
inductive Fault where
  | singleOpen
  | singleClose
  | openInName
  | unclosedField
  | missingConversion
  | colonExpected
  | unclosedLayout
  | unknownConversion (c : Char)
  | nestedTooDeep
  | automaticAfterManual
  | manualAfterAutomatic
  | tooManyDigits
  | emptySelector
  | misplacedSelector
  | signInLayout
  | spaceInLayout
  | zeroSignInLayout
  | alternateInLayout
  | numericAlignment
  | missingLength
  | bothSeparators
  | separatorWith (separator type : Char)
  /-- The layout of a value of the named type is not understood. -/
  | badLayout (layout subject : String)
  /-- Values of the named type are not written in that way. -/
  | unknownType (type : Char) (subject : String)
  | lengthInInteger
  | zeroSignInInteger
  | signWithCharacter
  | alternateWithCharacter
  | lengthTooBig
  /-- The number is no code point. -/
  | notACharacter
  /-- The number is far beyond code points. -/
  | tooLargeForCharacter
  /-- The whole number is beyond the doubles. -/
  | tooLargeForDouble
  /-- There is no argument of that position. -/
  | noArgument (position : Nat)
  /-- There is no argument of that name. -/
  | noName (name : String)
  /-- The argument has no character at that index. -/
  | noCharacter
  /-- A list has no item at that index. -/
  | noItem (type : String)
  /-- A mapping has no such key. -/
  | noKey (key : String)
  /-- The argument has no such member; the first text says what it is. -/
  | noMember (subject name : String)
  /-- Items are selected by number only. -/
  | badIndex (type : String)
  /-- Something has no items at all; the text says what it is. -/
  | noItems (subject : String)
  /-- Something that cannot be laid out has a layout. -/
  | noLayout (type : String)
  /-- The text is too long to be held. -/
  | outOfMemory
deriving DecidableEq

namespace Fault

/-- A character as messages quote it: those after a blank up to the last one as they
are, others by their number. -/
def quotedChar (last : Nat) (c : Char) : String :=
  if 32 < c.toNat ∧ c.toNat ≤ last then c.toString
  else "\\x" ++ String.ofList (Nat.toDigits 16 c.toNat)

def message : Fault → String
  | singleOpen => "Single '\x7b' encountered in format string"
  | singleClose => "Single '\x7d' encountered in format string"
  | openInName => "unexpected '\x7b' in field name"
  | unclosedField => "expected '\x7d' before end of string"
  | missingConversion => "end of string while looking for conversion specifier"
  | colonExpected => "expected ':' after conversion specifier"
  | unclosedLayout => "unmatched '\x7b' in format spec"
  | unknownConversion c => "Unknown conversion specifier " ++ quotedChar 126 c
  | nestedTooDeep => "Max string recursion exceeded"
  | automaticAfterManual =>
      "cannot switch from manual field specification to automatic field numbering"
  | manualAfterAutomatic =>
      "cannot switch from automatic field numbering to manual field specification"
  | tooManyDigits => "Too many decimal digits in format string"
  | emptySelector => "Empty attribute in format string"
  | misplacedSelector => "Only '.' or '[' may follow ']' in format field specifier"
  | signInLayout => "Sign not allowed in string format specifier"
  | spaceInLayout => "Space not allowed in string format specifier"
  | zeroSignInLayout => "Negative zero coercion (z) not allowed in string format specifier"
  | alternateInLayout => "Alternate form (#) not allowed in string format specifier"
  | numericAlignment => "'=' alignment not allowed in string format specifier"
  | missingLength => "Format specifier missing precision"
  | bothSeparators => "Cannot specify both ',' and '_'."
  | separatorWith s t =>
      "Cannot specify '" ++ s.toString ++ "' with '" ++ quotedChar 127 t ++ "'."
  | badLayout layout subject =>
      "Invalid format specifier '" ++ layout ++ "' for object of type '" ++ subject ++ "'"
  | unknownType t subject =>
      "Unknown format code '" ++ quotedChar 127 t ++ "' for object of type '" ++ subject ++ "'"
  | lengthInInteger => "Precision not allowed in integer format specifier"
  | zeroSignInInteger => "Negative zero coercion (z) not allowed in integer format specifier"
  | signWithCharacter => "Sign not allowed with integer format specifier 'c'"
  | alternateWithCharacter => "Alternate form (#) not allowed with integer format specifier 'c'"
  | lengthTooBig => "precision too big"
  | notACharacter => "%c arg not in range(0x110000)"
  | tooLargeForCharacter => "Python int too large to convert to C long"
  | tooLargeForDouble => "int too large to convert to float"
  | noArgument position =>
      "Replacement index " ++ toString position ++ " out of range for positional args tuple"
  | noName name => Text.quoted name
  | noCharacter => "string index out of range"
  | noItem type => type ++ " index out of range"
  | noKey key => key
  | noMember subject name => subject ++ " has no attribute '" ++ name ++ "'"
  | badIndex type =>
      if type == "str" then "string indices must be integers, not 'str'"
      else type ++ " indices must be integers or slices, not str"
  | noItems subject => subject ++ " is not subscriptable"
  | noLayout type => "unsupported format string passed to " ++ type ++ ".__format__"
  | outOfMemory => ""

end Fault

end QueryLint.Template
