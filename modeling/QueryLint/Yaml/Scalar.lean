import QueryLint.Datum.Basic
import QueryLint.Number.Reading
import QueryLint.Text.Base64
import QueryLint.Text.Lines
import QueryLint.Text.Lowercase
import QueryLint.Yaml.Time

/-!
# What scalars stand for

A plain scalar without a tag is taken for what it looks like: nothing, a truth value,
a whole number in one of several notations, a fraction, a day or a moment. All others
are texts.
-/

namespace QueryLint.Yaml

/-- The kinds of values that tags name. -/
inductive Tag where
  | null
  | bool
  | int
  | float
  | merge
  | timestamp
  | default
  | text
  | binary
  | sequence
  | mapping
  | set
  | pairs
  | unknown
deriving DecidableEq, Inhabited

/-- Why a text has no value. -/
inductive Fault where
  /-- It is not well-formed. -/
  | malformed
  /-- It is nested too deeply. -/
  | tooDeep
  /-- A number in it is not that of a character. -/
  | noCharacter
  /-- A number in it is far too great for its use. -/
  | overflow
  /-- A scalar that is tagged as a number is none. -/
  | number (fault : Number.Fault)
  /-- A scalar that is tagged as a number is empty. -/
  | noDigits
  /-- A scalar that is tagged as a truth value is none. -/
  | notATruth (text : String)
  /-- A scalar that is tagged as a moment is none. -/
  | notATime
  /-- A moment is not in the calendar. -/
  | calendar (fault : Calendar.Fault)
  /-- A mapping is tagged as a moment. -/
  | notText
deriving DecidableEq

namespace Tag

def stem : String := "tag:yaml.org,2002:"

/-- The kind that a full tag names. -/
def ofName (name : String) : Tag :=
  match name.dropPrefix? stem with
  | none => unknown
  | some rest =>
      match rest.toString with
      | "null" => null
      | "bool" => bool
      | "int" => int
      | "float" => float
      | "merge" => merge
      | "timestamp" => timestamp
      | "value" => default
      | "str" => text
      | "binary" => binary
      | "seq" => sequence
      | "map" => mapping
      | "set" => set
      | "omap" | "pairs" => pairs
      | _ => unknown

end Tag

namespace Scalar

open Text (isDigit)

/-- Digits may be set off by underscores. -/
def isSpaced (test : Char → Bool) (c : Char) : Bool := test c || c == '_'

def isSpacedDigit : Char → Bool := isSpaced isDigit

def isBinaryDigit (c : Char) : Bool := c == '0' || c == '1'

def isOctalDigit (c : Char) : Bool := '0' ≤ c && c ≤ '7'

/-- Some characters, at least one, that all pass a test. -/
def areAll (test : Char → Bool) (cs : List Char) : Bool := !cs.isEmpty && cs.all test

def dropSign : List Char → List Char
  | '+' :: cs => cs
  | '-' :: cs => cs
  | cs => cs

/-- One or two digits below sixty. -/
def isSixtieth : List Char → Bool
  | [c] => isDigit c
  | [c, d] => '0' ≤ c && c ≤ '5' && isDigit d
  | _ => false

/-- A number that starts with a digit. -/
def isRun : List Char → Bool
  | c :: cs => isDigit c && cs.all isSpacedDigit
  | [] => false

/-- A number that starts with a digit other than zero. -/
def isPositiveRun (cs : List Char) : Bool := isRun cs && cs.head? != some '0'

/-- A number in base sixty: the first place is free, the others are below sixty. -/
def isSexagesimal (first : List Char → Bool) (cs : List Char) : Bool :=
  match Text.cutAt ':' cs with
  | head :: rest => first head && !rest.isEmpty && rest.all isSixtieth
  | [] => false

def isInt (cs : List Char) : Bool :=
  let cs := dropSign cs
  (match cs with
    | '0' :: 'b' :: ds => areAll (isSpaced isBinaryDigit) ds
    | '0' :: 'x' :: ds => areAll (isSpaced Text.isHexDigit) ds
    | ['0'] => true
    | '0' :: ds => areAll (isSpaced isOctalDigit) ds
    | cs => isPositiveRun cs) ||
    isSexagesimal isPositiveRun cs

/-- An exponent with its sign, or nothing. -/
def isExponent : List Char → Bool
  | [] => true
  | e :: sign :: ds => (e == 'e' || e == 'E') && (sign == '+' || sign == '-') && areAll isDigit ds
  | _ => false

/-- What stands before and after the first point. -/
def cutPoint? (cs : List Char) : Option (List Char × List Char) :=
  match cs.dropWhile (· != '.') with
  | _ :: after => some (cs.takeWhile (· != '.'), after)
  | [] => none

def isInfinity (cs : List Char) : Bool :=
  ["inf", "Inf", "INF"].contains (String.ofList cs)

def isNotANumber (cs : List Char) : Bool :=
  ["nan", "NaN", "NAN"].contains (String.ofList cs)

def isFloat (cs : List Char) : Bool :=
  match cutPoint? cs with
  | none => false
  | some ([], after) =>
      isInfinity after || isNotANumber after ||
        (after.head?.any isDigit && isExponent (after.dropWhile isSpacedDigit))
  | some (before, after) =>
      let whole := dropSign before
      (whole.isEmpty && isInfinity after) ||
        (isRun whole && isExponent (after.dropWhile isSpacedDigit)) ||
        (isSexagesimal isRun whole && after.all isSpacedDigit)

def trueWords : List String := ["yes", "true", "on"]

def falseWords : List String := ["no", "false", "off"]

/-- A word in small letters, in capitals or with one capital. -/
def spellings (word : String) : List String :=
  [word, word.capitalize, String.ofList (word.toList.map Char.toUpper)]

def isBool (s : String) : Bool := ((trueWords ++ falseWords).flatMap spellings).contains s

def isNull (s : String) : Bool := ["", "~", "null", "Null", "NULL"].contains s

/-- The marks of tags, anchors and aliases, which stand for nothing by themselves. -/
def isReserved (s : String) : Bool := ["!", "&", "*"].contains s

/-- The kind of value that some characters look like. -/
def tagOfChars (cs : List Char) : Tag :=
  let s := String.ofList cs
  if isBool s then .bool
  else if isFloat cs then .float
  else if isInt cs then .int
  else if s == "<<" then .merge
  else if isNull s then .null
  else if (Time.read? true cs).isSome then .timestamp
  else if s == "=" then .default
  else if isReserved s then .unknown
  else .text

/-- The kind of value that a plain scalar looks like. A newline at the end is
overlooked. -/
def implicitTag (s : String) : Tag :=
  match s.toList.reverse with
  | ['\n'] => .text
  | '\n' :: rest => tagOfChars rest.reverse
  | _ => tagOfChars s.toList

/-! ### Values -/

def dropUnderscores (cs : List Char) : List Char := cs.filter (· != '_')

def orNumberFault {α : Type} : Except Number.Fault α → Except Fault α
  | .ok a => .ok a
  | .error fault => .error (.number fault)

def whole (base : Nat) (cs : List Char) : Except Fault Int :=
  orNumberFault (Number.whole base (String.ofList cs))

def intValue (s : String) : Except Fault Int := do
  let cs := dropUnderscores s.toList
  if cs.isEmpty then throw .noDigits
  let magnitude ←
    match dropSign cs with
    | '0' :: 'b' :: ds => whole 2 ds
    | '0' :: 'x' :: ds => whole 16 ds
    | '0' :: ds => if ds.isEmpty then pure 0 else whole 8 ('0' :: ds)
    | [] => throw .noDigits
    | cs => do
        let places ← (Text.cutAt ':' cs).mapM (whole 10)
        pure (places.foldl (fun acc d => acc * 60 + d) 0)
  return if cs.head? == some '-' then -magnitude else magnitude

/-- The number whose places in base sixty are given from the last to the first, each
worth `unit` times as much as it says. -/
def sixties (sum : Binary64) (unit : Nat) : List Binary64 → Except Fault Binary64
  | [] => .ok sum
  | x :: rest =>
      match Binary64.ofInt unit with
      | .infinite _ => .error .overflow
      | u => sixties (sum.add (x.mul u)) (unit * 60) rest

def floatValue (s : String) : Except Fault Binary64 := do
  let cs := (Text.lower (String.ofList (dropUnderscores s.toList))).toList
  if cs.isEmpty then throw .noDigits
  let part (cs : List Char) : Except Fault Binary64 :=
    orNumberFault (Number.fraction (String.ofList cs))
  let body := dropSign cs
  let magnitude ←
    if body == ['.', 'i', 'n', 'f'] then pure (.infinite false)
    else if body == ['.', 'n', 'a', 'n'] then pure .notANumber
    else if body.contains ':' then do
      sixties (.finite false 0 0) 1 (← (Text.cutAt ':' body).mapM part).reverse
    else part body
  return if cs.head? == some '-' then magnitude.negate else magnitude

def boolValue (s : String) : Except Fault Bool :=
  let word := Text.lower s
  if trueWords.contains word then .ok true
  else if falseWords.contains word then .ok false
  else .error (.notATruth word)

def timeValue (s : String) : Except Fault Datum :=
  let cs := s.toList
  let cs := if cs.getLast? == some '\n' then cs.dropLast else cs
  match Time.read? false cs with
  | none => .error .notATime
  | some (.day d) =>
      match d.check with
      | .ok d => .ok (.date d)
      | .error fault => .error (.calendar fault)
  | some (.moment m) =>
      match m.check with
      | .ok m => .ok (.moment m)
      | .error fault => .error (.calendar fault)

def binaryValue (s : String) : Except Fault Datum :=
  if s.toList.all fun c => c.toNat < 128 then
    match Text.Base64.decode? s with
    | some bytes => .ok (.bytes bytes)
    | none => .error .malformed
  else .error .malformed

/-- The value of a scalar of a kind. -/
def value (tag : Tag) (s : String) : Except Fault Datum :=
  match tag with
  | .null => .ok .null
  | .bool => do return .bool (← boolValue s)
  | .int => do return .int (← intValue s)
  | .float => do return .float (← floatValue s)
  | .timestamp => timeValue s
  | .text => .ok (.text s)
  | .binary => binaryValue s
  | _ => .error .malformed

end Scalar

end QueryLint.Yaml
