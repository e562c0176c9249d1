import QueryLint.Text.CodePoint
import QueryLint.Text.Utf8
import QueryLint.Yaml.Place
import QueryLint.Yaml.Scalar

/-!
# Tokens of YAML

The tokens of a text, and the reading of those that are more than a mark: scalars of
all styles, anchors, tags and directives. Each reader returns the token and the
place after it, or nothing if the text is wrong. Where a text stops being right, the
fault is the last token.
-/

namespace QueryLint.Yaml

inductive Token where
  | version (major minor : Nat)
  | tagStem (handle stem : String)
  | directive
  | documentStart
  | documentEnd
  | sequenceStart
  | mappingStart
  | blockEnd
  | openBracket
  | closeBracket
  | openBrace
  | closeBrace
  | entry
  | comma
  | key
  | value
  | alias (name : String)
  | anchor (name : String)
  | tag (handle : Option String) (rest : String)
  | scalar (text : String) (isPlain : Bool)
  | endOfText
  | fault (f : Fault)
deriving DecidableEq, Inhabited

namespace Token

/-! ### Names and tags -/

/-- A name of at least one character. -/
def name? (p : Place) : Option (String × Place) :=
  match p.takeWhile isNameChar with
  | ([], _) => none
  | (cs, p) => some (String.ofList cs, p)

/-- The name of an anchor or an alias, after its mark. -/
def anchorName? (p : Place) : Option (String × Place) := do
  let (name, p) ← name? p.next
  let c := p.peek
  if isGap c || "?:,]\x7d%@`".toList.contains c then some (name, p) else none

/-- The handle of a tag: a mark, or a name between marks. -/
def tagHandle? (p : Place) : Option (String × Place) :=
  if p.peek != '!' then none
  else if p.peekAt 1 == ' ' then some ("!", p.next)
  else
    let (cs, q) := p.next.takeWhile isNameChar
    if q.peek == '!' then some (String.ofList ('!' :: cs ++ ['!']), q.next) else none

def isTagChar (c : Char) : Bool :=
  isNameChar c || ";/?:@&=+$,.!~*'()[]%".toList.contains c

/-- The byte that a percent sign and two digits stand for. -/
def escapedByte? (p : Place) : Option UInt8 :=
  let digits := [p.peekAt 1, p.peekAt 2]
  if p.peek == '%' && digits.all Text.isHexDigit then
    some (UInt8.ofNat (Text.natOfDigits 16 digits))
  else none

/-- The bytes of a run of percent escapes. -/
def escapedBytes : Nat → Place → List UInt8 × Place
  | 0, p => ([], p)
  | fuel + 1, p =>
      match escapedByte? p with
      | some b =>
          let (bytes, q) := escapedBytes fuel (p.skip 3)
          (b :: bytes, q)
      | none => ([], p)

/-- The rest of a tag. Percent escapes stand for the bytes of characters. -/
def tagRestFrom : Nat → List Char → Place → Option (List Char × Place)
  | 0, acc, p => some (acc, p)
  | fuel + 1, acc, p =>
      if p.peek == '%' then
        match escapedBytes p.rest.length p with
        | ([], _) => none
        | (bytes, q) =>
            if q.peek == '%' || (Text.firstFault? bytes).isSome then none
            else tagRestFrom fuel (acc ++ Text.decodeUtf8 bytes) q
      else if isTagChar p.peek then tagRestFrom fuel (acc ++ [p.peek]) p.next
      else some (acc, p)

def tagRest? (p : Place) : Option (String × Place) := do
  let (cs, q) ← tagRestFrom (p.rest.length + 1) [] p
  if cs.isEmpty then none else some (String.ofList cs, q)

/-- Whether a word has a second exclamation mark. -/
def hasHandle (p : Place) : Bool :=
  (p.next.rest.takeWhile fun c => !isSpaceOrEnd c).contains '!'

/-- A tag: in angle brackets, a mark alone, or a handle and a rest. -/
def tag? (p : Place) : Option (Token × Place) := do
  let (token, q) ←
    if p.peekAt 1 == '<' then do
      let (rest, q) ← tagRest? (p.skip 2)
      if q.peek == '>' then some (tag none rest, q.next) else none
    else if isGap (p.peekAt 1) then some (tag none "!", p.next)
    else do
      let (handle, q) ← if hasHandle p then tagHandle? p else some ("!", p.next)
      let (rest, q) ← tagRest? q
      some (tag (some handle) rest, q)
  if isSpaceOrEnd q.peek then some (token, q) else none

/-! ### Directives -/

/-- A number of decimal digits. -/
def number? (p : Place) : Option (Nat × Place) :=
  match p.takeWhile fun c => '0' ≤ c && c ≤ '9' with
  | ([], _) => none
  | (ds, p) => some (Text.natOfDigits 10 ds, p)

def version? (p : Place) : Option (Token × Place) := do
  let (major, p) ← number? p.skipSpaces
  if p.peek != '.' then none
  let (minor, p) ← number? p.next
  if isSpaceOrEnd p.peek then some (version major minor, p) else none

def tagStem? (p : Place) : Option (Token × Place) := do
  let (handle, p) ← tagHandle? p.skipSpaces
  if p.peek != ' ' then none
  let (stem, p) ← tagRest? p.skipSpaces
  if isSpaceOrEnd p.peek then some (tagStem handle stem, p) else none

/-- A directive with the rest of its line. One of an unknown name is passed over. -/
def directive? (p : Place) : Option (Token × Place) := do
  let (name, p) ← name? p.next
  if !isSpaceOrEnd p.peek then none
  let (token, p) ←
    if name == "YAML" then version? p
    else if name == "TAG" then tagStem? p
    else some (directive, p.skipWhile fun c => !isBreak c)
  some (token, ← p.lineEnd?)

/-! ### Block scalars -/

/-- How the end of a block scalar is treated. -/
inductive Chomping where
  | clip
  | strip
  | keep
deriving DecidableEq

def chomping? (c : Char) : Option Chomping :=
  if c == '+' then some .keep else if c == '-' then some .strip else none

def increment? (c : Char) : Option Nat :=
  if '0' ≤ c && c ≤ '9' then some (Text.digitValue c) else none

/-- The indicators after the mark of a block scalar, in either order. -/
def indicators? (p : Place) : Option (Chomping × Option Nat × Place) := do
  let (chomping, increment, p) :=
    match chomping? p.peek with
    | some chomping =>
        match increment? p.next.peek with
        | some n => (chomping, some n, p.skip 2)
        | none => (chomping, none, p.next)
    | none =>
        match increment? p.peek with
        | some n =>
            match chomping? p.next.peek with
            | some chomping => (chomping, some n, p.skip 2)
            | none => (.clip, some n, p.next)
        | none => (.clip, none, p)
  if increment == some 0 || !isSpaceOrEnd p.peek then none else some (chomping, increment, p)

/-- Skips spaces up to a column. -/
def skipTo (indent : Nat) : Nat → Place → Place
  | 0, p => p
  | fuel + 1, p => if p.column < indent && p.peek == ' ' then skipTo indent fuel p.next else p

/-- The empty lines before the next line of a block scalar. -/
def emptyLines (indent : Nat) : Nat → List Char → Place → List Char × Place
  | 0, acc, p => (acc, p)
  | fuel + 1, acc, p =>
      let p := skipTo indent p.rest.length p
      if isBreak p.peek then
        let (b, p) := p.lineBreak
        emptyLines indent fuel (acc ++ b) p
      else (acc, p)

/-- The empty lines at the start of a block scalar, and the widest indentation among
them and of the first line. -/
def firstLines : Nat → List Char → Nat → Place → List Char × Nat × Place
  | 0, acc, widest, p => (acc, widest, p)
  | fuel + 1, acc, widest, p =>
      if p.peek == ' ' then firstLines fuel acc (max widest p.next.column) p.next
      else if isBreak p.peek then
        let (b, p) := p.lineBreak
        firstLines fuel (acc ++ b) widest p
      else (acc, widest, p)

/-- The text of a block scalar so far: the last line break and the empty lines after
it are still held back. -/
structure BlockText where
  text : List Char := []
  lineBreak : List Char := []
  breaks : List Char := []
  place : Place

/-- Reads lines while they are indented. Folding turns the break between two lines
that do not start with a blank into a space. -/
def blockLines (folded : Bool) (indent : Nat) : Nat → BlockText → BlockText
  | 0, b => b
  | fuel + 1, b =>
      if b.place.column = indent && b.place.peek != ending then
        let startsBlank := isBlankChar b.place.peek
        let (line, p) := b.place.takeWhile fun c => !isBreak c
        let (lineBreak, p) := p.lineBreak
        let (breaks, p) := emptyLines indent p.rest.length [] p
        let text := b.text ++ b.breaks ++ line
        if p.column = indent && p.peek != ending then
          let joint :=
            if folded && lineBreak == ['\n'] && !startsBlank && !isBlankChar p.peek then
              if breaks.isEmpty then [' '] else []
            else lineBreak
          blockLines folded indent fuel ⟨text ++ joint, lineBreak, breaks, p⟩
        else ⟨text, lineBreak, breaks, p⟩
      else b

/-- A block scalar inside a block that is indented by `outer`. -/
def blockScalar? (folded : Bool) (outer : Int) (p : Place) : Option (Token × Place) := do
  let (chomping, increment, p) ← indicators? p.next
  let p ← p.lineEnd?
  let least := (max (outer + 1) 1).toNat
  let (breaks, indent, p) :=
    match increment with
    | some n =>
        let indent := least + n - 1
        let (breaks, p) := emptyLines indent (p.rest.length + 1) [] p
        (breaks, indent, p)
    | none =>
        let (breaks, widest, p) := firstLines p.rest.length [] 0 p
        (breaks, max least widest, p)
  let b := blockLines folded indent (p.rest.length + 1) { breaks, place := p }
  let text :=
    match chomping with
    | .strip => b.text
    | .clip => b.text ++ b.lineBreak
    | .keep => b.text ++ b.lineBreak ++ b.breaks
  some (scalar (String.ofList text) false, b.place)

/-! ### Quoted scalars -/

/-- The line breaks and blanks at the start of lines inside quotes. A line that
divides documents may not stand there. -/
def foldedLines? : Nat → List Char → Place → Option (List Char × Place)
  | 0, acc, p => some (acc, p)
  | fuel + 1, acc, p =>
      if p.atSeparator then none
      else
        let p := p.skipWhile isBlankChar
        if isBreak p.peek then
          let (b, p) := p.lineBreak
          foldedLines? fuel (acc ++ b) p
        else some (acc, p)

/-- The character that a letter after a backslash stands for. -/
def escape? (c : Char) : Option Char :=
  match c with
  | '0' => some '\x00'
  | 'a' => some '\x07'
  | 'b' => some '\x08'
  | 't' | '\t' => some '\t'
  | 'n' => some '\n'
  | 'v' => some '\x0b'
  | 'f' => some '\x0c'
  | 'r' => some '\r'
  | 'e' => some '\x1b'
  | ' ' | '"' | '\\' | '/' => some c
  | 'N' => some '\x85'
  | '_' => some '\xa0'
  | 'L' => some '\u2028'
  | 'P' => some '\u2029'
  | _ => none

/-- The number of digits after a letter that starts a code point. -/
def codeDigits? (c : Char) : Option Nat :=
  match c with
  | 'x' => some 2
  | 'u' => some 4
  | 'U' => some 8
  | _ => none

/-- The greatest number that is looked up among the characters. -/
def maxNumber : Nat := 2147483647

/-- The character of a number. -/
def charOf (code : Nat) : Except Fault Char :=
  if maxNumber < code then .error .overflow
  else if 0x10FFFF < code then .error .noCharacter
  else .ok (Text.charOfCodePoint code)

/-- What is missing makes a text wrong. -/
def present {α : Type} : Option α → Except Fault α
  | some a => .ok a
  | none => .error .malformed

/-- What a backslash and the characters after it stand for. -/
def escaped (p : Place) : Except Fault (List Char × Place) :=
  let q := p.next
  match escape? q.peek, codeDigits? q.peek with
  | some c, _ => .ok ([c], q.next)
  | none, some n => do
      let digits := (List.range n).map q.next.peekAt
      if !digits.all Text.isHexDigit then throw .malformed
      return ([← charOf (Text.natOfDigits 16 digits)], q.next.skip n)
  | none, none =>
      if isBreak q.peek then present (foldedLines? (q.rest.length + 1) [] q.lineBreak.2)
      else .error .malformed

/-- What blanks and line breaks inside quotes stand for. -/
def quotedGap? (p : Place) : Option (List Char × Place) := do
  let (blanks, p) := p.takeWhile isBlankChar
  if isBreak p.peek then
    let (b, p) := p.lineBreak
    let (breaks, p) ← foldedLines? (p.rest.length + 1) [] p
    if b != ['\n'] then some (b ++ breaks, p)
    else if breaks.isEmpty then some ([' '], p)
    else some (breaks, p)
  else some (blanks, p)

/-- What stands before the closing quote; what was read so far is held in reverse. -/
def quotedFrom (isDouble : Bool) : Nat → List Char → Place → Except Fault (List Char × Place)
  | 0, _, _ => .error .malformed
  | fuel + 1, done, p =>
      let c := p.peek
      if c == ending then .error .malformed
      else if isBlankChar c || isBreak c then do
        let (cs, p) ← present (quotedGap? p)
        quotedFrom isDouble fuel (cs.reverse ++ done) p
      else if isDouble then
        if c == '"' then .ok (done.reverse, p.next)
        else if c == '\\' then do
          let (cs, p) ← escaped p
          quotedFrom isDouble fuel (cs.reverse ++ done) p
        else quotedFrom isDouble fuel (c :: done) p.next
      else if c == '\'' then
        if p.peekAt 1 == '\'' then quotedFrom isDouble fuel ('\'' :: done) (p.skip 2)
        else .ok (done.reverse, p.next)
      else quotedFrom isDouble fuel (c :: done) p.next

def quoted (isDouble : Bool) (p : Place) : Except Fault (Token × Place) := do
  let (cs, q) ← quotedFrom isDouble (p.rest.length + 1) [] p.next
  return (scalar (String.ofList cs) false, q)

/-! ### Plain scalars -/

def isFlowMark (c : Char) : Bool := ",[]\x7b\x7d".toList.contains c

/-- How many characters of a plain scalar follow without a gap. -/
def plainRun (inFlow : Bool) : List Char → Nat
  | [] => 0
  | c :: rest =>
      let after := rest.headD ending
      if isGap c || (c == ':' && (isGap after || (inFlow && isFlowMark after))) ||
          (inFlow && (isFlowMark c || c == '?')) then 0
      else plainRun inFlow rest + 1

/-- The gap after a part of a plain scalar. -/
structure PlainGap where
  /-- What it stands for; nothing if the scalar ends here. -/
  text : List Char
  hasBreak : Bool
  place : Place

/-- Breaks and spaces up to the next part; nothing if documents are divided on the
way. -/
def plainBreaks : Nat → List Char → Place → Option (List Char) × Place
  | 0, acc, p => (some acc, p)
  | fuel + 1, acc, p =>
      if p.peek == ' ' then plainBreaks fuel acc p.next
      else if isBreak p.peek then
        let (b, p) := p.lineBreak
        if p.atSeparator then (none, p) else plainBreaks fuel (acc ++ b) p
      else (some acc, p)

def plainGap (p : Place) : PlainGap :=
  let (spaces, p) := p.takeWhile (· == ' ')
  if isBreak p.peek then
    let (b, p) := p.lineBreak
    if p.atSeparator then ⟨[], true, p⟩
    else
      match plainBreaks p.rest.length [] p with
      | (none, p) => ⟨[], true, p⟩
      | (some breaks, p) =>
          ⟨if b != ['\n'] then b ++ breaks else if breaks.isEmpty then [' '] else breaks, true, p⟩
  else ⟨spaces, false, p⟩

/-- A plain scalar, and whether a line break was passed after it. -/
structure PlainText where
  text : List Char := []
  endsLine : Bool := false
  place : Place

/-- Reads parts of a plain scalar as long as they are indented by more than `outer`.
`gap` stands between what was read and the next part. -/
def plainFrom (inFlow : Bool) (outer : Int) : Nat → List Char → PlainText → PlainText
  | 0, _, t => t
  | fuel + 1, gap, t =>
      let n := plainRun inFlow t.place.rest
      if t.place.peek == '#' || n = 0 then t
      else
        let text := t.text ++ gap ++ t.place.rest.take n
        let after := plainGap (t.place.skip n)
        let t : PlainText := ⟨text, after.hasBreak, after.place⟩
        if after.text.isEmpty || after.place.peek == '#' ||
            (!inFlow && (after.place.column : Int) ≤ outer) then t
        else plainFrom inFlow outer fuel after.text t

def plain (inFlow : Bool) (outer : Int) (p : Place) : PlainText :=
  plainFrom inFlow outer (p.rest.length + 1) [] { place := p }

/-- Whether a plain scalar can start here. -/
def startsPlain (inFlow : Bool) (p : Place) : Bool :=
  let c := p.peek
  !(isGap c || "-?:,[]\x7b\x7d#&*!|>'\"%@`".toList.contains c) ||
    (!isGap (p.peekAt 1) && (c == '-' || (!inFlow && (c == '?' || c == ':'))))

end Token

end QueryLint.Yaml
