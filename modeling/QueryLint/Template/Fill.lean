import QueryLint.Template.Numeral
import QueryLint.Template.Subject

/-!
# Message templates

A template is a text with fields in braces that are replaced by one argument. A
doubled brace is a brace. A field names the argument by its position, zero, or by
nothing at all; its parts are selected by an index in brackets, and what there is to say
about it by a name behind a point. After an exclamation mark a field may say how the
argument is quoted, and after a colon how it is laid out.
-/

namespace QueryLint.Template

/-! ### Fields -/

/-- A field as written: the name of what it shows, the kind of quoting, and the
layout. -/
structure Field where
  name : List Char
  conversion : Option Char
  layout : List Char

/-- The name of a field, the character that ends it, and what follows. Brackets
hide the characters that would end it. -/
def fieldName : Bool → List Char → Except Fault (List Char × Char × List Char)
  | _, [] => .error .unclosedField
  | true, c :: rest => do
      let (name, stop, rest) ← fieldName (c != ']') rest
      return (c :: name, stop, rest)
  | false, c :: rest =>
      if c = '\x7b' then .error .openInName
      else if c = '\x7d' ∨ c = ':' ∨ c = '!' then .ok ([], c, rest)
      else do
        let (name, stop, rest) ← fieldName (c == '[') rest
        return (c :: name, stop, rest)

/-- The layout of a field up to the brace that closes the field, given the number of
braces that are open. -/
def fieldLayout : Nat → List Char → Except Fault (List Char × List Char)
  | _, [] => .error .unclosedLayout
  | depth, c :: rest =>
      if c = '\x7d' ∧ depth ≤ 1 then .ok ([], rest)
      else do
        let depth := if c = '\x7b' then depth + 1 else if c = '\x7d' then depth - 1 else depth
        let (layout, rest) ← fieldLayout depth rest
        return (c :: layout, rest)

/-- The field after an opening brace. -/
def readField (cs : List Char) : Except Fault (Field × List Char) := do
  let (name, stop, rest) ← fieldName false cs
  if stop = '\x7d' then return (⟨name, none, []⟩, rest)
  else if stop = ':' then
    let (layout, rest) ← fieldLayout 1 rest
    return (⟨name, none, layout⟩, rest)
  else
    match rest with
    | [] => .error .missingConversion
    | c :: '\x7d' :: rest => return (⟨name, some c, []⟩, rest)
    | c :: ':' :: rest =>
        let (layout, rest) ← fieldLayout 1 rest
        return (⟨name, some c, layout⟩, rest)
    | [_] => .error .unclosedLayout
    | _ :: _ :: _ => .error .colonExpected

/-- A piece of a template. -/
inductive Piece where
  | char (c : Char)
  | field (f : Field)

/-- Reads the first piece of a template. -/
def readPiece : List Char → Except Fault (Option (Piece × List Char))
  | [] => .ok none
  | '\x7b' :: '\x7b' :: rest => .ok (some (.char '\x7b', rest))
  | '\x7d' :: '\x7d' :: rest => .ok (some (.char '\x7d', rest))
  | '\x7d' :: _ => .error .singleClose
  | ['\x7b'] => .error .singleOpen
  | '\x7b' :: rest => do
      let (f, rest) ← readField rest
      return some (.field f, rest)
  | c :: rest => .ok (some (.char c, rest))

/-! ### Filling in -/

/-- How the fields so far have named the argument. -/
inductive Numbering where
  | unset
  | automatic (next : Nat)
  | manual
deriving DecidableEq

/-- The part of a selector after its opening bracket, up to the closing one. -/
def inBrackets : List Char → Option (List Char × List Char)
  | [] => none
  | ']' :: rest => some ([], rest)
  | c :: rest => (inBrackets rest).map fun (item, rest) => (c :: item, rest)

def isSelectorStart (c : Char) : Bool := c == '.' || c == '['

/-- Applies the selectors after the name of an argument. -/
def selectFrom : Nat → List Char → Subject → Except Fault Subject
  | 0, _, subject => .ok subject
  | _ + 1, [], subject => .ok subject
  | fuel + 1, c :: rest, subject =>
      if c = '.' then
        let name := rest.takeWhile fun d => !isSelectorStart d
        if name.isEmpty then .error .emptySelector
        else do
          let found ← subject.member (String.ofList name)
          selectFrom fuel (rest.dropWhile fun d => !isSelectorStart d) found
      else if c = '[' then
        match inBrackets rest with
        | none => .error .emptySelector
        | some (item, after) => do
            let index? ← number? item
            if item.isEmpty then .error .emptySelector
            else
              let found ← match index? with
                | some index => subject.itemAt index
                | none => subject.itemOf (String.ofList item)
              selectFrom fuel after found
      else .error .misplacedSelector

/-- The subject that a field names, and the numbering after it. -/
def subjectOf (argument : Datum) (name : List Char) (numbering : Numbering) :
    Except Fault (Subject × Numbering) := do
  let first := name.takeWhile fun c => !isSelectorStart c
  let rest := name.dropWhile fun c => !isSelectorStart c
  let position? ← number? first
  let (position, numbering) ←
    if first.isEmpty then
      match numbering with
      | .manual => .error .automaticAfterManual
      | .automatic n => pure (n, Numbering.automatic (n + 1))
      | .unset => pure (0, Numbering.automatic 1)
    else
      match position?, numbering with
      | some _, .automatic _ => .error .manualAfterAutomatic
      | some n, _ => pure (n, Numbering.manual)
      | none, _ => .error (.noName (String.ofList first))
  if position = 0 then
    let subject ← selectFrom (rest.length + 1) rest (.datum argument)
    return (subject, numbering)
  else .error (.noArgument position)

/-- What is laid out in a field: a subject, or the text that it is converted to. -/
def convert (conversion : Option Char) (subject : Subject) : Except Fault Subject :=
  match conversion with
  | none => .ok subject
  | some 's' => .ok (.text subject.plain)
  | some 'r' => .ok (.text subject.display)
  | some 'a' => .ok (.text (Text.inAscii subject.display))
  | some c => .error (.unknownConversion c)

/-- A subject in a field. Only texts and numbers have a layout. -/
def show_ (layout : List Char) (subject : Subject) : Except Fault (List Char) :=
  if layout.isEmpty then .ok subject.plain.toList
  else
    match subject with
    | .datum (.text s) => layOutText layout s.toList
    | .datum (.bool b) => layOutInteger "bool" layout (if b then 1 else 0)
    | .datum (.int n) => layOutInteger "int" layout n
    | .datum (.float x) => layOutDouble layout x
    | subject => .error (.noLayout subject.typeName)

/-- Fills in a template. Layouts may hold fields themselves, `levels` deep. -/
def fillFrom (argument : Datum) :
    (levels fuel : Nat) → List Char → Numbering → Except Fault (List Char × Numbering)
  | 0, _, _, _ => .error .nestedTooDeep
  | _, 0, _, numbering => .ok ([], numbering)
  | levels + 1, fuel + 1, cs, numbering => do
      match ← readPiece cs with
      | none => return ([], numbering)
      | some (.char c, rest) =>
          let (text, numbering) ← fillFrom argument (levels + 1) fuel rest numbering
          return (c :: text, numbering)
      | some (.field f, rest) =>
          let (subject, numbering) ← subjectOf argument f.name numbering
          let subject ← convert f.conversion subject
          let (layout, numbering) ←
            if f.layout.contains '\x7b' then fillFrom argument levels fuel f.layout numbering
            else pure (f.layout, numbering)
          let shown ← show_ layout subject
          let (text, numbering) ← fillFrom argument (levels + 1) fuel rest numbering
          return (shown ++ text, numbering)

/-- The template with its fields replaced by the argument. -/
def fill (template : String) (argument : Datum) : Except Fault String := do
  let cs := template.toList
  let (text, _) ← fillFrom argument 2 (cs.length + 1) cs .unset
  return String.ofList text

end QueryLint.Template
