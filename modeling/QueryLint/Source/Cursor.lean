import QueryLint.Source.Ast

/-!
# Reading lexemes

A parse reads lexemes from a cursor and either fails or yields a result with the
cursor moved on. The cursor remembers where the last lexeme that is not layout
ended, because that is where a construct ends.
-/

namespace QueryLint.Source

structure Cursor where
  rest : List Lexeme
  /-- The number of lexemes in `rest`. -/
  count : Nat
  /-- End of the last lexeme read, layout apart. -/
  last : Place

/-- A cursor before the first of some lexemes. -/
def Cursor.before (lexemes : List Lexeme) (place : Place) : Cursor :=
  ⟨lexemes, lexemes.length, place⟩

abbrev Parse := StateT Cursor Option

namespace Parse

/-- The kind of the next lexeme. -/
def peek : Parse Kind := do
  match (← get).rest with
  | l :: _ => return l.kind
  | [] => return .stop

/-- The kind of the lexeme after the next one. -/
def peekSecond : Parse Kind := do
  match (← get).rest with
  | _ :: l :: _ => return l.kind
  | _ => return .stop

/-- Reads one lexeme. -/
def next : Parse Lexeme := fun c =>
  match c.rest with
  | l :: rest => some (l, ⟨rest, c.count - 1, if l.isLayout then c.last else l.last⟩)
  | [] => none

/-- Where the next lexeme starts. -/
def here : Parse Place := fun c =>
  match c.rest with
  | l :: _ => some (l.first, c)
  | [] => none

/-- A bound on the lexemes to come. -/
def remaining : Parse Nat := do return (← get).count

/-- Reads the next lexeme if it is of the given kind. -/
def accept (kind : Kind) : Parse Bool := do
  if (← peek) = kind then
    let _ ← next
    return true
  else return false

/-- Reads a lexeme of the given kind. -/
def require (kind : Kind) : Parse Unit := do
  if (← peek) = kind then
    let _ ← next
  else failure

def sign (s : Sign) : Parse Unit := require (.sign s)

def word (w : Word) : Parse Unit := require (.reserved w)

def acceptSign (s : Sign) : Parse Bool := accept (.sign s)

def acceptWord (w : Word) : Parse Bool := accept (.reserved w)

/-- A name that is not reserved. -/
def nameLexeme : Parse Lexeme := do
  if (← peek) = .name then next else failure

/-- The parse, or nothing if it fails. -/
def attempt {α : Type} (p : Parse α) : Parse (Option α) :=
  (some <$> p) <|> pure none

/-- The extent from `first` to the last lexeme read. -/
def extentFrom (first : Place) : Parse Extent := do
  return .between first (← get).last

/-- A construct with a value, from `first` to the last lexeme read. -/
def buildValue (first : Place) (form : Form) (value : Value) (fields : Fields) : Parse Ast := do
  return .node form value (some (← extentFrom first)) fields

/-- A construct without a value, from `first` to the last lexeme read. -/
def build (first : Place) (form : Form) (fields : Fields) : Parse Ast :=
  buildValue first form .absent fields

/-- Zero or more results; `p` says when there are no more. -/
def repeatUntilNone {α : Type} (p : Parse (Option α)) : Nat → Parse (List α)
  | 0 => pure []
  | n + 1 => do
      match ← p with
      | none => return []
      | some a => return a :: (← repeatUntilNone p n)

def many {α : Type} (p : Parse (Option α)) : Parse (List α) := do
  repeatUntilNone p (← remaining)

/-- One or more results separated by `separator`, which may not come last. -/
def separated {α : Type} (separator : Sign) (p : Parse α) : Parse (List α) := do
  let first ← p
  let more ← many do
    if ← acceptSign separator then return some (← p) else return none
  return first :: more

/-- After a first element: further elements behind commas, a last comma being
optional, and whether there was any comma. An element follows a comma exactly when
`starts` holds of the next lexeme. -/
def commaTailWithin {α : Type} (starts : Kind → Bool) (p : Parse α) : Nat → Parse (List α × Bool)
  | 0 => pure ([], false)
  | n + 1 => do
      if ← acceptSign .comma then
        if starts (← peek) then
          let a ← p
          let (more, _) ← commaTailWithin starts p n
          return (a :: more, true)
        else return ([], true)
      else return ([], false)

def commaTail {α : Type} (starts : Kind → Bool) (p : Parse α) : Parse (List α × Bool) := do
  commaTailWithin starts p (← remaining)

end Parse

end QueryLint.Source
