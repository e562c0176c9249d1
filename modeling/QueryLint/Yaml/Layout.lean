import QueryLint.Yaml.Token

/-!
# From a text to its tokens

Indentation opens and closes blocks, and a colon turns what stands before it on the
same line into a key. What may become a key is remembered until its colon comes or
can no longer come.
-/

namespace QueryLint.Yaml

/-- The start of something that a colon would make a key. -/
structure KeyStart where
  /-- How many tokens come before it. -/
  before : Nat
  /-- Whether nothing but a key can stand there. -/
  isRequired : Bool
  index : Nat
  line : Nat
  column : Nat

structure Layout where
  place : Place
  /-- The column of the innermost block; `-1` outside of all blocks. -/
  indent : Int := -1
  /-- The columns of the blocks around it, from the inside out. -/
  outer : List Int := []
  /-- How many brackets are open. -/
  depth : Nat := 0
  keyAllowed : Bool := true
  /-- The possible keys, one for each depth at most. -/
  keys : List (Nat × KeyStart) := []
  tokens : List Token := []
  isDone : Bool := false

namespace Layout

/-- A key longer than this is none. -/
def maxKeyLength : Nat := 1024

def inFlow (s : Layout) : Bool := 0 < s.depth

def add (s : Layout) (token : Token) : Layout := { s with tokens := s.tokens ++ [token] }

/-- Adds a token at an earlier place. -/
def insert (s : Layout) (before : Nat) (token : Token) : Layout :=
  { s with tokens := s.tokens.take before ++ token :: s.tokens.drop before }

def next (s : Layout) (count : Nat) : Layout := { s with place := s.place.skip count }

/-! ### Possible keys -/

/-- Whether a possible key ended with its line. -/
def isStale (s : Layout) (k : KeyStart) : Bool :=
  k.line != s.place.line || s.place.index - k.index > maxKeyLength

/-- Forgets possible keys for which it is too late. -/
def dropStale (s : Layout) : Except Fault Layout :=
  if s.keys.any fun (_, k) => s.isStale k && k.isRequired then .error .malformed
  else .ok { s with keys := s.keys.filter fun (_, k) => !s.isStale k }

/-- Forgets the possible key at the current depth. -/
def dropKey (s : Layout) : Except Fault Layout :=
  match s.keys.lookup s.depth with
  | none => .ok s
  | some k =>
      if k.isRequired then .error .malformed
      else .ok { s with keys := s.keys.filter fun (d, _) => d != s.depth }

/-- Remembers that what follows may become a key. -/
def saveKey (s : Layout) : Except Fault Layout :=
  if s.keyAllowed then do
    let s ← s.dropKey
    let start : KeyStart :=
      { before := s.tokens.length
        isRequired := !s.inFlow && s.indent == s.place.column
        index := s.place.index, line := s.place.line, column := s.place.column }
    return { s with keys := (s.depth, start) :: s.keys }
  else .ok s

/-! ### Blocks -/

/-- Closes the blocks that are indented by more than a column. -/
def closeBlocks (column : Int) : List Int → Int → List Token → List Int × Int × List Token
  | [], indent, tokens =>
      if indent > column then ([], -1, tokens ++ [.blockEnd]) else ([], indent, tokens)
  | o :: outer, indent, tokens =>
      if indent > column then closeBlocks column outer o (tokens ++ [.blockEnd])
      else (o :: outer, indent, tokens)

def unwind (s : Layout) (column : Int) : Layout :=
  if s.inFlow then s
  else
    let (outer, indent, tokens) := closeBlocks column s.outer s.indent s.tokens
    { s with outer, indent, tokens }

/-- Opens a block at a column, unless one is open there. The token goes to an earlier
place. -/
def openBlock (s : Layout) (column : Nat) (before : Nat) (token : Token) : Layout :=
  if s.indent < column then
    { s.insert before token with outer := s.indent :: s.outer, indent := column }
  else s

/-! ### Steps -/

/-- Skips blanks, comments and line breaks. After a line break a key is allowed. -/
def skipBlankLines : Nat → Layout → Layout
  | 0, s => s
  | fuel + 1, s =>
      let p := s.place.skipSpaces.skipComment
      if isBreak p.peek then
        skipBlankLines fuel
          { s with place := p.lineBreak.2, keyAllowed := s.keyAllowed || !s.inFlow }
      else { s with place := p }

def skipMark (s : Layout) : Layout :=
  if s.place.index = 0 && s.place.peek == '\ufeff' then s.next 1 else s

/-- A token after which no key may start, read from where a key may start. -/
def addKeyToken (s : Layout) (read : Place → Except Fault (Token × Place)) : Except Fault Layout := do
  let s ← s.saveKey
  let (token, p) ← read s.place
  return { s.add token with place := p, keyAllowed := false }

def finish (s : Layout) : Except Fault Layout := do
  let s ← (s.unwind (-1)).dropKey
  return { s.add .endOfText with keyAllowed := false, keys := [], isDone := true }

def directive (s : Layout) : Except Fault Layout := do
  let s ← (s.unwind (-1)).dropKey
  let (token, p) ← Token.present (Token.directive? s.place)
  return { s.add token with place := p, keyAllowed := false }

def separator (s : Layout) (token : Token) : Except Fault Layout := do
  let s ← (s.unwind (-1)).dropKey
  return { (s.add token).next 3 with keyAllowed := false }

def openFlow (s : Layout) (token : Token) : Except Fault Layout := do
  let s ← s.saveKey
  return { (s.add token).next 1 with depth := s.depth + 1, keyAllowed := true }

def closeFlow (s : Layout) (token : Token) : Except Fault Layout := do
  let s ← s.dropKey
  return { (s.add token).next 1 with depth := s.depth - 1, keyAllowed := false }

def comma (s : Layout) : Except Fault Layout := do
  let s ← s.dropKey
  return { (s.add .comma).next 1 with keyAllowed := true }

def entry (s : Layout) : Except Fault Layout := do
  if !s.inFlow && !s.keyAllowed then throw .malformed
  let s := if s.inFlow then s else s.openBlock s.place.column s.tokens.length .sequenceStart
  let s ← s.dropKey
  return { (s.add .entry).next 1 with keyAllowed := true }

/-- A key that is marked as one. -/
def key (s : Layout) : Except Fault Layout := do
  if !s.inFlow && !s.keyAllowed then throw .malformed
  let s := if s.inFlow then s else s.openBlock s.place.column s.tokens.length .mappingStart
  let s ← s.dropKey
  return { (s.add .key).next 1 with keyAllowed := !s.inFlow }

/-- The mark of a value. It makes a key of what may become one. -/
def value (s : Layout) : Except Fault Layout := do
  match s.keys.lookup s.depth with
  | some k =>
      let s := { s with keys := s.keys.filter fun (d, _) => d != s.depth }
      let s := s.insert k.before .key
      let s := if s.inFlow then s else s.openBlock k.column k.before .mappingStart
      return { (s.add .value).next 1 with keyAllowed := false }
  | none =>
      if !s.inFlow && !s.keyAllowed then throw .malformed
      let s := if s.inFlow then s else s.openBlock s.place.column s.tokens.length .mappingStart
      return { (s.add .value).next 1 with keyAllowed := !s.inFlow }

def block (s : Layout) (folded : Bool) : Except Fault Layout := do
  let s ← s.dropKey
  let (token, p) ← Token.present (Token.blockScalar? folded s.indent s.place)
  return { s.add token with place := p, keyAllowed := true }

def plain (s : Layout) : Except Fault Layout := do
  let s ← s.saveKey
  let t := Token.plain s.inFlow s.indent s.place
  return { s.add (.scalar (String.ofList t.text) true) with
    place := t.place, keyAllowed := t.endsLine }

/-- Reads the next token. -/
def step (s : Layout) : Except Fault Layout := do
  let s := skipBlankLines (s.place.rest.length + 1) s.skipMark
  let s ← s.dropStale
  let s := s.unwind s.place.column
  let p := s.place
  let c := p.peek
  let mark := isGap (p.peekAt 1)
  if c == ending then s.finish
  else if c == '%' && p.column = 0 then s.directive
  else if c == '-' && p.column = 0 && p.atSeparator then s.separator .documentStart
  else if c == '.' && p.column = 0 && p.atSeparator then s.separator .documentEnd
  else if c == '[' then s.openFlow .openBracket
  else if c == '\x7b' then s.openFlow .openBrace
  else if c == ']' then s.closeFlow .closeBracket
  else if c == '\x7d' then s.closeFlow .closeBrace
  else if c == ',' then s.comma
  else if c == '-' && mark then s.entry
  else if c == '?' && (s.inFlow || mark) then s.key
  else if c == ':' && (s.inFlow || mark) then s.value
  else if c == '*' then
    s.addKeyToken fun p => do
      let (name, q) ← Token.present (Token.anchorName? p)
      return (.alias name, q)
  else if c == '&' then
    s.addKeyToken fun p => do
      let (name, q) ← Token.present (Token.anchorName? p)
      return (.anchor name, q)
  else if c == '!' then s.addKeyToken fun p => Token.present (Token.tag? p)
  else if c == '|' && !s.inFlow then s.block false
  else if c == '>' && !s.inFlow then s.block true
  else if c == '\'' then s.addKeyToken (Token.quoted false)
  else if c == '"' then s.addKeyToken (Token.quoted true)
  else if Token.startsPlain s.inFlow p then s.plain
  else throw .malformed

/-- All tokens, up to the end or the first fault. -/
def run : Nat → Layout → List Token
  | 0, s => s.tokens ++ [.fault .malformed]
  | fuel + 1, s =>
      match s.step with
      | .error f => s.tokens ++ [.fault f]
      | .ok s => if s.isDone then s.tokens else run fuel s

end Layout

/-- The tokens of a text. -/
def tokensOf (text : List Char) : List Token :=
  if text.all isAllowed then Layout.run (text.length + 2) { place := { rest := text } }
  else [.fault .malformed]

end QueryLint.Yaml
