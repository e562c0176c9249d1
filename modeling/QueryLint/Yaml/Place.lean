/-!
# Places in a YAML text

A place is what is left of the text, with the line and column where it starts. The
text has no null character, so that one stands for its end.
-/

namespace QueryLint.Yaml

/-- What looking beyond the end gives. -/
def ending : Char := '\x00'

/-- Characters that a text may hold. -/
def isAllowed (c : Char) : Bool :=
  c == '\t' || c == '\n' || c == '\r' || (' ' ≤ c && c ≤ '~') || c == '\x85' ||
    ('\xa0' ≤ c && c ≤ '\ufffd') || 0x10000 ≤ c.toNat

def isBreak (c : Char) : Bool :=
  c == '\r' || c == '\n' || c == '\x85' || c == '\u2028' || c == '\u2029'

def isBreakOrEnd (c : Char) : Bool := c == ending || isBreak c

/-- A space, a line break or the end. -/
def isSpaceOrEnd (c : Char) : Bool := c == ' ' || isBreakOrEnd c

/-- What divides the parts of a line: a space, a tab, a line break or the end. -/
def isGap (c : Char) : Bool := c == '\t' || isSpaceOrEnd c

def isBlankChar (c : Char) : Bool := c == ' ' || c == '\t'

/-- Characters of the names of anchors, directives and tag handles. -/
def isNameChar (c : Char) : Bool :=
  ('0' ≤ c && c ≤ '9') || ('A' ≤ c && c ≤ 'Z') || ('a' ≤ c && c ≤ 'z') || c == '-' || c == '_'

structure Place where
  rest : List Char
  line : Nat := 0
  column : Nat := 0
  index : Nat := 0
deriving Inhabited

namespace Place

/-- The character `k` places on. -/
def peekAt (p : Place) (k : Nat) : Char := p.rest.getD k ending

def peek (p : Place) : Char := p.peekAt 0

/-- The place after the next character. A byte-order mark takes no column. -/
def next (p : Place) : Place :=
  match p.rest with
  | [] => p
  | c :: rest =>
      if isBreak c && !(c == '\r' && rest.head? == some '\n') then
        ⟨rest, p.line + 1, 0, p.index + 1⟩
      else if c == '\ufeff' then ⟨rest, p.line, p.column, p.index + 1⟩
      else ⟨rest, p.line, p.column + 1, p.index + 1⟩

/-- The place some characters on. -/
def skip : Nat → Place → Place
  | 0, p => p
  | n + 1, p => skip n p.next

/-- The characters up to the first that fails a test, and the place after them. -/
def takeWhile (p : Place) (test : Char → Bool) : List Char × Place :=
  let taken := p.rest.takeWhile test
  (taken, p.skip taken.length)

def skipWhile (p : Place) (test : Char → Bool) : Place := (p.takeWhile test).2

def skipSpaces (p : Place) : Place := p.skipWhile (· == ' ')

/-- Skips a comment, if one starts here. -/
def skipComment (p : Place) : Place :=
  if p.peek == '#' then p.skipWhile (fun c => !isBreak c) else p

/-- The line break that starts here, if there is one, and the place after it. All but
the two separators of the character set count as a newline. -/
def lineBreak (p : Place) : List Char × Place :=
  let c := p.peek
  if c == '\r' && p.peekAt 1 == '\n' then (['\n'], p.skip 2)
  else if c == '\r' || c == '\n' || c == '\x85' then (['\n'], p.next)
  else if c == '\u2028' || c == '\u2029' then ([c], p.next)
  else ([], p)

/-- Whether a line that divides documents starts here. -/
def atSeparator (p : Place) : Bool :=
  let three := p.rest.take 3
  (three == ['-', '-', '-'] || three == ['.', '.', '.']) && isGap (p.peekAt 3)

/-- The end of a line on which only a comment may be left. -/
def lineEnd? (p : Place) : Option Place :=
  let p := p.skipSpaces.skipComment
  if isBreakOrEnd p.peek then some p.lineBreak.2 else none

end Place

end QueryLint.Yaml
