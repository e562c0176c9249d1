import QueryLint.Source.Lexeme
import QueryLint.Text.Digits

/-!
# Scanning a source text

Cuts a source text into lexemes. Indentation is measured twice, with tabulators
worth eight columns and worth one; a change must go the same way in both
measures. Inside brackets line ends and indentation mean nothing.
-/

namespace QueryLint.Source

open QueryLint.Text

/-- The deepest nesting of brackets. -/
def maxBrackets : Nat := 200

/-- The deepest nesting of indented blocks. -/
def maxIndents : Nat := 100

/-! ### Numbers -/

/-- Digits with single underscores between them: what is consumed and what is
left. `digitBefore` says whether an underscore may come next. -/
def digitRun (ok : Char → Bool) : Bool → List Char → Option (List Char × List Char)
  | digitBefore, [] => if digitBefore then some ([], []) else none
  | digitBefore, c :: rest =>
      if ok c then (digitRun ok true rest).map fun (ds, r) => (c :: ds, r)
      else if digitBefore then
        if c = '_' then (digitRun ok false rest).map fun (ds, r) => (c :: ds, r)
        else some ([], c :: rest)
      else none

/-- A character that could belong to a name, judged by its first byte. -/
def mayContinueName (c : Char) : Bool :=
  isAsciiLetter c || isDigit c || c == '_' || c.toNat ≥ 128

def endsWord : List Char → Bool
  | [] => true
  | c :: _ => !mayContinueName c

/-- What may directly follow a number: anything that cannot belong to a name, or a
reserved word that can stand between two operands. -/
def mayFollowNumber : List Char → Bool
  | 'a' :: 'n' :: 'd' :: rest => endsWord rest
  | 'e' :: 'l' :: 's' :: 'e' :: rest => endsWord rest
  | 'f' :: 'o' :: 'r' :: rest => endsWord rest
  | 'n' :: 'o' :: 't' :: rest => endsWord rest
  | 'o' :: 'r' :: rest => endsWord rest
  | 'i' :: 'f' :: _ => true
  | 'i' :: 'n' :: _ => true
  | 'i' :: 's' :: _ => true
  | cs => endsWord cs

/-- An optional exponent. A letter `e` without digits belongs to what follows. -/
def exponentPart : List Char → Option (List Char × List Char)
  | e :: rest =>
      if e = 'e' ∨ e = 'E' then
        match rest with
        | s :: d :: more =>
            if s = '+' ∨ s = '-' then
              (digitRun isDigit false (d :: more)).map fun (ds, r) => (e :: s :: ds, r)
            else if isDigit s then
              (digitRun isDigit false rest).map fun (ds, r) => (e :: ds, r)
            else some ([], e :: rest)
        | [s] => if isDigit s then some ([e, s], []) else
            if s = '+' ∨ s = '-' then none else some ([], e :: rest)
        | [] => some ([], e :: rest)
      else some ([], e :: rest)
  | [] => some ([], [])

/-- The fraction of a number, after its point. -/
def fractionPart : List Char → Option (List Char × List Char)
  | c :: rest => if isDigit c then digitRun isDigit false (c :: rest) else some ([], c :: rest)
  | [] => some ([], [])

/-- After the digits of a decimal number: an imaginary unit, and a proper end. -/
def endNumber (ds rest : List Char) : Option (List Char × List Char) :=
  match rest with
  | c :: more =>
      if c = 'j' ∨ c = 'J' then
        if mayFollowNumber more then some (ds ++ [c], more) else none
      else if mayFollowNumber rest then some (ds, rest) else none
  | [] => some (ds, [])

def floatTail (ds rest : List Char) : Option (List Char × List Char) := do
  let (es, rest) ← exponentPart rest
  endNumber (ds ++ es) rest

/-- Digits in another base, after the zero and the letter that name it. -/
def basedNumber (ok : Char → Bool) (letter : Char) (rest : List Char) :
    Option (List Char × List Char) := do
  let (lead, rest) := match rest with
    | '_' :: more => (['0', letter, '_'], more)
    | _ => (['0', letter], rest)
  let (ds, rest) ← digitRun ok false rest
  if mayFollowNumber rest then some (lead ++ ds, rest) else none

/-- A decimal number. A whole number other than zero has no leading zero. -/
def decimalNumber (cs : List Char) : Option (List Char × List Char) := do
  let (ds, rest) ← digitRun isDigit false cs
  match rest with
  | '.' :: more =>
      let (fs, rest) ← fractionPart more
      floatTail (ds ++ '.' :: fs) rest
  | _ =>
      let (number, rest) ← floatTail ds rest
      let leadingZero := ds.head? == some '0' && ds.any fun c => c != '0' && c != '_'
      if leadingZero && number.length == ds.length then none else some (number, rest)

/-- A number at the head of a text that starts with a digit. -/
def scanNumber : List Char → Option (List Char × List Char)
  | '0' :: c :: rest =>
      if c = 'x' ∨ c = 'X' then basedNumber isHexDigit c rest
      else if c = 'o' ∨ c = 'O' then basedNumber (fun d => '0' ≤ d && d ≤ '7') c rest
      else if c = 'b' ∨ c = 'B' then basedNumber (fun d => d == '0' || d == '1') c rest
      else decimalNumber ('0' :: c :: rest)
  | cs => decimalNumber cs

/-! ### Strings -/

/-- The rest of a string on one line, up to and including its closing quote. -/
def shortString (quote : Char) : List Char → Option (List Char × List Char)
  | [] => none
  | '\\' :: c :: rest => (shortString quote rest).map fun (s, r) => ('\\' :: c :: s, r)
  | c :: rest =>
      if c = quote then some ([c], rest)
      else if c = '\n' then none
      else (shortString quote rest).map fun (s, r) => (c :: s, r)

/-- The rest of a string that may span lines, with its three closing quotes. -/
def longString (quote : Char) : List Char → Option (List Char × List Char)
  | [] => none
  | '\\' :: c :: rest => (longString quote rest).map fun (s, r) => ('\\' :: c :: s, r)
  | c :: rest =>
      if c = quote ∧ rest.take 2 = [quote, quote] then some ([c, c, c], rest.drop 2)
      else (longString quote rest).map fun (s, r) => (c :: s, r)

/-- A string at the head of a text that starts with a quote. -/
def scanString : List Char → Option (List Char × List Char)
  | q :: rest =>
      if rest.take 2 = [q, q] then
        (longString q (rest.drop 2)).map fun (s, r) => (q :: q :: q :: s, r)
      else (shortString q rest).map fun (s, r) => (q :: s, r)
  | [] => none

def isQuote (c : Char) : Bool := c == '\'' || c == '"'

/-- The letters before a quote that belong to the string, if there is a quote. -/
def stringLetters (cs : List Char) : Option (List Char × List Char) :=
  let is (c : Char) (l u : Char) : Bool := c == l || c == u
  let raw (c : Char) : Bool := is c 'r' 'R'
  let bytesOrFormat (c : Char) : Bool := is c 'b' 'B' || is c 'f' 'F'
  match cs with
  | a :: b :: q :: _ =>
      if isQuote a then some ([], cs)
      else if isQuote b then
        if raw a || bytesOrFormat a || is a 'u' 'U' then some ([a], cs.drop 1) else none
      else if isQuote q then
        if (raw a && bytesOrFormat b) || (bytesOrFormat a && raw b) then some ([a, b], cs.drop 2)
        else none
      else none
  | [a, q] =>
      if isQuote a then some ([], cs)
      else if isQuote q && (raw a || bytesOrFormat a || is a 'u' 'U') then some ([a], [q])
      else none
  | [a] => if isQuote a then some ([], cs) else none
  | [] => none

/-! ### Margins -/

/-- The white space at the head of a line as far as it has been measured. -/
structure Margin where
  /-- Column with tabulators worth eight. -/
  wide : Nat := 0
  /-- Column with tabulators worth one. -/
  narrow : Nat := 0
  /-- Column of the first joined line that is not at zero. -/
  joined : Nat := 0
  place : Place
deriving DecidableEq

/-- Measures the white space before the first lexeme of a line. A backslash joins
the next line; it must have one. -/
def Margin.measure : Margin → List Char → Option (Margin × List Char)
  | m, [] => some (m, [])
  | m, ' ' :: rest =>
      measure { m with wide := m.wide + 1, narrow := m.narrow + 1, place := m.place.advance ' ' } rest
  | m, '\t' :: rest =>
      measure { m with
        wide := (m.wide / 8 + 1) * 8, narrow := m.narrow + 1, place := m.place.advance '\t' } rest
  | m, '\x0c' :: rest =>
      measure { m with wide := 0, narrow := 0, place := m.place.advance '\x0c' } rest
  | _, ['\\', '\n'] => none
  | m, '\\' :: '\n' :: rest =>
      measure { m with
        joined := if m.joined = 0 then m.wide else m.joined
        place := m.place.advance '\n' } rest
  | _, '\\' :: _ => none
  | m, rest => some (m, rest)

/-! ### The scan -/

structure Scanner where
  rest : List Char
  place : Place
  /-- Open brackets, innermost first. -/
  brackets : List Char := []
  /-- Open blocks, innermost first, in both measures. -/
  indents : List (Nat × Nat) := [(0, 0)]
  /-- The head of a line is still to be measured. -/
  fresh : Bool := true
  /-- The line holds at most a comment. -/
  blank : Bool := false
  /-- Lexemes, last first. -/
  done : List Lexeme := []

namespace Scanner

/-- Consumes `cs`, with `rest` left, and records a lexeme. -/
def emit (s : Scanner) (kind : Kind) (cs rest : List Char) : Scanner :=
  let last := s.place.advanceOver cs
  { s with rest := rest, place := last, done := ⟨kind, cs, s.place, last⟩ :: s.done }

/-- Consumes `cs` without recording anything. -/
def skip (s : Scanner) (cs rest : List Char) : Scanner :=
  { s with rest := rest, place := s.place.advanceOver cs }

def layout (s : Scanner) (kind : Kind) : Scanner :=
  { s with done := ⟨kind, [], s.place, s.place⟩ :: s.done }

/-- Closes blocks until the margin is not left of the innermost one. -/
def closeBlocks (wide : Nat) : List (Nat × Nat) → Nat → List (Nat × Nat) × Nat
  | top :: next :: more, n =>
      if wide < top.1 then closeBlocks wide (next :: more) (n + 1) else (top :: next :: more, n)
  | blocks, n => (blocks, n)

def dedents : Nat → Scanner → Scanner
  | 0, s => s
  | n + 1, s => dedents n (s.layout .dedent)

/-- Opens or closes blocks for a line with the given margin. -/
def indentTo (s : Scanner) (wide narrow : Nat) : Option Scanner :=
  match s.indents with
  | [] => none
  | (w, n) :: _ =>
      if wide = w then if narrow = n then some s else none
      else if w < wide then
        if s.indents.length ≥ maxIndents ∨ narrow ≤ n then none
        else some ({ s with indents := (wide, narrow) :: s.indents }.layout .indent)
      else
        match closeBlocks wide s.indents 0 with
        | ((w, n) :: more, count) =>
            if wide = w ∧ narrow = n then
              some (dedents count { s with indents := (w, n) :: more })
            else none
        | _ => none

/-- Measures the head of a line. -/
def openLine (s : Scanner) : Option Scanner := do
  let (m, rest) ← Margin.measure { place := s.place } s.rest
  let blank := rest.head? == some '#' || rest.head? == some '\n'
  let s := { s with rest := rest, place := m.place, fresh := false, blank := blank }
  if blank || !s.brackets.isEmpty then some s
  else if m.joined = 0 then s.indentTo m.wide m.narrow
  else s.indentTo m.joined m.joined

def closes (opening closing : Char) : Bool :=
  (opening == '(' && closing == ')') || (opening == '[' && closing == ']') ||
    (opening == '\x7b' && closing == '\x7d')

/-- Keeps the nesting of brackets. -/
def bracket (s : Scanner) (sign : Sign) (c : Char) : Option Scanner :=
  match sign with
  | .openParen | .openSquare | .openBrace =>
      if s.brackets.length ≥ maxBrackets then none else some { s with brackets := c :: s.brackets }
  | .closeParen | .closeSquare | .closeBrace =>
      match s.brackets with
      | opening :: more => if closes opening c then some { s with brackets := more } else none
      | [] => none
  | _ => some s

/-- A name or a reserved word. -/
def name (s : Scanner) : Option Scanner :=
  let (cs, rest) := s.rest.span mayContinueName
  if cs.all (fun c => c.toNat < 128) || isName cs then
    match Word.ofChars? cs with
    | some w => some (s.emit (.reserved w) cs rest)
    | none => some (s.emit .name cs rest)
  else none

def isSpace (c : Char) : Bool := c == ' ' || c == '\t' || c == '\x0c'

/-- One lexeme or one stretch without a lexeme. The text is not empty. -/
def step (s : Scanner) : Option Scanner :=
  match s.rest with
  | [] => none
  | c :: rest =>
      if isSpace c then
        let (blanks, rest) := s.rest.span isSpace
        some (s.skip blanks rest)
      else if c = '#' then
        let (comment, rest) := s.rest.span (· != '\n')
        some (s.skip comment rest)
      else if c = '\n' then
        if s.blank || !s.brackets.isEmpty then some { s.skip [c] rest with fresh := true }
        else some { s.emit .newline [c] rest with fresh := true }
      else match stringLetters s.rest with
        | some (letters, quoted) => do
            let (body, rest) ← scanString quoted
            some (s.emit .string (letters ++ body) rest)
        | none =>
          if isDigit c then do
            let (ds, rest) ← scanNumber s.rest
            some (s.emit .number ds rest)
          else if mayContinueName c then s.name
          else match c, rest with
            | '.', d :: _ =>
                if isDigit d then do
                  let (fs, rest) ← fractionPart rest
                  let (ds, rest) ← floatTail ('.' :: fs) rest
                  some (s.emit .number ds rest)
                else sign
            | '\\', '\n' :: more => if more.isEmpty then none else some (s.skip [c, '\n'] more)
            | _, _ => sign
where
  sign : Option Scanner := do
    let (cs, sign) ← Sign.first? s.rest
    let s ← s.bracket sign (cs.headD ' ')
    some (s.emit (.sign sign) cs (s.rest.drop cs.length))

/-- Scans to the end; every step consumes at least one character or measures a
line that does. -/
def run : Nat → Scanner → Option Scanner
  | 0, _ => none
  | fuel + 1, s =>
      if s.fresh then s.openLine.bind (run fuel)
      else if s.rest.isEmpty then
        if s.brackets.isEmpty then some (s.layout .stop) else none
      else s.step.bind (run fuel)

end Scanner

/-- The lexemes of a text that starts at a given place. Nothing if the text has no proper
lexemes. -/
def scan (place : Place) (cs : List Char) : Option (List Lexeme) :=
  (Scanner.run (2 * cs.length + 3) { rest := cs, place := place }).map fun s => s.done.reverse

end QueryLint.Source
