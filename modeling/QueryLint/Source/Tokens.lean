import QueryLint.Source.Scan
import QueryLint.Tree.Token

/-!
# Tokens of a source text

The token stream of a text goes by simpler rules than its lexemes: numbers are
the longest texts of a few fixed shapes, words are stretches of word characters,
and a character that begins nothing is a token of its own, as is each blank
directly before it. A text whose line margins do not nest, or that ends within
brackets, has no token stream.
-/

namespace QueryLint.Source

open QueryLint.Text

/-! ### Numbers -/

/-- Further digits, each after at most one underscore: what is taken and what is left. -/
def moreDigits (ok : Char → Bool) : List Char → List Char × List Char
  | '_' :: d :: rest =>
      if ok d then
        let (ds, r) := moreDigits ok rest
        ('_' :: d :: ds, r)
      else ([], '_' :: d :: rest)
  | c :: rest =>
      if ok c then
        let (ds, r) := moreDigits ok rest
        (c :: ds, r)
      else ([], c :: rest)
  | [] => ([], [])

/-- Decimal digits, starting with one. -/
def decimalDigits? : List Char → Option (List Char × List Char)
  | c :: rest =>
      if isDigit c then
        let (ds, r) := moreDigits isDigit rest
        some (c :: ds, r)
      else none
  | [] => none

/-- An exponent, or nothing if there is none. -/
def exponentOrNot (cs : List Char) : List Char × List Char :=
  match cs with
  | e :: rest =>
      if e = 'e' ∨ e = 'E' then
        let (sign, digits) := match rest with
          | '+' :: more => (['+'], more)
          | '-' :: more => (['-'], more)
          | _ => ([], rest)
        match decimalDigits? digits with
        | some (ds, r) => (e :: sign ++ ds, r)
        | none => ([], cs)
      else ([], cs)
  | [] => ([], [])

/-- A number with a point or an exponent. -/
def pointNumber? (cs : List Char) : Option (List Char × List Char) :=
  match cs with
  | '.' :: rest => do
      let (ds, r) ← decimalDigits? rest
      let (es, r) := exponentOrNot r
      return ('.' :: ds ++ es, r)
  | _ => do
      let (whole, rest) ← decimalDigits? cs
      match rest with
      | '.' :: more =>
          let (part, r) := (decimalDigits? more).getD ([], more)
          let (es, r) := exponentOrNot r
          return (whole ++ '.' :: part ++ es, r)
      | _ =>
          match exponentOrNot rest with
          | ([], _) => none
          | (es, r) => some (whole ++ es, r)

/-- A whole number, in any base. Without a base, zeros are not followed by other digits. -/
def wholeNumber? (cs : List Char) : Option (List Char × List Char) :=
  match cs with
  | '0' :: b :: rest =>
      let based (ok : Char → Bool) : Option (List Char × List Char) :=
        match moreDigits ok rest with
        | ([], _) => some (zeros (b :: rest))
        | (ds, r) => some ('0' :: b :: ds, r)
      if b = 'x' ∨ b = 'X' then based isHexDigit
      else if b = 'b' ∨ b = 'B' then based fun c => c == '0' || c == '1'
      else if b = 'o' ∨ b = 'O' then based fun c => '0' ≤ c && c ≤ '7'
      else some (zeros (b :: rest))
  | '0' :: rest => some (zeros rest)
  | _ => decimalDigits? cs
where
  zeros (rest : List Char) : List Char × List Char :=
    let (ds, r) := moreDigits (· == '0') rest
    ('0' :: ds, r)

/-- With the imaginary unit, if it follows. -/
def withUnit? (number : Option (List Char × List Char)) : Option (List Char × List Char) :=
  match number with
  | some (ds, c :: rest) => if c = 'j' ∨ c = 'J' then some (ds ++ [c], rest) else none
  | _ => none

/-- A number at the head of a text. -/
def numberToken? (cs : List Char) : Option (List Char × List Char) :=
  (withUnit? (decimalDigits? cs)).or <| (withUnit? (pointNumber? cs)).or <|
    (pointNumber? cs).or (wholeNumber? cs)

/-! ### One step -/

/-- What stands at the head of a text behind its blanks. -/
inductive Piece where
  | token (type : TokenType) (chars rest : List Char)
  | comment (chars rest : List Char)
  | lineEnd (rest : List Char)
  /-- A backslash that joins the next line. -/
  | join (rest : List Char)

/-- The type of a token that starts with a word character. -/
def wordType (c : Char) : TokenType :=
  if isDigit c then .number else if startsName c then .name else .operator

/-- The piece at the head of a text, if it begins with one. -/
def piece? (cs : List Char) : Option Piece :=
  match cs with
  | [] => none
  | '\\' :: '\n' :: rest => some (.join rest)
  | '#' :: _ => some (.comment (cs.takeWhile (· != '\n')) (cs.dropWhile (· != '\n')))
  | '\n' :: rest => some (.lineEnd rest)
  | c :: _ =>
      match numberToken? cs with
      | some (ds, rest) => some (.token .number ds rest)
      | none =>
          match Sign.first? cs with
          | some (sign, _) => some (.token .operator sign (cs.drop sign.length))
          | none =>
              match stringToken? with
              | some (chars, rest) => some (.token .string chars rest)
              | none =>
                  if isWordChar c then
                    some (.token (wordType c) (cs.takeWhile isWordChar) (cs.dropWhile isWordChar))
                  else none
where
  stringToken? : Option (List Char × List Char) := do
    let (letters, quoted) ← stringLetters cs
    let (body, rest) ← scanString quoted
    return (letters ++ body, rest)

/-! ### The stream -/

/-- A text partly cut into tokens. -/
structure Tokenizer where
  rest : List Char
  place : Place := .start
  /-- How many brackets are open. -/
  brackets : Nat := 0
  /-- The margins of the open blocks, innermost first. -/
  margins : List Nat := [0]
  /-- A statement may start here. -/
  fresh : Bool := true
  /-- Tokens, last first. -/
  done : List Token := []

namespace Tokenizer

def skip (t : Tokenizer) (chars rest : List Char) : Tokenizer :=
  { t with rest := rest, place := t.place.advanceOver chars }

def emit (t : Tokenizer) (type : TokenType) (chars rest : List Char) : Tokenizer :=
  let last := t.place.advanceOver chars
  let span : Span := ⟨t.place.line, t.place.column, last.line, last.column⟩
  { t with rest := rest, place := last, done := ⟨type, String.ofList chars, span⟩ :: t.done }

/-- The width of white space, with tabulators worth eight. -/
def width (blanks : List Char) : Nat :=
  blanks.foldl (fun n c =>
    if c = '\t' then (n / 8 + 1) * 8 else if c = '\x0c' then 0 else n + 1) 0

/-- Opens or closes blocks for a line with the given margin. -/
def marginsFor (column : Nat) (margins : List Nat) : Option (List Nat) :=
  if margins.headD 0 < column then some (column :: margins)
  else if margins.contains column then some (margins.dropWhile (column < ·))
  else none

/-- Starts a line on which a statement may start. Empty lines and comments do not count. -/
def openLine (t : Tokenizer) : Option Tokenizer :=
  let (blanks, rest) := t.rest.span Scanner.isSpace
  let s := { t.skip blanks rest with fresh := false }
  match rest with
  | [] | '#' :: _ | '\n' :: _ => some s
  | _ => (marginsFor (width blanks) t.margins).map fun margins => { s with margins := margins }

def bracketsAfter (chars : List Char) (n : Nat) : Nat :=
  match chars with
  | ['('] | ['['] | ['\x7b'] => n + 1
  | [')'] | [']'] | ['\x7d'] => n - 1
  | _ => n

/-- One token, or a stretch without one. The text is not empty. -/
def step (t : Tokenizer) : Tokenizer :=
  let (blanks, rest) := t.rest.span Scanner.isSpace
  match piece? rest with
  | some (.token type chars left) =>
      let s := (t.skip blanks rest).emit type chars left
      if type = .operator then { s with brackets := bracketsAfter chars s.brackets } else s
  | some (.comment chars left) => (t.skip blanks rest).skip chars left
  | some (.lineEnd left) =>
      { (t.skip blanks rest).skip ['\n'] left with fresh := t.brackets == 0 }
  | some (.join left) => (t.skip blanks rest).skip ['\\', '\n'] left
  | none =>
      match rest, t.rest with
      | [], _ => t.skip blanks []
      | _, c :: left => t.emit (.other "ERRORTOKEN") [c] left
      | _, [] => t

/-- Cuts the text to its end. -/
def run : Nat → Tokenizer → Option (List Token)
  | 0, _ => none
  | fuel + 1, t =>
      if t.fresh then t.openLine.bind (run fuel)
      else if t.rest.isEmpty then if t.brackets = 0 then some t.done.reverse else none
      else run fuel t.step

end Tokenizer

/-- The significant tokens of a text. -/
def tokens? (cs : List Char) : Option (List Token) :=
  Tokenizer.run (2 * cs.length + 3) { rest := cs }

end QueryLint.Source
