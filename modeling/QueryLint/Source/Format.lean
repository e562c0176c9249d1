import QueryLint.Source.Literal

/-!
# Format strings

The body of a format string alternates between literal text and replacement
fields in braces. This module cuts a body into such pieces; it does not parse the
expressions inside the fields.
-/

namespace QueryLint.Source

open QueryLint.Text

/-- Why a stretch of literal text ended. -/
inductive LiteralStop where
  /-- A doubled brace: the text holds one of the two. -/
  | doubled
  /-- A brace that opens a field. -/
  | field
  /-- The brace that ends an enclosing field. -/
  | close
  /-- The end of the body. -/
  | finish
deriving DecidableEq

def isBrace (c : Char) : Bool := c == '\x7b' || c == '\x7d'

/-- Literal text at the head of a body, why it ended, and what is left. Doubled
braces count only at the top level, where a single closing brace is an error.
`named` holds inside the braces of a named character. -/
def literalRun (raw top : Bool) :
    Bool → List Char → Option (List Char × LiteralStop × List Char)
  | _, [] => some ([], .finish, [])
  | true, c :: rest => (literalRun raw top (c != '\x7d') rest).map fun (t, s, r) => (c :: t, s, r)
  | false, '\\' :: 'N' :: '\x7b' :: rest =>
      if raw then (literalRun raw top false ('N' :: '\x7b' :: rest)).map fun (t, s, r) => ('\\' :: t, s, r)
      else (literalRun raw top true rest).map fun (t, s, r) => ('\\' :: 'N' :: '\x7b' :: t, s, r)
  | false, '\\' :: c :: rest =>
      if raw || isBrace c then
        (literalRun raw top false (c :: rest)).map fun (t, s, r) => ('\\' :: t, s, r)
      else (literalRun raw top false rest).map fun (t, s, r) => ('\\' :: c :: t, s, r)
  | false, c :: d :: rest =>
      if isBrace c then
        if top && c == d then some ([c], .doubled, rest)
        else single c (d :: rest)
      else (literalRun raw top false (d :: rest)).map fun (t, s, r) => (c :: t, s, r)
  | false, [c] => if isBrace c then single c [] else some ([c], .finish, [])
where
  single (c : Char) (rest : List Char) : Option (List Char × LiteralStop × List Char) :=
    if c = '\x7b' then some ([], .field, c :: rest)
    else if top then none
    else some ([], .close, c :: rest)

/-- A quotation inside a field: its quote, and whether it is tripled. -/
structure Quotation where
  quote : Char
  triple : Bool

/-- The expression at the head of a field and what is left, starting with the
character that ended it: a closing brace, a conversion mark, a colon or an equals
sign outside all brackets and quotations. Backslashes and comment signs are
refused. -/
def fieldExpression :
    Option Quotation → List Char → List Char → Option (List Char × List Char)
  | _, _, [] => none
  | inside, open_, c :: rest =>
      let keep (r : Option (List Char × List Char)) (taken : List Char) :=
        r.map fun (e, left) => (taken ++ e, left)
      if c = '\\' then none
      else match inside with
      | some q =>
          if c = q.quote then
            if q.triple then
              match rest with
              | a :: b :: more =>
                  if a = c ∧ b = c then keep (fieldExpression none open_ more) [c, c, c]
                  else keep (fieldExpression inside open_ (a :: b :: more)) [c]
              | short => keep (fieldExpression inside open_ short) [c]
            else keep (fieldExpression none open_ rest) [c]
          else keep (fieldExpression inside open_ rest) [c]
      | none =>
          if isQuote c then
            match rest with
            | a :: b :: more =>
                if a = c ∧ b = c then keep (fieldExpression (some ⟨c, true⟩) open_ more) [c, c, c]
                else keep (fieldExpression (some ⟨c, false⟩) open_ (a :: b :: more)) [c]
            | short => keep (fieldExpression (some ⟨c, false⟩) open_ short) [c]
          else if c = '(' ∨ c = '[' ∨ c = '\x7b' then
            if open_.length ≥ maxBrackets then none
            else keep (fieldExpression none (c :: open_) rest) [c]
          else if c = '#' then none
          else if open_.isEmpty && (c == '!' || c == ':' || c == '\x7d' || c == '=' || c == '<' ||
              c == '>') then
            match rest with
            | d :: more =>
                if d = '=' ∧ (c = '!' ∨ c = '=' ∨ c = '<' ∨ c = '>') then
                  keep (fieldExpression none open_ more) [c, d]
                else if c = '<' ∨ c = '>' then keep (fieldExpression none open_ (d :: more)) [c]
                else some ([], c :: d :: more)
            | [] => if c = '<' ∨ c = '>' then none else some ([], [c])
          else if c = ')' ∨ c = ']' ∨ c = '\x7d' then
            match open_ with
            | opening :: more =>
                if Scanner.closes opening c then keep (fieldExpression none more rest) [c] else none
            | [] => none
          else keep (fieldExpression none open_ rest) [c]

/-- Blanks that an expression may be surrounded by. -/
def isFieldBlank (c : Char) : Bool := c == ' ' || c == '\t' || c == '\n' || c == '\x0c'

/-- The blanks that may follow the equals sign of a self-documenting field. -/
def isAsciiSpace (c : Char) : Bool := c == ' ' || ('\t' ≤ c && c ≤ '\r')

/-- A replacement field up to its format specification. -/
structure FieldHead where
  /-- The text of the expression. -/
  expression : List Char
  /-- The text shown before the value by a self-documenting field. -/
  shown : List Char
  rest : List Char

/-- Reads a field after its opening brace: the expression, the text it shows of
itself, and the conversion, which must be one of three letters. -/
def fieldHead (cs : List Char) : Option FieldHead := do
  let (expression, rest) ← fieldExpression none [] cs
  if expression.all isFieldBlank then none
  else
    let (shown, rest) :=
      match rest with
      | '=' :: more => (expression ++ '=' :: more.takeWhile isAsciiSpace, more.dropWhile isAsciiSpace)
      | _ => ([], rest)
    match rest with
    | '!' :: c :: more =>
        if c = 's' ∨ c = 'r' ∨ c = 'a' then some ⟨expression, shown, more⟩ else none
    | ['!'] => none
    | _ => some ⟨expression, shown, rest⟩

end QueryLint.Source
