/-!
# Lexemes

The alphabet of the source grammar: reserved words, signs, and the kinds of
lexemes built from them. Layout (line ends, indentation) is part of the
alphabet.
-/

namespace QueryLint.Source

/-- A place in a text: line from one, column in characters and offset in bytes
within the line, both from zero. -/
structure Place where
  line : Nat
  column : Nat
  offset : Nat
deriving DecidableEq, Inhabited

namespace Place

def start : Place := ⟨1, 0, 0⟩

/-- The place after one more character. -/
def advance (p : Place) (c : Char) : Place :=
  if c = '\n' then ⟨p.line + 1, 0, 0⟩ else ⟨p.line, p.column + 1, p.offset + c.utf8Size⟩

def advanceOver (p : Place) (cs : List Char) : Place := cs.foldl advance p

end Place

/-- Reserved words. -/
inductive Word where
  | kFalse | kNone | kTrue | kAnd | kAs | kAssert | kAsync | kAwait | kBreak | kClass
  | kContinue | kDef | kDel | kElif | kElse | kExcept | kFinally | kFor | kFrom | kGlobal | kIf
  | kImport | kIn | kIs | kLambda | kNonlocal | kNot | kOr | kPass | kRaise | kReturn | kTry
  | kWhile | kWith | kYield
deriving DecidableEq

def Word.table : List (List Char × Word) :=
  [(['F', 'a', 'l', 's', 'e'], .kFalse),
   (['N', 'o', 'n', 'e'], .kNone),
   (['T', 'r', 'u', 'e'], .kTrue),
   (['a', 'n', 'd'], .kAnd),
   (['a', 's'], .kAs),
   (['a', 's', 's', 'e', 'r', 't'], .kAssert),
   (['a', 's', 'y', 'n', 'c'], .kAsync),
   (['a', 'w', 'a', 'i', 't'], .kAwait),
   (['b', 'r', 'e', 'a', 'k'], .kBreak),
   (['c', 'l', 'a', 's', 's'], .kClass),
   (['c', 'o', 'n', 't', 'i', 'n', 'u', 'e'], .kContinue),
   (['d', 'e', 'f'], .kDef),
   (['d', 'e', 'l'], .kDel),
   (['e', 'l', 'i', 'f'], .kElif),
   (['e', 'l', 's', 'e'], .kElse),
   (['e', 'x', 'c', 'e', 'p', 't'], .kExcept),
   (['f', 'i', 'n', 'a', 'l', 'l', 'y'], .kFinally),
   (['f', 'o', 'r'], .kFor),
   (['f', 'r', 'o', 'm'], .kFrom),
   (['g', 'l', 'o', 'b', 'a', 'l'], .kGlobal),
   (['i', 'f'], .kIf),
   (['i', 'm', 'p', 'o', 'r', 't'], .kImport),
   (['i', 'n'], .kIn),
   (['i', 's'], .kIs),
   (['l', 'a', 'm', 'b', 'd', 'a'], .kLambda),
   (['n', 'o', 'n', 'l', 'o', 'c', 'a', 'l'], .kNonlocal),
   (['n', 'o', 't'], .kNot),
   (['o', 'r'], .kOr),
   (['p', 'a', 's', 's'], .kPass),
   (['r', 'a', 'i', 's', 'e'], .kRaise),
   (['r', 'e', 't', 'u', 'r', 'n'], .kReturn),
   (['t', 'r', 'y'], .kTry),
   (['w', 'h', 'i', 'l', 'e'], .kWhile),
   (['w', 'i', 't', 'h'], .kWith),
   (['y', 'i', 'e', 'l', 'd'], .kYield)]

def Word.ofChars? (cs : List Char) : Option Word := Word.table.lookup cs

/-- Operators and delimiters. -/
inductive Sign where
  | powerAssign | floorAssign | rightAssign | leftAssign | ellipsis | notEqual
  | equal | lessEqual | greaterEqual | arrow | plusAssign | minusAssign | timesAssign
  | divideAssign | moduloAssign | andAssign | orAssign | xorAssign | matrixAssign | walrus
  | power | floor | left | right | openParen | closeParen | openSquare | closeSquare
  | openBrace | closeBrace | comma | colon | dot | semicolon | at | assign | plus | minus
  | star | slash | percent | ampersand | bar | caret | tilde | less | greater
deriving DecidableEq

/-- Every sign with its characters; a sign stands before the signs that begin it. -/
def Sign.table : List (List Char × Sign) :=
  [(['*', '*', '='], .powerAssign),
   (['/', '/', '='], .floorAssign),
   (['>', '>', '='], .rightAssign),
   (['<', '<', '='], .leftAssign),
   (['.', '.', '.'], .ellipsis),
   (['!', '='], .notEqual),
   (['=', '='], .equal),
   (['<', '='], .lessEqual),
   (['>', '='], .greaterEqual),
   (['-', '>'], .arrow),
   (['+', '='], .plusAssign),
   (['-', '='], .minusAssign),
   (['*', '='], .timesAssign),
   (['/', '='], .divideAssign),
   (['%', '='], .moduloAssign),
   (['&', '='], .andAssign),
   (['|', '='], .orAssign),
   (['^', '='], .xorAssign),
   (['@', '='], .matrixAssign),
   ([':', '='], .walrus),
   (['*', '*'], .power),
   (['/', '/'], .floor),
   (['<', '<'], .left),
   (['>', '>'], .right),
   (['('], .openParen),
   ([')'], .closeParen),
   (['['], .openSquare),
   ([']'], .closeSquare),
   (['{'], .openBrace),
   (['}'], .closeBrace),
   ([','], .comma),
   ([':'], .colon),
   (['.'], .dot),
   ([';'], .semicolon),
   (['@'], .at),
   (['='], .assign),
   (['+'], .plus),
   (['-'], .minus),
   (['*'], .star),
   (['/'], .slash),
   (['%'], .percent),
   (['&'], .ampersand),
   (['|'], .bar),
   (['^'], .caret),
   (['~'], .tilde),
   (['<'], .less),
   (['>'], .greater)]

/-- The longest sign at the head of a text. -/
def Sign.first? (cs : List Char) : Option (List Char × Sign) :=
  Sign.table.find? fun (chars, _) => chars.isPrefixOf cs

inductive Kind where
  | name
  | reserved (word : Word)
  | number
  /-- A string literal with its letters and quotes. -/
  | string
  | sign (sign : Sign)
  | newline
  | indent
  | dedent
  | stop
deriving DecidableEq

/-- A piece of source text with its extent. -/
structure Lexeme where
  kind : Kind
  chars : List Char
  first : Place
  last : Place
deriving DecidableEq

/-- Line ends and indentation: lexemes that do not extend a construct. -/
def Lexeme.isLayout (l : Lexeme) : Bool :=
  match l.kind with
  | .newline | .indent | .dedent | .stop => true
  | _ => false

end QueryLint.Source
