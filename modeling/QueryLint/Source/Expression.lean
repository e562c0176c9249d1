import QueryLint.Source.Cursor
import QueryLint.Source.Format
import QueryLint.Text.NormalForm

/-!
# Expressions

The grammar of expressions. Every rule is an ordinary function of the rules that
it needs again inside itself; `expressionRule` ties them together, counting down
one for each level of nesting. Nesting costs at least one character of source, so
the length of the source bounds it.
-/

namespace QueryLint.Source

open Parse

/-- The rules of expressions that other rules refer back to. -/
inductive Rule where
  | expression
  | disjunction
  | inversion
  | bitOr
  | factor
  | primary
  /-- A list of expressions, some of them starred. -/
  | starExpressions

/-- The rules one level further in. -/
abbrev Inner := Rule → Parse Ast

/-- Lexemes an expression can start with. -/
def startsExpression : Kind → Bool
  | .name | .number | .string => true
  | .reserved w =>
      match w with
      | .kFalse | .kNone | .kTrue | .kNot | .kLambda | .kAwait => true
      | _ => false
  | .sign s =>
      match s with
      | .openParen | .openSquare | .openBrace | .plus | .minus | .tilde | .ellipsis => true
      | _ => false
  | _ => false

/-- Lexemes a starred or plain expression can start with. -/
def startsStarred (k : Kind) : Bool := startsExpression k || k == .sign .star

/-! ### Names and targets -/

/-- A name as the syntax tree holds it: equivalent spellings are one name. -/
def identifier (l : Lexeme) : String := String.ofList (Text.normalForm l.chars)

def nameNode (l : Lexeme) : Ast :=
  .node .name (.text (identifier l)) (some (.between l.first l.last)) .nil

/-- A plain name. -/
def nameAtom : Parse Ast := do return nameNode (← nameLexeme)

/-- What may be assigned to on its own. -/
def isSingleTarget (a : Ast) : Bool :=
  match a.form with
  | .name | .attribute | .subscript => true
  | _ => false

mutual

/-- What may be assigned to: single targets, and lists and tuples of targets, with
stars where `star` admits them. -/
def isTarget (star : Bool) : Ast → Bool
  | .node form _ _ fields =>
      match form with
      | .name | .attribute | .subscript => true
      | .tuple | .list => fieldsAreTargets star fields
      | .starred => star && fieldsAreTargets star fields
      | _ => false

def fieldsAreTargets (star : Bool) : Fields → Bool
  | .nil => true
  | .child _ a rest => isTarget star a && fieldsAreTargets star rest
  | .items _ list rest => itemsAreTargets star list && fieldsAreTargets star rest
  | .plain _ rest => fieldsAreTargets star rest

def itemsAreTargets (star : Bool) : Items → Bool
  | .nil => true
  | .tree a rest => isTarget star a && itemsAreTargets star rest
  | .other _ => false

end

/-! ### Operators -/

/-- Operands joined by the operators of one level, grouped from the left. -/
def leftGrouped (operator? : Sign → Option String) (operand : Parse Ast) : Parse Ast := do
  let first ← here
  let left ← operand
  more first (← remaining) left
where
  more (first : Place) : Nat → Ast → Parse Ast
    | 0, left => return left
    | n + 1, left => do
        match ← peek with
        | .sign s =>
            match operator? s with
            | some name =>
                let _ ← next
                let right ← operand
                let joined ← build first .binOp
                  (.child "left" left <| .child "op" (.operator name) <| .child "right" right .nil)
                more first n joined
            | none => return left
        | _ => return left

def termSign : Sign → Option String
  | .star => some "Mult"
  | .slash => some "Div"
  | .floor => some "FloorDiv"
  | .percent => some "Mod"
  | .at => some "MatMult"
  | _ => none

def sumSign : Sign → Option String
  | .plus => some "Add"
  | .minus => some "Sub"
  | _ => none

def shiftSign : Sign → Option String
  | .left => some "LShift"
  | .right => some "RShift"
  | _ => none

def bitAndSign : Sign → Option String
  | .ampersand => some "BitAnd"
  | _ => none

def bitXorSign : Sign → Option String
  | .caret => some "BitXor"
  | _ => none

def bitOrSign : Sign → Option String
  | .bar => some "BitOr"
  | _ => none

def unarySign : Sign → Option String
  | .plus => some "UAdd"
  | .minus => some "USub"
  | .tilde => some "Invert"
  | _ => none

/-- The comparison operator that comes next, read off. -/
def comparison? : Parse (Option String) := do
  match ← peek with
  | .sign .equal => read "Eq"
  | .sign .notEqual => read "NotEq"
  | .sign .less => read "Lt"
  | .sign .lessEqual => read "LtE"
  | .sign .greater => read "Gt"
  | .sign .greaterEqual => read "GtE"
  | .reserved .kIn => read "In"
  | .reserved .kNot =>
      let _ ← next
      word .kIn
      return some "NotIn"
  | .reserved .kIs =>
      let _ ← next
      if ← acceptWord .kNot then return some "IsNot" else return some "Is"
  | _ => return none
where
  read (name : String) : Parse (Option String) := do
    let _ ← next
    return some name

/-! ### Lists of expressions -/

/-- A starred operand. -/
def starred (operand : Parse Ast) : Parse Ast := do
  let first ← here
  sign .star
  let a ← operand
  build first .starred (.child "value" a .nil)

/-- An expression, or a name with a value assigned to it in passing. -/
def named (inner : Inner) : Parse Ast := do
  if (← peek) = .name && (← peekSecond) = .sign .walrus then
    let first ← here
    let target ← nameAtom
    sign .walrus
    let value ← inner .expression
    build first .namedExpr (.child "target" target <| .child "value" value .nil)
  else inner .expression

def starNamed (inner : Inner) : Parse Ast := do
  if (← peek) = .sign .star then starred (inner .bitOr) else named inner

def starExpression (inner : Inner) : Parse Ast := do
  if (← peek) = .sign .star then starred (inner .bitOr) else inner .expression

/-- One element, or a tuple without parentheses. -/
def bareTuple (starts : Kind → Bool) (element : Parse Ast) : Parse Ast := do
  let first ← here
  let a ← element
  let (more, comma) ← commaTail starts element
  if comma then build first .tuple (.list "elts" (a :: more) .nil) else return a

def yieldExpression (inner : Inner) : Parse Ast := do
  let first ← here
  word .kYield
  if ← acceptWord .kFrom then
    let a ← inner .expression
    build first .yieldFrom (.child "value" a .nil)
  else
    let a ← if startsStarred (← peek) then some <$> inner .starExpressions else pure none
    build first .yield (.optional "value" a .nil)

/-- A target: an optional star, then a primary that can be assigned to. -/
def target (inner : Inner) : Parse Ast := do
  let a ← if (← peek) = .sign .star then starred (inner .primary) else inner .primary
  if isTarget true a then return a else failure

def targets (inner : Inner) : Parse Ast := bareTuple startsStarred (target inner)

/-! ### Comprehensions -/

/-- One clause of a comprehension, if there is one. -/
def clause? (inner : Inner) : Parse (Option Ast) := do
  match ← peek with
  | .reserved .kAsync =>
      let _ ← next
      body
  | .reserved .kFor => body
  | _ => return none
where
  body : Parse (Option Ast) := do
    word .kFor
    let t ← targets inner
    word .kIn
    let source ← inner .disjunction
    let tests ← many do
      if ← acceptWord .kIf then return some (← inner .disjunction) else return none
    return some (.node .comprehension .absent none
      (.child "target" t <| .child "iter" source <| .list "ifs" tests <| .plain "is_async" .nil))

def startsClause (k : Kind) : Bool := k == .reserved .kFor || k == .reserved .kAsync

/-- The clauses of a comprehension; at least one. -/
def clauses (inner : Inner) : Parse (List Ast) := do
  let cs ← many (clause? inner)
  if cs.isEmpty then failure else return cs

/-! ### Arguments of a call -/

/-- What has been seen in a list of arguments; it decides what may still come. -/
inductive ArgumentStage where
  | positional
  | keywords
  | unpacked
deriving DecidableEq

structure Arguments where
  positional : List Ast := []
  keywords : List Ast := []

/-- After an argument: more of them behind a comma, or the closing parenthesis,
which is left to be read. -/
def afterArgument (more : ArgumentStage → Parse Arguments) (stage : ArgumentStage) :
    Parse Arguments := do
  if ← acceptSign .comma then more stage
  else if (← peek) = .sign .closeParen then return {}
  else failure

def Arguments.withPositional (a : Ast) (args : Arguments) : Arguments :=
  { args with positional := a :: args.positional }

def Arguments.withKeyword (a : Ast) (args : Arguments) : Arguments :=
  { args with keywords := a :: args.keywords }

/-- Arguments up to the closing parenthesis. Plain arguments come before the first
keyword, starred ones before the first double star. -/
def argumentsFrom (inner : Inner) : Nat → ArgumentStage → Parse Arguments
  | 0, _ => failure
  | n + 1, stage => do
      let first ← here
      match ← peek with
      | .sign .closeParen => return {}
      | .sign .star =>
          if stage = .unpacked then failure
          else
            let a ← starred (inner .expression)
            return (← afterArgument (argumentsFrom inner n) stage).withPositional a
      | .sign .power =>
          let _ ← next
          let a ← inner .expression
          let k ← build first .keyword (.plain "arg" <| .child "value" a .nil)
          return (← afterArgument (argumentsFrom inner n) .unpacked).withKeyword k
      | _ =>
          if (← peek) = .name && (← peekSecond) = .sign .assign then
            let l ← nameLexeme
            sign .assign
            let a ← inner .expression
            let k ← buildValue first .keyword (.text (identifier l))
              (.plain "arg" <| .child "value" a .nil)
            let stage := if stage = .unpacked then .unpacked else .keywords
            return (← afterArgument (argumentsFrom inner n) stage).withKeyword k
          else if stage = .positional then
            let a ← named inner
            return (← afterArgument (argumentsFrom inner n) stage).withPositional a
          else failure

/-- The arguments between parentheses that are already open. -/
def arguments (inner : Inner) : Parse Arguments := do
  argumentsFrom inner (← remaining) .positional

/-! ### Parameters -/

/-- What has been seen in a list of parameters. -/
inductive ParameterStage where
  | plain
  /-- A parameter with a default has been seen. -/
  | defaulted
  /-- After a bare star, which needs a parameter. -/
  | afterStar
  | keywordOnly
deriving DecidableEq

structure Parameters where
  positionalOnly : List Ast := []
  positional : List Ast := []
  rest : Option Ast := none
  keywordOnly : List Ast := []
  keywordDefaults : List (Option Ast) := []
  keywordRest : Option Ast := none
  defaults : List Ast := []

/-- The construct that holds all parameters. -/
def Parameters.node (ps : Parameters) : Ast :=
  .node .arguments .absent none
    (.list "posonlyargs" ps.positionalOnly <| .list "args" ps.positional <|
      .optional "vararg" ps.rest <| .list "kwonlyargs" ps.keywordOnly <|
      .items "kw_defaults" (.ofOptions ps.keywordDefaults) <| .optional "kwarg" ps.keywordRest <|
      .list "defaults" ps.defaults .nil)

/-- One parameter. Annotations are written only where `annotated`; the parameter
that takes the rest may have a starred one. -/
def parameter (inner : Inner) (annotated starAllowed : Bool) : Parse Ast := do
  let first ← here
  let _ ← nameLexeme
  let note ←
    if annotated && (← peek) = .sign .colon then
      let _ ← next
      if starAllowed then some <$> starExpression inner else some <$> inner .expression
    else pure none
  build first .arg (.plain "arg" <| .optional "annotation" note <| .plain "type_comment" .nil)

def default? (inner : Inner) : Parse (Option Ast) := do
  if ← acceptSign .assign then return some (← inner .expression) else return none

/-- What has been read of a list of parameters. -/
structure ParameterState where
  stage : ParameterStage := .plain
  /-- A slash may still come. -/
  slash : Bool := true
  read : Parameters := {}

/-- After a parameter: more of them behind a comma, or the closing lexeme, which is
left to be read. -/
def afterParameter (close : Sign) (more : ParameterState → Parse Parameters)
    (s : ParameterState) : Parse Parameters := do
  if ← acceptSign .comma then more s
  else if (← peek) = .sign close then return s.read
  else failure

/-- Adds a parameter that is neither starred nor double-starred. -/
def ParameterState.add (s : ParameterState) (p : Ast) (value : Option Ast) :
    Option ParameterState :=
  let ps := s.read
  match s.stage, value with
  | .plain, none => some { s with read := { ps with positional := ps.positional ++ [p] } }
  | .defaulted, none => none
  | .plain, some v | .defaulted, some v =>
      some { s with
        stage := .defaulted
        read := { ps with positional := ps.positional ++ [p], defaults := ps.defaults ++ [v] } }
  | .afterStar, value | .keywordOnly, value =>
      some { s with
        stage := .keywordOnly
        read := { ps with
          keywordOnly := ps.keywordOnly ++ [p]
          keywordDefaults := ps.keywordDefaults ++ [value] } }

/-- Parameters up to the closing lexeme: a slash after positional ones, one star,
defaults that once begun go on up to the star, a double star last. -/
def parametersFrom (inner : Inner) (annotated : Bool) (close : Sign) :
    Nat → ParameterState → Parse Parameters
  | 0, _ => failure
  | n + 1, s => do
      match ← peek with
      | .sign .power =>
          if s.stage = .afterStar then failure
          else
            let _ ← next
            let p ← parameter inner annotated false
            let _ ← acceptSign .comma
            if (← peek) = .sign close then return { s.read with keywordRest := some p }
            else failure
      | .sign .star =>
          if s.stage = .plain || s.stage = .defaulted then
            let _ ← next
            if ← acceptSign .comma then
              if (← peek) = .name then
                parametersFrom inner annotated close n { s with stage := .afterStar, slash := false }
              else failure
            else
              let p ← parameter inner annotated true
              afterParameter close (parametersFrom inner annotated close n)
                ⟨.keywordOnly, false, { s.read with rest := some p }⟩
          else failure
      | .sign .slash =>
          if s.slash && !s.read.positional.isEmpty then
            let _ ← next
            afterParameter close (parametersFrom inner annotated close n)
              ⟨s.stage, false,
                { s.read with positionalOnly := s.read.positional, positional := [] }⟩
          else failure
      | .name =>
          let p ← parameter inner annotated false
          let value ← default? inner
          match s.add p value with
          | some s => afterParameter close (parametersFrom inner annotated close n) s
          | none => failure
      | k => if k = .sign close then return s.read else failure

/-- Parameters before `close`, which is left to be read. -/
def parameters (inner : Inner) (annotated : Bool) (close : Sign) : Parse Parameters := do
  parametersFrom inner annotated close (← remaining) {}

/-! ### Subscripts -/

/-- Whether `a` is an assignment in passing without parentheses, given where it was
read. -/
def isBareWalrus (first : Place) (a : Ast) : Bool :=
  a.form == .namedExpr && a.extent.any fun e => e.line == first.line && e.offset == first.offset

/-- One index: a slice, a named expression, or a starred one. -/
def index (inner : Inner) : Parse Ast := do
  if (← peek) = .sign .star then starred (inner .expression)
  else
    let first ← here
    let lower ← if (← peek) = .sign .colon then pure none else some <$> named inner
    if (← peek) = .sign .colon && !(lower.any (isBareWalrus first)) then
      let _ ← next
      let upper ← bound?
      let step ← if ← acceptSign .colon then bound? else pure none
      build first .slice
        (.optional "lower" lower <| .optional "upper" upper <| .optional "step" step .nil)
    else match lower with
      | some a => return a
      | none => failure
where
  bound? : Parse (Option Ast) := do
    if startsExpression (← peek) then return some (← inner .expression) else return none

def startsIndex (k : Kind) : Bool := startsStarred k || k == .sign .colon

/-- The indices between square brackets that are already open. A single starred
index makes a tuple. -/
def indices (inner : Inner) : Parse Ast := do
  let first ← here
  let a ← index inner
  let (more, comma) ← commaTail startsIndex (index inner)
  if comma || a.form = .starred then build first .tuple (.list "elts" (a :: more) .nil)
  else return a

/-! ### Displays -/

/-- After an opening parenthesis: an empty tuple, a yield, a generator, a tuple, or
one expression, which keeps its own extent. -/
def parenthesized (inner : Inner) (first : Place) : Parse Ast := do
  if ← acceptSign .closeParen then build first .tuple (.list "elts" [] .nil)
  else if (← peek) = .reserved .kYield then
    let a ← yieldExpression inner
    sign .closeParen
    return a
  else
    let a ← starNamed inner
    if startsClause (← peek) && a.form ≠ .starred then
      let cs ← clauses inner
      sign .closeParen
      build first .generatorExp (.child "elt" a <| .list "generators" cs .nil)
    else
      let (more, comma) ← commaTail startsStarred (starNamed inner)
      sign .closeParen
      if comma then build first .tuple (.list "elts" (a :: more) .nil)
      else if a.form = .starred then failure
      else return a

/-- After an opening square bracket: a list or a list comprehension. -/
def bracketed (inner : Inner) (first : Place) : Parse Ast := do
  if ← acceptSign .closeSquare then build first .list (.list "elts" [] .nil)
  else
    let a ← starNamed inner
    if startsClause (← peek) && a.form ≠ .starred then
      let cs ← clauses inner
      sign .closeSquare
      build first .listComp (.child "elt" a <| .list "generators" cs .nil)
    else
      let (more, _) ← commaTail startsStarred (starNamed inner)
      sign .closeSquare
      build first .list (.list "elts" (a :: more) .nil)

/-- An entry of a dictionary; an unpacked one has no key. -/
def entry (inner : Inner) : Parse (Option Ast × Ast) := do
  if ← acceptSign .power then return (none, ← inner .bitOr)
  else
    let key ← inner .expression
    sign .colon
    return (some key, ← inner .expression)

def startsEntry (k : Kind) : Bool := startsExpression k || k == .sign .power

def dictNode (first : Place) (entries : List (Option Ast × Ast)) : Parse Ast :=
  build first .dict
    (.items "keys" (.ofOptions (entries.map Prod.fst)) <| .list "values" (entries.map Prod.snd) .nil)

/-- After an opening brace: a dictionary, a set, or a comprehension of either. -/
def braced (inner : Inner) (first : Place) : Parse Ast := do
  match ← peek with
  | .sign .closeBrace =>
      let _ ← next
      dictNode first []
  | .sign .power =>
      let e ← entry inner
      restOfDict e
  | _ =>
      let elementStart ← here
      let a ← starNamed inner
      if (← peek) = .sign .colon && a.form ≠ .starred && !isBareWalrus elementStart a then
        let _ ← next
        let value ← inner .expression
        if startsClause (← peek) then
          let cs ← clauses inner
          sign .closeBrace
          build first .dictComp
            (.child "key" a <| .child "value" value <| .list "generators" cs .nil)
        else restOfDict (some a, value)
      else if startsClause (← peek) && a.form ≠ .starred then
        let cs ← clauses inner
        sign .closeBrace
        build first .setComp (.child "elt" a <| .list "generators" cs .nil)
      else
        let (more, _) ← commaTail startsStarred (starNamed inner)
        sign .closeBrace
        build first .set (.list "elts" (a :: more) .nil)
where
  restOfDict (e : Option Ast × Ast) : Parse Ast := do
    let (more, _) ← commaTail startsEntry (entry inner)
    sign .closeBrace
    dictNode first (e :: more)

/-! ### Strings -/

/-- Parts of a format string gathered so far: finished parts, last first, and the
text still open. -/
structure Joined where
  parts : List Ast := []
  pending : List Char := []
  isFormat : Bool := false

def textNode (extent : Extent) (cs : List Char) : Ast :=
  .node .constant (.text (String.ofList cs)) (some extent) .nil

/-- The finished parts, the open text last. -/
def Joined.close (j : Joined) (extent : Extent) : List Ast :=
  (if j.pending.isEmpty then j.parts else textNode extent j.pending :: j.parts).reverse

/-- Whether a line ends before the expression of a field starts. -/
def startsOnNextLine : List Char → Bool
  | c :: rest => c == '\n' || (Scanner.isSpace c && startsOnNextLine rest)
  | [] => false

/-- The place of the parenthesis that stands for the opening brace of a field at `place`. Where
the expression starts on a later line, it is taken to stand at the start of the string, or of the
line if that is not the string's first. -/
def fieldPlace (own : Extent) (place : Place) (cs : List Char) : Place :=
  if startsOnNextLine cs then
    { place with offset := if place.line = own.line then own.offset else 0 }
  else place

/-- Parses the expression of a field whose opening brace stands at `place`. The
expression counts as parenthesized, so that it may span lines. -/
def fieldValue (inner : Inner) (place : Place) (cs : List Char) : Option Ast := do
  let lexemes ← scan place ('(' :: cs ++ [')', '\n'])
  let lexemes := lexemes.map fun l =>
    if l.first.line = place.line ∧ l.last.line ≠ place.line then
      { l with first := { l.first with offset := l.first.offset - place.offset } }
    else l
  let (a, _) ← inner .starExpressions (.before lexemes place)
  return a

/-- Where the text `cs` ends once only `rest` of it is left. -/
def placeAfter (place : Place) (cs rest : List Char) : Place :=
  place.advanceOver (cs.take (cs.length - rest.length))

/-- Reads the pieces of a format string up to its end, or of a format
specification up to the brace that ends it. `whole` is the extent of all adjacent
strings, `own` that of this one; `level` counts the enclosing specifications. -/
def formatPieces (inner : Inner) (raw : Bool) (whole own : Extent) :
    Nat → Nat → Place → Joined → List Char → Option (Joined × List Char)
  | 0, _, _, _, _ => none
  | n + 1, level, place, j, cs => do
      let (literal, stop, rest) ← literalRun raw (level == 0) false cs
      let literal ← textOfBody raw literal
      let j := { j with pending := j.pending ++ literal, isFormat := true }
      let place' := placeAfter place cs rest
      match stop with
      | .doubled => formatPieces inner raw whole own n level place' j rest
      | .finish => if level = 0 then some (j, rest) else none
      | .close => some (j, rest)
      | .field =>
          if level ≥ 2 then none
          else
            let head ← fieldHead (rest.drop 1)
            let value ← fieldValue inner (fieldPlace own place' head.expression) head.expression
            let j := { j with pending := j.pending ++ head.shown }
            let (spec, after) ←
              match head.rest with
              | ':' :: more => do
                  let (inside, after) ← formatPieces inner raw whole own n (level + 1)
                    (placeAfter place cs more) {} more
                  some (some (Ast.node .joinedStr .absent (some own)
                    (.list "values" (inside.close own) .nil)), after)
              | other => some (none, other)
            match after with
            | '\x7d' :: left =>
                let field := Ast.node .formattedValue .absent (some whole)
                  (.child "value" value <| .plain "conversion" <| .optional "format_spec" spec .nil)
                let parts :=
                  if j.pending.isEmpty then field :: j.parts
                  else field :: textNode whole j.pending :: j.parts
                formatPieces inner raw whole own n level (placeAfter place cs left)
                  ⟨parts, [], true⟩ left
            | _ => none

/-- Adds one string literal to what its neighbours have gathered. -/
def joinString (inner : Inner) (whole : Extent) (j : Joined) (l : Lexeme) : Option Joined := do
  let s := StringParts.of l.chars
  if s.isBytes then none
  else if s.isFormat then
    let (j, _) ← formatPieces inner s.raw whole (.between l.first l.last) (l.chars.length + 1) 0
      (l.first.advanceOver s.opening) j s.body
    some j
  else
    let text ← textOfBody s.raw s.body
    some { j with pending := j.pending ++ text }

def joinBytes (bs : List UInt8) (l : Lexeme) : Option (List UInt8) := do
  let s := StringParts.of l.chars
  if s.isBytes then return bs ++ (← bytesOfBody s.raw s.body) else none

/-- Adjacent strings make one constant, or one format string if any of them is one.
Bytes and text do not mix. -/
def strings (inner : Inner) : Parse Ast := do
  let first ← here
  let literals ← many do
    if (← peek) = .string then return some (← next) else return none
  let whole ← extentFrom first
  match literals with
  | [] => failure
  | l :: _ =>
      if (StringParts.of l.chars).isBytes then
        match literals.foldlM joinBytes [] with
        | some bs => return .node .constant (.bytes bs) (some whole) .nil
        | none => failure
      else
        match literals.foldlM (joinString inner whole) {} with
        | some j =>
            if j.isFormat then
              return .node .joinedStr .absent (some whole) (.list "values" (j.close whole) .nil)
            else return textNode whole j.pending
        | none => failure

/-! ### Atoms, primaries and operators -/

def constant (value : Value) : Parse Ast := do
  let first ← here
  let _ ← next
  buildValue first .constant value .nil

def numberAtom : Parse Ast := do
  let first ← here
  let l ← next
  match numberValue l.chars with
  | some v => buildValue first .constant v .nil
  | none => failure

def atom (inner : Inner) : Parse Ast := do
  let first ← here
  match ← peek with
  | .name => nameAtom
  | .number => numberAtom
  | .string => strings inner
  | .reserved .kTrue => constant (.boolean true)
  | .reserved .kFalse => constant (.boolean false)
  | .reserved .kNone => constant .absent
  | .sign .ellipsis => constant .ellipsis
  | .sign .openParen =>
      let _ ← next
      parenthesized inner first
  | .sign .openSquare =>
      let _ ← next
      bracketed inner first
  | .sign .openBrace =>
      let _ ← next
      braced inner first
  | _ => failure

def callNode (first : Place) (callee : Ast) (args : Arguments) : Parse Ast :=
  build first .call
    (.child "func" callee <| .list "args" args.positional <| .list "keywords" args.keywords .nil)

/-- The call of `callee`, whose parenthesis comes next. A generator may be the
only argument without parentheses of its own. -/
def callOf (inner : Inner) (first : Place) (callee : Ast) : Parse Ast := do
  let opening ← here
  sign .openParen
  if startsExpression (← peek) && !((← peek) = .name && (← peekSecond) = .sign .assign) then
    let a ← named inner
    if startsClause (← peek) then
      let cs ← clauses inner
      sign .closeParen
      let g ← build opening .generatorExp (.child "elt" a <| .list "generators" cs .nil)
      callNode first callee { positional := [g] }
    else
      let args ← afterArgument (argumentsFrom inner (← remaining)) .positional
      sign .closeParen
      callNode first callee (args.withPositional a)
  else
    let args ← arguments inner
    sign .closeParen
    callNode first callee args

/-- What may follow an atom: attributes, calls and subscripts. -/
def trailers (inner : Inner) (first : Place) : Nat → Ast → Parse Ast
  | 0, a => return a
  | n + 1, a => do
      match ← peek with
      | .sign .dot =>
          let _ ← next
          let l ← nameLexeme
          let b ← buildValue first .attribute (.text (identifier l))
            (.child "value" a <| .plain "attr" .nil)
          trailers inner first n b
      | .sign .openParen =>
          let b ← callOf inner first a
          trailers inner first n b
      | .sign .openSquare =>
          let _ ← next
          let i ← indices inner
          sign .closeSquare
          let b ← build first .subscript (.child "value" a <| .child "slice" i .nil)
          trailers inner first n b
      | _ => return a

def primary (inner : Inner) : Parse Ast := do
  let first ← here
  let a ← atom inner
  trailers inner first (← remaining) a

/-- A primary, perhaps awaited, perhaps raised to a power. -/
def power (inner : Inner) : Parse Ast := do
  let first ← here
  let base ←
    if ← acceptWord .kAwait then
      let a ← primary inner
      build first .await (.child "value" a .nil)
    else primary inner
  if ← acceptSign .power then
    let exponent ← inner .factor
    build first .binOp
      (.child "left" base <| .child "op" (.operator "Pow") <| .child "right" exponent .nil)
  else return base

def factor (inner : Inner) : Parse Ast := do
  let first ← here
  match ← peek with
  | .sign s =>
      match unarySign s with
      | some name =>
          let _ ← next
          let a ← inner .factor
          build first .unaryOp (.child "op" (.operator name) <| .child "operand" a .nil)
      | none => power inner
  | _ => power inner

/-- Bitwise and arithmetic operators, loosest last. -/
def bitOr (inner : Inner) : Parse Ast :=
  leftGrouped bitOrSign <| leftGrouped bitXorSign <| leftGrouped bitAndSign <|
    leftGrouped shiftSign <| leftGrouped sumSign <| leftGrouped termSign <| factor inner

def comparison (inner : Inner) : Parse Ast := do
  let first ← here
  let left ← bitOr inner
  let steps ← many do
    match ← comparison? with
    | some name => return some (name, ← bitOr inner)
    | none => return none
  if steps.isEmpty then return left
  else
    build first .compare
      (.child "left" left <| .list "ops" (steps.map fun s => .operator s.1) <|
        .list "comparators" (steps.map Prod.snd) .nil)

def inversion (inner : Inner) : Parse Ast := do
  let first ← here
  if ← acceptWord .kNot then
    let a ← inner .inversion
    build first .unaryOp (.child "op" (.operator "Not") <| .child "operand" a .nil)
  else comparison inner

/-- Operands joined by one logical operator, all at one level. -/
def logical (w : Word) (name : String) (operand : Parse Ast) : Parse Ast := do
  let first ← here
  let a ← operand
  let more ← many do
    if ← acceptWord w then return some (← operand) else return none
  if more.isEmpty then return a
  else build first .boolOp (.child "op" (.operator name) <| .list "values" (a :: more) .nil)

def disjunction (inner : Inner) : Parse Ast :=
  logical .kOr "Or" (logical .kAnd "And" (inversion inner))

def lambdaExpression (inner : Inner) : Parse Ast := do
  let first ← here
  word .kLambda
  let ps ← parameters inner false .colon
  sign .colon
  let body ← inner .expression
  build first .lambda (.child "args" ps.node <| .child "body" body .nil)

def expression (inner : Inner) : Parse Ast := do
  if (← peek) = .reserved .kLambda then lambdaExpression inner
  else
    let first ← here
    let a ← disjunction inner
    if ← acceptWord .kIf then
      let test ← inner .disjunction
      word .kElse
      let other ← inner .expression
      build first .ifExp (.child "test" test <| .child "body" a <| .child "orelse" other .nil)
    else return a

/-- A rule in terms of the rules one level further in. -/
def Rule.body (inner : Inner) : Rule → Parse Ast
  | .expression => Source.expression inner
  | .disjunction => Source.disjunction inner
  | .inversion => Source.inversion inner
  | .bitOr => Source.bitOr inner
  | .factor => Source.factor inner
  | .primary => Source.primary inner
  | .starExpressions => bareTuple startsStarred (starExpression inner)

/-- The rules of expressions, to the given depth of nesting. -/
def expressionRule : Nat → Inner
  | 0, _ => failure
  | n + 1, rule => rule.body (expressionRule n)

end QueryLint.Source
