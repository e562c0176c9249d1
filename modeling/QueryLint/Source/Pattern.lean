import QueryLint.Source.Expression

/-!
# Patterns

The grammar of the patterns of a case. As with expressions, each rule is a
function of the pattern rule one level further in.
-/

namespace QueryLint.Source

open Parse

/-- A lone underscore, which matches anything and binds nothing. -/
def isWildcard (l : Lexeme) : Bool := l.chars == ['_']

/-- What can never follow a captured name. -/
def extendsName (k : Kind) : Bool :=
  k == .sign .dot || k == .sign .openParen || k == .sign .assign

/-- A name that a pattern binds. -/
def captureTarget : Parse Lexeme := do
  let l ← nameLexeme
  if isWildcard l || extendsName (← peek) then failure else return l

/-- The next name, if it is a lone underscore. -/
def wildcard? : Parse Bool := do
  match (← get).rest with
  | l :: _ =>
      if l.kind = .name && isWildcard l then
        let _ ← next
        return true
      else return false
  | [] => return false

def captureNode (first : Place) (pattern : Option Ast) : Parse Ast :=
  build first .matchAs (.optional "pattern" pattern <| .plain "name" .nil)

/-! ### Literal patterns -/

def isImaginary (a : Ast) : Bool :=
  match a.value with
  | .imaginary _ => true
  | _ => false

def plainNumber : Parse Ast := do
  if (← peek) = .number then numberAtom else failure

/-- A number with an optional minus sign; then perhaps an imaginary part, added or
taken away. -/
def signedNumber : Parse Ast := do
  let first ← here
  let negative ← acceptSign .minus
  let n ← plainNumber
  let real ←
    if negative then
      build first .unaryOp (.child "op" (.operator "USub") <| .child "operand" n .nil)
    else pure n
  match ← peek with
  | .sign .plus => complexFrom first n real "Add"
  | .sign .minus => complexFrom first n real "Sub"
  | _ => return real
where
  complexFrom (first : Place) (n real : Ast) (name : String) : Parse Ast := do
    let _ ← next
    let imaginary ← plainNumber
    if isImaginary n || !isImaginary imaginary then failure
    else
      build first .binOp
        (.child "left" real <| .child "op" (.operator name) <| .child "right" imaginary .nil)

/-- A literal other than the three constants, if one comes next. -/
def literal? (inner : Inner) : Parse (Option Ast) := do
  match ← peek with
  | .number | .sign .minus => return some (← signedNumber)
  | .string => return some (← strings inner)
  | _ => return none

def singleton? (k : Kind) : Option Value :=
  match k with
  | .reserved .kNone => some .absent
  | .reserved .kTrue => some (.boolean true)
  | .reserved .kFalse => some (.boolean false)
  | _ => none

/-! ### Names and classes -/

/-- A name with further names behind dots; also whether there was a dot. -/
def dotted : Parse (Ast × Bool) := do
  let first ← here
  let base ← nameAtom
  attributes first (← remaining) base false
where
  attributes (first : Place) : Nat → Ast → Bool → Parse (Ast × Bool)
    | 0, a, d => return (a, d)
    | n + 1, a, d => do
        if ← acceptSign .dot then
          let l ← nameLexeme
          let b ← buildValue first .attribute (.text (identifier l))
            (.child "value" a <| .plain "attr" .nil)
          attributes first n b true
        else return (a, d)

structure ClassArguments where
  positional : List Ast := []
  keywords : List Ast := []

/-- What has been seen of the arguments of a class pattern. -/
structure ClassStage where
  positional : Bool := false
  keyword : Bool := false

def afterClassArgument (more : ClassStage → Parse ClassArguments) (stage : ClassStage) :
    Parse ClassArguments := do
  if ← acceptSign .comma then more stage
  else if (← peek) = .sign .closeParen then return {}
  else failure

/-- The arguments of a class pattern up to the closing parenthesis. An underscore
before an equals sign is a keyword only if nothing positional stands before it. -/
def classArguments (self : Parse Ast) : Nat → ClassStage → Parse ClassArguments
  | 0, _ => failure
  | n + 1, stage => do
      if (← peek) = .sign .closeParen then return {}
      else if (← peek) = .name && (← peekSecond) = .sign .assign then
        let l ← nameLexeme
        if isWildcard l && stage.positional && !stage.keyword then failure
        else
          sign .assign
          let p ← self
          let more ← afterClassArgument (classArguments self n) { stage with keyword := true }
          return { more with keywords := p :: more.keywords }
      else if stage.keyword then failure
      else
        let p ← self
        let more ← afterClassArgument (classArguments self n) { stage with positional := true }
        return { more with positional := p :: more.positional }

def classPattern (self : Parse Ast) (first : Place) (cls : Ast) : Parse Ast := do
  sign .openParen
  let args ← classArguments self (← remaining) {}
  sign .closeParen
  build first .matchClass
    (.child "cls" cls <| .list "patterns" args.positional <|
      .items "kwd_attrs" (.others args.keywords.length) <| .list "kwd_patterns" args.keywords .nil)

/-- A captured name, a value behind dots, or a class. -/
def namePattern (self : Parse Ast) : Parse Ast := do
  let first ← here
  if ← wildcard? then captureNode first none
  else
    let (a, hasDot) ← dotted
    match ← peek with
    | .sign .openParen => classPattern self first a
    | .sign .assign => failure
    | _ => if hasDot then build first .matchValue (.child "value" a .nil) else captureNode first none

/-! ### Sequences and mappings -/

def starPattern : Parse Ast := do
  let first ← here
  sign .star
  if !(← wildcard?) then
    let _ ← captureTarget
  build first .matchStar (.plain "name" .nil)

def maybeStar (self : Parse Ast) : Parse Ast := do
  if (← peek) = .sign .star then starPattern else self

/-- Lexemes a pattern can start with. -/
def startsPattern : Kind → Bool
  | .name | .number | .string => true
  | .reserved w => (singleton? (.reserved w)).isSome
  | .sign s =>
      match s with
      | .openParen | .openSquare | .openBrace | .minus | .star => true
      | _ => false
  | _ => false

def sequenceNode (first : Place) (ps : List Ast) : Parse Ast :=
  build first .matchSequence (.list "patterns" ps .nil)

/-- After an opening parenthesis: a sequence, or one pattern, which keeps its own
extent. -/
def parenthesizedPattern (self : Parse Ast) (first : Place) : Parse Ast := do
  if ← acceptSign .closeParen then sequenceNode first []
  else
    let p ← maybeStar self
    let (more, comma) ← commaTail startsPattern (maybeStar self)
    sign .closeParen
    if comma then sequenceNode first (p :: more)
    else if p.form = .matchStar then failure
    else return p

def bracketedPattern (self : Parse Ast) (first : Place) : Parse Ast := do
  if ← acceptSign .closeSquare then sequenceNode first []
  else
    let p ← maybeStar self
    let (more, _) ← commaTail startsPattern (maybeStar self)
    sign .closeSquare
    sequenceNode first (p :: more)

/-- The key of a mapping pattern: a literal or a value behind dots. -/
def mappingKey (inner : Inner) : Parse Ast := do
  match ← literal? inner with
  | some a => return a
  | none =>
      match singleton? (← peek) with
      | some v => constant v
      | none =>
          let (a, hasDot) ← dotted
          if hasDot then return a else failure

/-- The entries of a mapping pattern up to the closing brace, and whether the last
one takes the rest. -/
def mappingEntries (inner : Inner) (self : Parse Ast) : Nat → Parse (List (Ast × Ast))
  | 0 => failure
  | n + 1 => do
      match ← peek with
      | .sign .closeBrace => return []
      | .sign .power =>
          let _ ← next
          let _ ← captureTarget
          let _ ← acceptSign .comma
          if (← peek) = .sign .closeBrace then return [] else failure
      | _ =>
          let key ← mappingKey inner
          sign .colon
          let p ← self
          if ← acceptSign .comma then return (key, p) :: (← mappingEntries inner self n)
          else if (← peek) = .sign .closeBrace then return [(key, p)]
          else failure

def mappingPattern (inner : Inner) (self : Parse Ast) (first : Place) : Parse Ast := do
  let entries ← mappingEntries inner self (← remaining)
  sign .closeBrace
  build first .matchMapping
    (.list "keys" (entries.map Prod.fst) <| .list "patterns" (entries.map Prod.snd) <|
      .plain "rest" .nil)

/-! ### Patterns -/

def closedPattern (inner : Inner) (self : Parse Ast) : Parse Ast := do
  let first ← here
  match ← literal? inner with
  | some a => build first .matchValue (.child "value" a .nil)
  | none =>
      match ← peek with
      | .name => namePattern self
      | .sign .openParen =>
          let _ ← next
          parenthesizedPattern self first
      | .sign .openSquare =>
          let _ ← next
          bracketedPattern self first
      | .sign .openBrace =>
          let _ ← next
          mappingPattern inner self first
      | k =>
          match singleton? k with
          | some _ =>
              let _ ← next
              build first .matchSingleton (.plain "value" .nil)
          | none => failure

/-- Alternatives, perhaps bound to a name as a whole. -/
def patternBody (inner : Inner) (self : Parse Ast) : Parse Ast := do
  let first ← here
  let alternatives ← separated .bar (closedPattern inner self)
  let p ←
    match alternatives with
    | [p] => pure p
    | ps => build first .matchOr (.list "patterns" ps .nil)
  if ← acceptWord .kAs then
    let _ ← captureTarget
    captureNode first (some p)
  else return p

/-- The rule of patterns, to the given depth of nesting. -/
def patternRule (inner : Inner) : Nat → Parse Ast
  | 0 => failure
  | n + 1 => patternBody inner (patternRule inner n)

/-- The pattern of a case: one pattern, or a sequence without brackets. -/
def casePattern (pattern : Parse Ast) : Parse Ast := do
  let first ← here
  let p ← maybeStar pattern
  let (more, comma) ← commaTail startsPattern (maybeStar pattern)
  if comma then sequenceNode first (p :: more)
  else if p.form = .matchStar then failure
  else return p

end QueryLint.Source
