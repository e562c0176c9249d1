import QueryLint.Source.Pattern

/-!
# Statements

The grammar of statements and of whole source texts. A statement that holds a
block is a function of the rule for the statements inside the block.
-/

namespace QueryLint.Source

open Parse

/-! ### Simple statements -/

/-- Lexemes that end a simple statement. -/
def endsStatement (k : Kind) : Bool := k == .newline || k == .sign .semicolon

def augmentedSign : Sign → Option String
  | .plusAssign => some "Add"
  | .minusAssign => some "Sub"
  | .timesAssign => some "Mult"
  | .matrixAssign => some "MatMult"
  | .divideAssign => some "Div"
  | .moduloAssign => some "Mod"
  | .andAssign => some "BitAnd"
  | .orAssign => some "BitOr"
  | .xorAssign => some "BitXor"
  | .leftAssign => some "LShift"
  | .rightAssign => some "RShift"
  | .powerAssign => some "Pow"
  | .floorAssign => some "FloorDiv"
  | _ => none

/-- The right side of an assignment. -/
def assigned (e : Inner) : Parse Ast := do
  if (← peek) = .reserved .kYield then yieldExpression e else e .starExpressions

/-- The further targets of an assignment and its value, after the first target. -/
def assignmentTail (e : Inner) : Nat → Ast → Parse (List Ast × Ast)
  | 0, _ => failure
  | n + 1, a => do
      if ← acceptSign .assign then
        if !isTarget true a then failure
        else if (← peek) = .reserved .kYield then return ([a], ← yieldExpression e)
        else
          let (more, value) ← assignmentTail e n (← e .starExpressions)
          return (a :: more, value)
      else return ([], a)

/-- A statement that starts with an expression: an assignment of some kind, or the
expression alone. -/
def expressionStatement (e : Inner) : Parse Ast := do
  let first ← here
  let a ← e .starExpressions
  match ← peek with
  | .sign .assign =>
      let (targets, value) ← assignmentTail e (← remaining) a
      build first .assign
        (.list "targets" targets <| .child "value" value <| .plain "type_comment" .nil)
  | .sign .colon =>
      if !isSingleTarget a then failure
      else
        let _ ← next
        let note ← e .expression
        let value ← if ← acceptSign .assign then some <$> assigned e else pure none
        build first .annAssign
          (.child "target" a <| .child "annotation" note <| .optional "value" value <|
            .plain "simple" .nil)
  | .sign s =>
      match augmentedSign s with
      | some name =>
          if !isSingleTarget a then failure
          else
            let _ ← next
            let value ← assigned e
            build first .augAssign
              (.child "target" a <| .child "op" (.operator name) <| .child "value" value .nil)
      | none => build first .exprStmt (.child "value" a .nil)
  | _ => build first .exprStmt (.child "value" a .nil)

def returnStatement (e : Inner) (first : Place) : Parse Ast := do
  let a ← if endsStatement (← peek) then pure none else some <$> e .starExpressions
  build first .returnStmt (.optional "value" a .nil)

def raiseStatement (e : Inner) (first : Place) : Parse Ast := do
  if endsStatement (← peek) then
    build first .raiseStmt (.plain "exc" <| .plain "cause" .nil)
  else
    let a ← e .expression
    let cause ← if ← acceptWord .kFrom then some <$> e .expression else pure none
    build first .raiseStmt (.child "exc" a <| .optional "cause" cause .nil)

def deleteStatement (e : Inner) (first : Place) : Parse Ast := do
  let one : Parse Ast := do
    let a ← e .primary
    if isTarget false a then return a else failure
  let a ← one
  let (more, _) ← commaTail startsExpression one
  build first .delete (.list "targets" (a :: more) .nil)

def assertStatement (e : Inner) (first : Place) : Parse Ast := do
  let test ← e .expression
  let message ← if ← acceptSign .comma then some <$> e .expression else pure none
  build first .assertStmt (.child "test" test <| .optional "msg" message .nil)

/-- A statement that only lists names. -/
def namesStatement (form : Form) (first : Place) : Parse Ast := do
  let names ← separated .comma nameLexeme
  build first form (.items "names" (.others names.length) .nil)

/-! ### Imports -/

/-- A module name: names behind dots. -/
def moduleName : Parse Unit := do
  let _ ← separated .dot nameLexeme
  return ()

def aliasFields : Fields := .plain "name" (.plain "asname" .nil)

/-- An imported thing, perhaps under another name. -/
def importedAs (thing : Parse Unit) : Parse Ast := do
  let first ← here
  thing
  if ← acceptWord .kAs then
    let _ ← nameLexeme
  build first .alias aliasFields

def importStatement (first : Place) : Parse Ast := do
  let names ← separated .comma (importedAs moduleName)
  build first .importStmt (.list "names" names .nil)

def importedName : Parse Ast :=
  importedAs do
    let _ ← nameLexeme
    return ()

/-- Reads the dots of a relative import and tells whether there were any. -/
def relativeDots : Parse Bool := do
  let dots ← many do
    if ← acceptSign .dot then return some ()
    else if ← acceptSign .ellipsis then return some ()
    else return none
  return !dots.isEmpty

def importFromStatement (first : Place) : Parse Ast := do
  let relative ← relativeDots
  if !(relative && (← peek) = .reserved .kImport) then moduleName
  word .kImport
  let names ←
    match ← peek with
    | .sign .star => do
        let star ← here
        let _ ← next
        pure [← build star .alias aliasFields]
    | .sign .openParen => do
        let _ ← next
        let a ← importedName
        let (more, _) ← commaTail (· == .name) importedName
        sign .closeParen
        pure (a :: more)
    | _ => separated .comma importedName
  build first .importFrom
    (.plain "module" <| .list "names" names <| .plain "level" .nil)

/-- One simple statement. -/
def simpleStatement (e : Inner) : Parse Ast := do
  let first ← here
  match ← peek with
  | .reserved .kReturn => next *> returnStatement e first
  | .reserved .kImport => next *> importStatement first
  | .reserved .kFrom => next *> importFromStatement first
  | .reserved .kRaise => next *> raiseStatement e first
  | .reserved .kPass => next *> build first .passStmt .nil
  | .reserved .kDel => next *> deleteStatement e first
  | .reserved .kYield => do
      let a ← yieldExpression e
      build first .exprStmt (.child "value" a .nil)
  | .reserved .kAssert => next *> assertStatement e first
  | .reserved .kBreak => next *> build first .breakStmt .nil
  | .reserved .kContinue => next *> build first .continueStmt .nil
  | .reserved .kGlobal => next *> namesStatement .globalStmt first
  | .reserved .kNonlocal => next *> namesStatement .nonlocalStmt first
  | _ => expressionStatement e

/-- Simple statements on one line, separated by semicolons. -/
def simpleStatements (e : Inner) : Nat → Parse (List Ast)
  | 0 => failure
  | n + 1 => do
      let s ← simpleStatement e
      if ← acceptSign .semicolon then
        if ← accept .newline then return [s] else return s :: (← simpleStatements e n)
      else
        require .newline
        return [s]

/-! ### Compound statements -/

/-- The statements of a block: indented on lines of their own, or on the same
line. -/
def block (e : Inner) (inside : Parse (List Ast)) : Parse (List Ast) := do
  if ← accept .newline then
    require .indent
    let body ← inside
    require .dedent
    return body
  else simpleStatements e (← remaining)

def colonBlock (e : Inner) (inside : Parse (List Ast)) : Parse (List Ast) := do
  sign .colon
  block e inside

/-- The block behind an optional word. -/
def blockAfter (w : Word) (e : Inner) (inside : Parse (List Ast)) : Parse (Option (List Ast)) := do
  if ← acceptWord w then some <$> colonBlock e inside else return none

def elseBlock (e : Inner) (inside : Parse (List Ast)) : Parse (List Ast) := do
  return (← blockAfter .kElse e inside).getD []

def ifNode (first last : Place) (test : Ast) (body other : List Ast) : Ast :=
  .node .ifStmt .absent (some (.between first last))
    (.child "test" test <| .list "body" body <| .list "orelse" other .nil)

/-- A chain of conditions; each further condition stands in the alternative of the
one before, and all end together. -/
def ifStatement (e : Inner) (inside : Parse (List Ast)) (first : Place) : Parse Ast := do
  let test ← named e
  let body ← colonBlock e inside
  let further ← many do
    let place ← here
    if ← acceptWord .kElif then
      let test ← named e
      return some (place, test, ← colonBlock e inside)
    else return none
  let other ← elseBlock e inside
  let last := (← get).last
  let other := further.foldr (fun (place, test, body) rest => [ifNode place last test body rest]) other
  return ifNode first last test body other

def whileStatement (e : Inner) (inside : Parse (List Ast)) (first : Place) : Parse Ast := do
  let test ← named e
  let body ← colonBlock e inside
  let other ← elseBlock e inside
  build first .whileLoop (.child "test" test <| .list "body" body <| .list "orelse" other .nil)

def forStatement (e : Inner) (inside : Parse (List Ast)) (form : Form) (first : Place) :
    Parse Ast := do
  let t ← targets e
  word .kIn
  let source ← e .starExpressions
  let body ← colonBlock e inside
  let other ← elseBlock e inside
  build first form
    (.child "target" t <| .child "iter" source <| .list "body" body <| .list "orelse" other <|
      .plain "type_comment" .nil)

/-- An item of a with statement: a context, perhaps bound to a target. -/
def withItem (e : Inner) : Parse Ast := do
  let context ← e .expression
  let asTarget ← if ← acceptWord .kAs then some <$> target e else pure none
  return .node .withItem .absent none
    (.child "context_expr" context <| .optional "optional_vars" asTarget .nil)

/-- Items between parentheses, with the colon that must follow. -/
def parenthesizedItems (e : Inner) : Parse (List Ast) := do
  sign .openParen
  let a ← withItem e
  let (more, _) ← commaTail startsExpression (withItem e)
  sign .closeParen
  sign .colon
  return a :: more

def bareItems (e : Inner) : Parse (List Ast) := do
  let items ← separated .comma (withItem e)
  sign .colon
  return items

def withStatement (e : Inner) (inside : Parse (List Ast)) (form : Form) (first : Place) :
    Parse Ast := do
  let items ← parenthesizedItems e <|> bareItems e
  let body ← block e inside
  build first form
    (.list "items" items <| .list "body" body <| .plain "type_comment" .nil)

/-- One handler of a try statement, if one comes next; `star` tells which kind. -/
def handler? (e : Inner) (inside : Parse (List Ast)) (star : Bool) : Parse (Option Ast) := do
  let first ← here
  if (← peek) = .reserved .kExcept && ((← peekSecond) = .sign .star) = star then
    let _ ← next
    if star then sign .star
    let caught ← if !star && (← peek) = .sign .colon then pure none else some <$> e .expression
    if caught.isSome && (← acceptWord .kAs) then
      let _ ← nameLexeme
    let body ← colonBlock e inside
    return some (← build first .exceptHandler
      (.optional "type" caught <| .plain "name" <| .list "body" body .nil))
  else return none

def tryStatement (e : Inner) (inside : Parse (List Ast)) (first : Place) : Parse Ast := do
  let body ← colonBlock e inside
  let star := (← peek) = .reserved .kExcept && (← peekSecond) = .sign .star
  let handlers ← many (handler? e inside star)
  let other ← if handlers.isEmpty then pure [] else elseBlock e inside
  let final ← blockAfter .kFinally e inside
  if handlers.isEmpty && final.isNone then failure
  else
    build first (if star then .tryStar else .tryStmt)
      (.list "body" body <| .list "handlers" handlers <| .list "orelse" other <|
        .list "finalbody" (final.getD []) .nil)

/-! ### Definitions -/

def functionStatement (e : Inner) (inside : Parse (List Ast)) (form : Form)
    (decorators : List Ast) (first : Place) : Parse Ast := do
  let name ← nameLexeme
  sign .openParen
  let ps ← parameters e true .closeParen
  sign .closeParen
  let result ← if ← acceptSign .arrow then some <$> e .expression else pure none
  let body ← colonBlock e inside
  buildValue first form (.text (identifier name))
    (.plain "name" <| .child "args" ps.node <| .list "body" body <|
      .list "decorator_list" decorators <| .optional "returns" result <| .plain "type_comment" .nil)

def classStatement (e : Inner) (inside : Parse (List Ast)) (decorators : List Ast)
    (first : Place) : Parse Ast := do
  let name ← nameLexeme
  let args ←
    if ← acceptSign .openParen then
      let args ← arguments e
      sign .closeParen
      pure args
    else pure {}
  let body ← colonBlock e inside
  buildValue first .classDef (.text (identifier name))
    (.plain "name" <| .list "bases" args.positional <| .list "keywords" args.keywords <|
      .list "body" body <| .list "decorator_list" decorators .nil)

/-- A definition behind its decorators. -/
def definition (e : Inner) (inside : Parse (List Ast)) (decorators : List Ast) : Parse Ast := do
  let first ← here
  match ← peek with
  | .reserved .kDef => next *> functionStatement e inside .functionDef decorators first
  | .reserved .kClass => next *> classStatement e inside decorators first
  | .reserved .kAsync => do
      let _ ← next
      word .kDef
      functionStatement e inside .asyncFunctionDef decorators first
  | _ => failure

/-- Decorators, each on a line of its own. -/
def decorators (e : Inner) : Parse (List Ast) :=
  many do
    if ← acceptSign .at then
      let a ← named e
      require .newline
      return some a
    else return none

/-! ### Matching -/

/-- The subject of a match statement; a tuple may stand without parentheses. -/
def subject (e : Inner) : Parse Ast := do
  let first ← here
  let a ← starNamed e
  let (more, comma) ← commaTail startsStarred (starNamed e)
  if comma then build first .tuple (.list "elts" (a :: more) .nil)
  else if a.form = .starred then failure
  else return a

/-- A name with the given characters comes next. -/
def nextIsName (cs : List Char) : Parse Bool := do
  match (← get).rest with
  | l :: _ => return l.kind == .name && l.chars == cs
  | [] => return false

def case? (e : Inner) (pattern : Parse Ast) (inside : Parse (List Ast)) : Parse (Option Ast) := do
  if ← nextIsName ['c', 'a', 's', 'e'] then
    let _ ← next
    let p ← casePattern pattern
    let guard_ ← if ← acceptWord .kIf then some <$> named e else pure none
    let body ← colonBlock e inside
    return some (.node .matchCase .absent none
      (.child "pattern" p <| .optional "guard" guard_ <| .list "body" body .nil))
  else return none

/-- The head of a match statement. A name at the start of a line opens one only if
the whole head follows. -/
def matchHead (e : Inner) : Parse Ast := do
  let _ ← nameLexeme
  let a ← subject e
  sign .colon
  require .newline
  return a

def matchStatement (e : Inner) (pattern : Parse Ast) (inside : Parse (List Ast)) (first : Place)
    (a : Ast) : Parse Ast := do
  require .indent
  let cases ← many (case? e pattern inside)
  require .dedent
  if cases.isEmpty then failure
  else build first .matchStmt (.child "subject" a <| .list "cases" cases .nil)

/-! ### Statements -/

/-- One line of simple statements or one compound statement. -/
def statement (e : Inner) (pattern : Parse Ast) (inside : Parse (List Ast)) : Parse (List Ast) := do
  let first ← here
  match ← peek with
  | .reserved .kIf => one (next *> ifStatement e inside first)
  | .reserved .kWhile => one (next *> whileStatement e inside first)
  | .reserved .kFor => one (next *> forStatement e inside .forLoop first)
  | .reserved .kTry => one (next *> tryStatement e inside first)
  | .reserved .kWith => one (next *> withStatement e inside .withStmt first)
  | .reserved .kDef | .reserved .kClass => one (definition e inside [])
  | .sign .at => one do definition e inside (← decorators e)
  | .reserved .kAsync =>
      match ← peekSecond with
      | .reserved .kFor => one (next *> next *> forStatement e inside .asyncFor first)
      | .reserved .kWith => one (next *> next *> withStatement e inside .asyncWith first)
      | _ => one (definition e inside [])
  | _ =>
      if ← nextIsName ['m', 'a', 't', 'c', 'h'] then
        match ← attempt (matchHead e) with
        | some a => one (matchStatement e pattern inside first a)
        | none => simpleStatements e (← remaining)
      else simpleStatements e (← remaining)
where
  one (p : Parse Ast) : Parse (List Ast) := do return [← p]

/-- One or more statements, up to where their block ends. -/
def statementsBody (e : Inner) (pattern : Parse Ast) (inside : Parse (List Ast)) :
    Parse (List Ast) := do
  let groups ← many do
    match ← peek with
    | .dedent | .stop => return none
    | _ => return some (← statement e pattern inside)
  if groups.isEmpty then failure else return groups.flatten

/-- The statements of a block, to the given depth of nesting. -/
def statementsRule (e : Inner) (pattern : Parse Ast) : Nat → Parse (List Ast)
  | 0 => failure
  | n + 1 => statementsBody e pattern (statementsRule e pattern n)

/-- A whole source text. -/
def moduleRule (e : Inner) (pattern : Parse Ast) (depth : Nat) : Parse Ast := do
  let body ← if (← peek) = .stop then pure [] else statementsRule e pattern depth
  require .stop
  return .node .module .absent none (.list "body" body <| .list "type_ignores" [] .nil)

/-- A single expression or a tuple of expressions, with nothing else but line ends. -/
def evaluationRule (e : Inner) : Parse Ast := do
  let a ← bareTuple startsExpression (e .expression)
  let _ ← many do
    if ← accept .newline then return some () else return none
  require .stop
  return a

end QueryLint.Source
