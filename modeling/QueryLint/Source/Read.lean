import QueryLint.Source.Depth
import QueryLint.Source.Statement
import QueryLint.Source.Tokens
import QueryLint.Text.CodePoint
import QueryLint.Text.Lines

/-!
# Reading a source text

From a text to its syntax tree and its significant tokens. A text that is not a
program has neither.
-/

namespace QueryLint.Source

open QueryLint.Text

/-! ### Programs -/

/-- A text ends with a newline. -/
def endLine (cs : List Char) : List Char :=
  if cs.getLast? = some '\n' then cs else cs ++ ['\n']

/-- A text that a program can be read from holds neither nulls nor halves of characters. -/
def isReadable (cs : List Char) : Bool := cs.all fun c => c != '\x00' && !isHalf c

/-- The deepest nesting that a text of this length can have. -/
def depthFor (cs : List Char) : Nat := 2 * cs.length + 8

/-- The syntax tree and the tokens of a text. -/
def readProgram (cs : List Char) : Option (Ast × List Token) := do
  if !isReadable cs then none
  else
    let lexemes ← scan .start (endLine cs)
    let depth := depthFor cs
    let e := expressionRule depth
    let (tree, _) ← moduleRule e (patternRule e depth) depth (.before lexemes .start)
    return (tree, ← tokens? cs)

/-- How many rules of the grammar may be open at once, those apart that every expression
begins with. -/
def maxRules : Nat := 5969

/-- Whether reading a text goes too deep, by the estimate for its lexemes. -/
def overruns (cs : List Char) : Bool :=
  match scan .start (endLine cs) with
  | some lexemes => isReadable cs && maxRules < openRules lexemes
  | none => false

/-- The syntax tree of a text that is a single expression. -/
def readExpression (cs : List Char) : Option Ast := do
  if !isReadable cs then none
  else
    let cs := unifyNewlines cs
    let lexemes ← scan .start cs
    let (tree, _) ← evaluationRule (expressionRule (depthFor cs)) (.before lexemes .start)
    some tree

/-! ### Literal expressions -/

/-- Why an expression has no literal value. -/
inductive LiteralError where
  /-- It is not built from literals. -/
  | malformed
  /-- A key or a member of a set is itself a list, a set or a dictionary. -/
  | unhashable
deriving DecidableEq

/-- Members in order: each must have a value, and then be fit to be a key. -/
def checkMembers : List (Except LiteralError Bool) → Except LiteralError Unit
  | [] => .ok ()
  | .error e :: _ => .error e
  | .ok hashable :: rest => if hashable then checkMembers rest else .error .unhashable

/-- Entries in order: key, value, and then the fitness of the key. -/
def checkEntries :
    List (Except LiteralError Bool) → List (Except LiteralError Bool) → Except LiteralError Unit
  | .error e :: _, _ => .error e
  | .ok _ :: _, .error e :: _ => .error e
  | .ok hashable :: keys, .ok _ :: values =>
      if hashable then checkEntries keys values else .error .unhashable
  | _, _ => .ok ()

def isNumber (a : Ast) : Bool :=
  a.form == .constant &&
    match a.value with
    | .integer _ | .float _ | .imaginary _ => true
    | _ => false

/-- The single trees among the fields. -/
def childTrees : Fields → List Ast
  | .nil => []
  | .child _ a rest => if a.form = .operator then childTrees rest else a :: childTrees rest
  | .items _ _ rest => childTrees rest
  | .plain _ rest => childTrees rest

def operatorIs (names : List String) : Fields → Bool
  | .nil => false
  | .child _ a rest =>
      (a.form == .operator && names.any fun n => a.value == .text n) || operatorIs names rest
  | .items _ _ rest => operatorIs names rest
  | .plain _ rest => operatorIs names rest

/-- A number with an optional sign. -/
def isSignedNumber : Ast → Bool
  | .node .unaryOp _ _ fields =>
      operatorIs ["UAdd", "USub"] fields && (childTrees fields).all isNumber
  | a => isNumber a

/-- A signed real number plus or minus an imaginary one. -/
def isComplexSum : Ast → Bool
  | .node .binOp _ _ fields =>
      operatorIs ["Add", "Sub"] fields &&
        match childTrees fields with
        | [left, right] => isSignedNumber left && !hasImaginary left && isImaginary right
        | _ => false
  | _ => false
where
  hasImaginary : Ast → Bool
    | .node .unaryOp _ _ fields => (childTrees fields).any isImaginary
    | a => isImaginary a

def hasNoItems : Fields → Bool
  | .nil => true
  | .child _ _ rest => hasNoItems rest
  | .items _ .nil rest => hasNoItems rest
  | .items _ _ _ => false
  | .plain _ rest => hasNoItems rest

/-- The empty set, which has no display of its own. -/
def isEmptySet : Ast → Bool
  | .node .call _ _ fields =>
      hasNoItems fields &&
        match childTrees fields with
        | [f] => f.form == .name && f.value == .text "set"
        | _ => false
  | _ => false

mutual

/-- Whether an expression is a literal, and then whether its value can be a key. -/
def literalValue : Ast → Except LiteralError Bool
  | .node form value extent fields =>
      match form with
      | .constant => .ok true
      | .tuple => do
          let members ← (listResults fields).flatten.mapM id
          return members.all id
      | .list => do
          let _ ← (listResults fields).flatten.mapM id
          return false
      | .set => do
          checkMembers (listResults fields).flatten
          return false
      | .dict =>
          match listResults fields with
          | [keys, values] => do
              checkEntries keys values
              return false
          | _ => .error .malformed
      | _ =>
          let a := Ast.node form value extent fields
          if isEmptySet a then .ok false
          else if isSignedNumber a || isComplexSum a then .ok true
          else .error .malformed

/-- The results for the list fields. -/
def listResults : Fields → List (List (Except LiteralError Bool))
  | .nil => []
  | .child _ _ rest => listResults rest
  | .items _ list rest => itemResults list :: listResults rest
  | .plain _ rest => listResults rest

def itemResults : Items → List (Except LiteralError Bool)
  | .nil => []
  | .tree a rest => literalValue a :: itemResults rest
  | .other rest => .error .malformed :: itemResults rest

end

/-- The text a literal expression denotes: nothing if it is no literal or not a
text. -/
def textLiteral (s : String) : Except LiteralError (Option String) :=
  match readExpression (s.toList.dropWhile fun c => c == ' ' || c == '\t') with
  | none => .ok none
  | some a =>
      match literalValue a with
      | .error .malformed => .ok none
      | .error .unhashable => .error .unhashable
      | .ok _ =>
          match a.form, a.value with
          | .constant, .text t => .ok (some t)
          | _, _ => .ok none

end QueryLint.Source
