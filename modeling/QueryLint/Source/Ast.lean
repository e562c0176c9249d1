import QueryLint.Number.Binary64
import QueryLint.Source.Lexeme
import QueryLint.Text.Digits
import QueryLint.Text.Quoted

/-!
# Abstract syntax

Syntax trees as the grammar builds them: every construct has a form, a constant
value where the form carries one, an extent with byte offsets, and named fields.
A field holds one tree, a list that may also contain things that are not trees,
or nothing of the kind.
-/

namespace QueryLint.Source

/-- The forms of constructs. `operator` stands for the leaves that name an
operator. -/
inductive Form where
  | module | functionDef | asyncFunctionDef | classDef | returnStmt | delete | assign
  | augAssign | annAssign | forLoop | asyncFor | whileLoop | ifStmt | withStmt | asyncWith
  | matchStmt | raiseStmt | tryStmt | tryStar | assertStmt | importStmt | importFrom
  | globalStmt | nonlocalStmt | exprStmt | passStmt | breakStmt | continueStmt | boolOp
  | namedExpr | binOp | unaryOp | lambda | ifExp | dict | set | listComp | setComp | dictComp
  | generatorExp | await | yield | yieldFrom | compare | call | formattedValue | joinedStr
  | constant | attribute | subscript | starred | name | list | tuple | slice | comprehension
  | exceptHandler | arguments | arg | keyword | alias | withItem | matchCase | matchValue
  | matchSingleton | matchSequence | matchMapping | matchClass | matchStar | matchAs | matchOr
  | operator
deriving DecidableEq

/-- The name of a form in listings of a tree. -/
def Form.label : Form → String
  | .module => "Module"
  | .functionDef => "FunctionDef"
  | .asyncFunctionDef => "AsyncFunctionDef"
  | .classDef => "ClassDef"
  | .returnStmt => "Return"
  | .delete => "Delete"
  | .assign => "Assign"
  | .augAssign => "AugAssign"
  | .annAssign => "AnnAssign"
  | .forLoop => "For"
  | .asyncFor => "AsyncFor"
  | .whileLoop => "While"
  | .ifStmt => "If"
  | .withStmt => "With"
  | .asyncWith => "AsyncWith"
  | .matchStmt => "Match"
  | .raiseStmt => "Raise"
  | .tryStmt => "Try"
  | .tryStar => "TryStar"
  | .assertStmt => "Assert"
  | .importStmt => "Import"
  | .importFrom => "ImportFrom"
  | .globalStmt => "Global"
  | .nonlocalStmt => "Nonlocal"
  | .exprStmt => "Expr"
  | .passStmt => "Pass"
  | .breakStmt => "Break"
  | .continueStmt => "Continue"
  | .boolOp => "BoolOp"
  | .namedExpr => "NamedExpr"
  | .binOp => "BinOp"
  | .unaryOp => "UnaryOp"
  | .lambda => "Lambda"
  | .ifExp => "IfExp"
  | .dict => "Dict"
  | .set => "Set"
  | .listComp => "ListComp"
  | .setComp => "SetComp"
  | .dictComp => "DictComp"
  | .generatorExp => "GeneratorExp"
  | .await => "Await"
  | .yield => "Yield"
  | .yieldFrom => "YieldFrom"
  | .compare => "Compare"
  | .call => "Call"
  | .formattedValue => "FormattedValue"
  | .joinedStr => "JoinedStr"
  | .constant => "Constant"
  | .attribute => "Attribute"
  | .subscript => "Subscript"
  | .starred => "Starred"
  | .name => "Name"
  | .list => "List"
  | .tuple => "Tuple"
  | .slice => "Slice"
  | .comprehension => "comprehension"
  | .exceptHandler => "ExceptHandler"
  | .arguments => "arguments"
  | .arg => "arg"
  | .keyword => "keyword"
  | .alias => "alias"
  | .withItem => "withitem"
  | .matchCase => "match_case"
  | .matchValue => "MatchValue"
  | .matchSingleton => "MatchSingleton"
  | .matchSequence => "MatchSequence"
  | .matchMapping => "MatchMapping"
  | .matchClass => "MatchClass"
  | .matchStar => "MatchStar"
  | .matchAs => "MatchAs"
  | .matchOr => "MatchOr"
  | .operator => "operator"

/-- Constant values of syntax nodes. -/
inductive Value where
  | absent
  | text (s : String)
  | integer (n : Int)
  | float (x : Binary64)
  | imaginary (x : Binary64)
  | boolean (b : Bool)
  | bytes (bs : List UInt8)
  | ellipsis
deriving DecidableEq

namespace Value

/-- Whether a value has more decimal digits than can be written. -/
def isHuge : Value → Bool
  | .integer n => Binary64.pow10 Text.maxDecimalDigits ≤ n.natAbs
  | _ => false

/-- The value as it would be written in a source text. -/
def display : Value → String
  | .absent => "None"
  | .text s => Text.quoted s
  | .integer n => toString n
  | .float x => x.text
  | .imaginary x => x.bareText ++ "j"
  | .boolean b => if b then "True" else "False"
  | .bytes bs => Text.quotedBytes bs
  | .ellipsis => "Ellipsis"

end Value

/-- Where a construct stands: lines from one, offsets in bytes from zero, the end
excluded. -/
structure Extent where
  line : Nat
  offset : Nat
  endLine : Nat
  endOffset : Nat
deriving DecidableEq

def Extent.between (first last : Place) : Extent :=
  ⟨first.line, first.offset, last.line, last.offset⟩

mutual

/-- A construct. Auxiliary constructs have no extent of their own. -/
inductive Ast where
  | node (form : Form) (value : Value) (extent : Option Extent) (fields : Fields)

/-- Named fields in the order of the form. -/
inductive Fields where
  | nil
  | child (name : String) (tree : Ast) (rest : Fields)
  | items (name : String) (list : Items) (rest : Fields)
  | plain (name : String) (rest : Fields)

/-- The items of a list field; `other` is an item that is not a tree. -/
inductive Items where
  | nil
  | tree (head : Ast) (rest : Items)
  | other (rest : Items)

end

namespace Items

def ofList : List Ast → Items
  | [] => .nil
  | a :: rest => .tree a (ofList rest)

def ofOptions : List (Option Ast) → Items
  | [] => .nil
  | none :: rest => .other (ofOptions rest)
  | some a :: rest => .tree a (ofOptions rest)

/-- A list of `n` items none of which is a tree. -/
def others : Nat → Items
  | 0 => .nil
  | n + 1 => .other (others n)

end Items

namespace Fields

/-- A list field whose items are all trees. -/
def list (name : String) (trees : List Ast) (rest : Fields) : Fields :=
  .items name (Items.ofList trees) rest

/-- A field that may be empty. -/
def optional (name : String) (tree : Option Ast) (rest : Fields) : Fields :=
  match tree with
  | some a => .child name a rest
  | none => .plain name rest

end Fields

namespace Ast

def form : Ast → Form
  | .node f _ _ _ => f

def value : Ast → Value
  | .node _ v _ _ => v

def extent : Ast → Option Extent
  | .node _ _ e _ => e

def fields : Ast → Fields
  | .node _ _ _ fs => fs

/-- The leaf that names an operator. -/
def operator (sign : String) : Ast := .node .operator (.text sign) none .nil

end Ast

mutual

/-- The number of constructs on the longest way down. Operators do not count. -/
def Ast.height : Ast → Nat
  | .node _ _ _ fields => fields.height + 1

def Fields.height : Fields → Nat
  | .nil => 0
  | .child _ a rest => if a.form = .operator then rest.height else max a.height rest.height
  | .items _ list rest => max list.height rest.height
  | .plain _ rest => rest.height

def Items.height : Items → Nat
  | .nil => 0
  | .tree a rest => if a.form = .operator then rest.height else max a.height rest.height
  | .other rest => rest.height

end

end QueryLint.Source
