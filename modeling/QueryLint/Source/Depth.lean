import QueryLint.Source.Lexeme

/-!
# How deep reading goes

A reader that follows the grammar has some of its rules open at every point of a text. How many
is estimated from the lexemes alone: a block or a bracket opens those that lead to an item in it,
and an operator those that lead to its operand, until an operator comes that binds less tightly.
-/

namespace QueryLint.Source

/-- What a level holds. -/
inductive Content where
  | statements
  | arguments
  | items
deriving DecidableEq

/-- A block or a bracket that is open. -/
structure Level where
  content : Content
  /-- The rules that lead to an item. -/
  steps : Nat
  /-- Further ones that lead to an item after the first. -/
  further : Nat := 0
  /-- The operators that an operand is missing for: how tightly each binds, and the rules that it
  opens. -/
  pending : List (Nat × Nat) := []
  /-- How many rules fewer lead into a bracket here. What a statement begins with is read as a
  target before it is read as an expression. -/
  spared : Nat := 0

namespace Level

/-- What a block spares at the start of a statement. -/
def sparedAtStart : Nat := 19

/-- What it spares behind an assignment. -/
def sparedAtValue : Nat := 18

def block (steps : Nat) : Level := { content := .statements, steps, spared := sparedAtStart }

/-- The rules that are open in a level by itself. -/
def rules (l : Level) : Nat := l.pending.foldl (fun n p => n + p.2) l.steps

/-- Behind an operator. Those that bind as tightly have their operands. -/
def operator (l : Level) (tightness rules : Nat) : Level :=
  { l with pending := (tightness, rules) :: l.pending.filter (·.1 < tightness), spared := 0 }

/-- Behind an operator that belongs to the operand of those that bind as tightly. -/
def nested (l : Level) (tightness rules : Nat) : Level :=
  { l with pending := (tightness, rules) :: l.pending.filter (·.1 ≤ tightness), spared := 0 }

/-- At another part of a statement. -/
def part (l : Level) (rules spared : Nat) : Level := { l with pending := [(0, rules)], spared }

/-- Behind a sign. Some have another meaning if an operand stands before them. -/
def behindSign (l : Level) (hasOperand : Bool) : Sign → Level
  | .comma => { l with steps := l.steps + l.further, further := 0, pending := [], spared := 0 }
  | .semicolon => l.part 2 sparedAtStart
  | .colon => if l.content = .statements then l.part 3 sparedAtStart else l.nested 0 0
  | .assign =>
      match l.content with
      | .statements => l.part 2 sparedAtValue
      -- an argument that is named costs as much as a later one
      | .arguments => { l.nested 0 0 with steps := l.steps + min 3 l.further, further := 1 }
      | .items => l.nested 0 0
  | .less | .greater | .equal | .notEqual | .lessEqual | .greaterEqual => l.operator 4 3
  | .power => if hasOperand then l.nested 6 2 else l.operator 5 0
  | .tilde => l.nested 6 1
  | .plus | .minus => if hasOperand then l.operator 5 0 else l.nested 6 1
  | .star | .slash | .floor | .percent | .at | .left | .right | .ampersand | .caret | .bar =>
      l.operator 5 0
  | .dot | .ellipsis | .closeParen | .closeSquare | .closeBrace => l
  | _ => if l.content = .statements then l.part 2 0 else { l with spared := 0 }

/-- Behind a reserved word. -/
def behindWord (l : Level) (hasOperand : Bool) : Word → Level
  | .kOr => l.operator 1 2
  | .kAnd => l.operator 2 2
  | .kNot =>
      if hasOperand then l.operator 4 3
      else if l.pending.head?.any (·.1 = 4) then l
      else l.nested 3 1
  | .kIn | .kIs => l.operator 4 3
  | .kLambda => l.nested 0 2
  | .kIf => l.nested 0 0
  | .kElse => l.nested 0 1
  | .kReturn => l.part 1 0
  | .kNone | .kTrue | .kFalse => l
  | _ => { l with spared := 0 }

/-- The level that a bracket opens. Behind an operand it holds arguments or an index. -/
def opened (l : Level) (hasOperand : Bool) : Sign → Option Level
  | .openParen => some (if hasOperand then inside .arguments 24 4 else inside .items 28 2)
  | .openSquare => some (if hasOperand then inside .items 24 3 else inside .items 29 1)
  | .openBrace => some (inside .items 29 1)
  | _ => none
where
  inside (content : Content) (steps further : Nat) : Level :=
    { content, steps := steps - l.spared, further }

end Level

/-- What is open at a point of a text. -/
structure Depth where
  level : Level
  /-- The levels around, from the inside. -/
  around : List Level := []
  /-- The rules that are open in the levels around. -/
  outer : Nat := 0
  /-- Whether an operand has just been read. -/
  hasOperand : Bool := false

namespace Depth

def start : Depth := { level := .block 0 }

def rules (d : Depth) : Nat := d.outer + d.level.rules

def enter (d : Depth) (l : Level) : Depth :=
  { level := l, around := d.level :: d.around, outer := d.rules }

def leave (d : Depth) : Depth :=
  match d.around with
  | l :: around => { d with level := l, around, outer := d.outer - l.rules }
  | [] => d

/-- Behind a lexeme. -/
def behind (d : Depth) (kind : Kind) : Depth :=
  match kind with
  | .name | .number | .string => { d with hasOperand := true }
  | .newline => { d with level := d.level.part 0 Level.sparedAtStart, hasOperand := false }
  | .indent => d.enter (.block 6)
  | .dedent => { d.leave with hasOperand := false }
  | .stop => d
  | .reserved word =>
      { d with
        level := d.level.behindWord d.hasOperand word
        hasOperand := word = .kNone || word = .kTrue || word = .kFalse }
  | .sign sign =>
      match d.level.opened d.hasOperand sign with
      | some l => d.enter l
      | none =>
          if sign = .closeParen || sign = .closeSquare || sign = .closeBrace then
            { d.leave with hasOperand := true }
          else
            { d with
              level := d.level.behindSign d.hasOperand sign
              hasOperand := sign = .ellipsis }

end Depth

/-- The greatest number of rules that are open at once when a text is read. -/
def openRules (lexemes : List Lexeme) : Nat :=
  let step (found : Depth × Nat) (l : Lexeme) : Depth × Nat :=
    let d := found.1.behind l.kind
    (d, max found.2 d.rules)
  (lexemes.foldl step (.start, 0)).2

end QueryLint.Source
