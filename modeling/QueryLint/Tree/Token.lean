import QueryLint.Tree.Node

/-!
# Tokens

The significant tokens of a source text, with the forward scans that tracing a
name needs.
-/

namespace QueryLint

/-- What a token is. Further types are known by their names only. -/
inductive TokenType where
  | name
  | operator
  | string
  | number
  | other (label : String)
deriving DecidableEq

namespace TokenType

def label : TokenType → String
  | name => "NAME"
  | operator => "OP"
  | string => "STRING"
  | number => "NUMBER"
  | other l => l

def ofLabel (l : String) : TokenType :=
  if l == "NAME" then name
  else if l == "OP" then operator
  else if l == "STRING" then string
  else if l == "NUMBER" then number
  else other l

end TokenType

structure Token where
  type : TokenType
  string : String
  span : Span
deriving DecidableEq

namespace Token

/-- The token at a place; none outside the list. -/
def at? (tokens : List Token) (index : Int) : Option Token :=
  if index < 0 then none else tokens[index.toNat]?

/-- The place of the first token at or after `start` that satisfies `p`. -/
def findFrom? (p : Token → Bool) (start : Int) (tokens : List Token) : Option Nat :=
  ((tokens.drop start.toNat).findIdx? p).map (· + start.toNat)

/-- The tokens of a block: all of them for a module or a node without position,
otherwise those inside the block's span. -/
def inside (block : Node) (tokens : List Token) : List Token :=
  if block.kind = .module || !block.span.hasPosition then tokens
  else tokens.filter fun t => block.span.contains t.span

end Token

end QueryLint
