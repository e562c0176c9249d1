import QueryLint.Failure
import QueryLint.Language
import QueryLint.Source.Read
import QueryLint.Tree.OfAst

/-!
# Documents

A document is a source text with its tree and its tokens. Line ends are unified
and a leading byte-order mark is dropped before anything else is done, so every
span refers to the text that the document holds.
-/

namespace QueryLint

structure Document where
  path : String
  language : Language
  source : String
  root : Node
  tokens : List Token

namespace Document

/-- The text that is read for a given source. -/
def normalize (source : String) : List Char :=
  Text.unifyNewlines (Text.dropMark source.toList)

def linesOf (source : List Char) : List (List Char) := Text.newlineLines source

/-- The lines that spans of this document refer to. -/
def lines (d : Document) : List (List Char) := linesOf d.source.toList

/-- What reading has room for. It is a matter of the machine, so everything that is said about
documents holds whatever it is. -/
structure Limits where
  /-- The failure that reading a text ends with, given its tree if it is a program. -/
  breakOff? : List Char → Option Source.Ast → Option Failure

/-- Trees that are higher are not gone through. -/
def maxHeight : Nat := 992

/-- Trees that are higher are not even built. -/
def maxBuiltHeight : Nat := 2958

/-- The failure of a tree that is too high. -/
def heightFault? (tree : Source.Ast) : Option Failure :=
  if maxBuiltHeight < tree.height then some (.tooDeep .building)
  else if maxHeight < tree.height then some (.tooDeep .walking)
  else none

/-- Limits as they usually are. How deep reading goes is estimated. -/
def Limits.usual : Limits where
  breakOff? cs tree := if Source.overruns cs then some .outOfMemory else tree.bind heightFault?

/-- Reads a source; nothing if it is not a program of the language. -/
def read (language : Language) (path source : String) (limits : Limits := .usual) :
    Except Failure (Option Document) :=
  let cs := normalize source
  let program := Source.readProgram cs
  match limits.breakOff? cs (program.map Prod.fst) with
  | some failure => .error failure
  | none =>
      .ok (program.map fun (tree, tokens) =>
        ⟨path, language, String.ofList cs, Node.ofAst (linesOf cs) tree, tokens⟩)

/-- The tokens of a block. -/
def tokensIn (d : Document) (block : Node) : List Token := Token.inside block d.tokens

end Document

end QueryLint
