import QueryLint.Text.Slice

/-!
# Spans

A span is a stretch of a source text between two positions. Lines count from one
and columns from zero, in characters. Positions need not lie in the text, so they
are integers; line zero means that there is no position at all.
-/

namespace QueryLint

structure Span where
  startLine : Int
  startColumn : Int
  endLine : Int
  endColumn : Int
deriving DecidableEq, Inhabited

namespace Span

def zero : Span := ⟨0, 0, 0, 0⟩

/-- The order of positions: by line, then by column. -/
def before (line column line' column' : Int) : Bool :=
  line < line' || (line == line' && column ≤ column')

/-- `inner` starts no earlier and ends no later. -/
def contains (outer inner : Span) : Bool :=
  before outer.startLine outer.startColumn inner.startLine inner.startColumn &&
    before inner.endLine inner.endColumn outer.endLine outer.endColumn

def hasPosition (s : Span) : Bool := 0 < s.startLine

/-- The lines strictly between the first and the last line of the span. -/
def innerLines (s : Span) (lines : List (List Char)) : List (List Char) :=
  (lines.drop s.startLine.toNat).take (s.endLine - s.startLine - 1).toNat

/-- The text of a span, or nothing if its last line is asked for and missing. A
span without position, or one that starts after the text, has an empty text. -/
def excerpt? (s : Span) (lines : List (List Char)) : Option (List Char) :=
  if lines.isEmpty || !s.hasPosition || (lines.length : Int) < s.startLine then some []
  else
    let first := (lines[(s.startLine - 1).toNat]?).getD []
    if s.startLine = s.endLine then some (Text.slice first s.startColumn s.endColumn)
    else
      let head := Text.sliceFrom first s.startColumn :: s.innerLines lines
      if s.endLine ≤ (lines.length : Int) then do
        let last ← Text.signedGet? lines (s.endLine - 1)
        some (List.intercalate ['\n'] (head ++ [Text.sliceTo last s.endColumn]))
      else some (List.intercalate ['\n'] head)

/-- The text of a span. -/
def excerpt (s : Span) (lines : List (List Char)) : List Char := (s.excerpt? lines).getD []

end Span

end QueryLint
