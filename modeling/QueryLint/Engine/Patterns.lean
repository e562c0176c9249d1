import QueryLint.Datum.Shape
import QueryLint.Glob
import QueryLint.Path

/-!
# Lists of patterns in the settings

The patterns are tried one after another, so a list that holds something other than
patterns fails only if none of the patterns before it matches.
-/

namespace QueryLint

/-- Patterns in order, and the failure that comes after them, if any. -/
structure Patterns where
  texts : List String
  failure : Option Failure

namespace Patterns

def ofItems : List Datum → Patterns
  | [] => ⟨[], none⟩
  | .text s :: rest =>
      let tail := ofItems rest
      ⟨s :: tail.texts, tail.failure⟩
  | .bytes _ :: _ => ⟨[], some .bytesPattern⟩
  | d :: _ => ⟨[], some (.notAPath d.shortTypeName)⟩

def ofDatum (d : Datum) : Patterns :=
  match d.items with
  | .ok items => ofItems items
  | .error failure => ⟨[], some failure⟩

/-- Whether one of the patterns matches a path or its last part. -/
def hit (texts : List String) (path name : String) : Bool :=
  texts.any fun p => Glob.matchesName p path || Glob.matchesName p name

def ask (p : Patterns) (path name : String) : Except Failure Bool :=
  if hit p.texts path name then .ok true
  else
    match p.failure with
    | some f => .error f
    | none => .ok false

end Patterns

end QueryLint
