/-!
# Searching in a text

Occurrences of one text in another, and texts padded to a width.
-/

namespace QueryLint.Text

/-- What follows `beginning` at the start of a text. -/
def afterPrefix? [BEq α] : (beginning text : List α) → Option (List α)
  | [], text => some text
  | _ :: _, [] => none
  | b :: bs, c :: cs => if b == c then afterPrefix? bs cs else none

/-- Whether `part` occurs somewhere in a text. -/
def hasInfix [BEq α] (part : List α) : List α → Bool
  | [] => part.isEmpty
  | c :: cs => part.isPrefixOf (c :: cs) || hasInfix part cs

/-- Whether `part` occurs in a text. -/
def occursIn (part text : String) : Bool := hasInfix part.toList text.toList

/-- A text moved to the right end of a field of the given width. -/
def padLeft (width : Nat) (s : String) : String :=
  String.ofList (List.replicate (width - s.length) ' ') ++ s

/-- A text at the left end of a field of the given width. -/
def padRight (width : Nat) (s : String) : String :=
  s ++ String.ofList (List.replicate (width - s.length) ' ')

end QueryLint.Text
