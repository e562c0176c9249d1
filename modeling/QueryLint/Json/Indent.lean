import QueryLint.Failure
import QueryLint.Json.Writer

/-!
# Indentation as a setting

An indentation is a number of blanks or a text that stands for one level; without
one, everything stands on one line. Numbers with too many digits are not written.
-/

namespace QueryLint

namespace Text

/-- The greatest number that can count items. -/
def maxCount : Int := 9223372036854775807

/-- Repeated texts are no longer than this where nothing else is said. How much is held is a
matter of the machine. -/
def usualRoom : Int := 4294967296

/-- How often a text is repeated, if there is room for it; never, if the number is negative. -/
def repetitions (n : Int) (room : Int := usualRoom) : Except Failure Nat :=
  if maxCount < n ∨ n < -maxCount - 1 then .error .overflow
  else if room < n then .error .outOfMemory
  else .ok n.toNat

/-- A number that can be counted, for as many repetitions as there is room for. -/
def IsRepeatable (room n : Int) : Prop := -maxCount - 1 ≤ n ∧ n ≤ maxCount ∧ n ≤ room

instance (room n : Int) : Decidable (IsRepeatable room n) :=
  inferInstanceAs (Decidable (_ ∧ _))

theorem repetitions_eq_ok_iff {n room : Int} {count : Nat} :
    repetitions n room = .ok count ↔ IsRepeatable room n ∧ count = n.toNat := by
  unfold repetitions IsRepeatable
  by_cases hcount : maxCount < n ∨ n < -maxCount - 1
  · rw [if_pos hcount]
    exact ⟨nofun, fun h => by omega⟩
  · by_cases hroom : room < n
    · rw [if_neg hcount, if_pos hroom]
      exact ⟨nofun, fun h => by omega⟩
    · rw [if_neg hcount, if_neg hroom, Except.ok.injEq, eq_comm]
      exact ⟨fun h => ⟨⟨by omega, by omega, by omega⟩, h⟩, fun h => h.2⟩

end Text

namespace Json

/-- How often a text is repeated if a value says so. -/
def repetitions (j : Json) (room : Int := Text.usualRoom) : Except Failure Nat :=
  match j with
  | int n => Text.repetitions n room
  | bool b => Text.repetitions b.toNat room
  | j => .error (.notACount j.typeName)

/-- The layout that an indentation asks for. -/
def Layout.ofJson (j : Json) (room : Int := Text.usualRoom) : Except Failure Layout :=
  match j with
  | .null => .ok .oneLine
  | .string s => .ok (.indented s.toList)
  | j => do return .blanks (← j.repetitions room)

/-- Whether a whole number in a value has too many digits. -/
def isHuge (j : Json) : Bool :=
  j.parts.any fun
    | int n => Binary64.pow10 Text.maxDecimalDigits ≤ n.natAbs
    | _ => false

/-- The text of a value in a layout, if there is one. -/
def writeUnder (layout : Except Failure Layout) (j : Json) : Except Failure String := do
  let layout ← layout
  if j.isHuge then throw .hugeNumber
  return j.writeIn layout

end Json

end QueryLint
