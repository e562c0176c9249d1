import Mathlib.Data.List.Basic
import QueryLint.Glob

/-!
# What patterns stand for

A pattern is matched from the end of a text, for all places in it at once. The answer at the
start is the one that the pieces of the pattern give when they are read one after another: a star
takes any stretch of the text, slashes included, and every other piece takes one character. A
half of a pair is a character like any other, and in a range it is compared by its code point.
-/

namespace QueryLint.Glob

/-- Pieces of a pattern stand, one after another, for the whole of a text. -/
inductive Stands : List Piece → List Char → Prop
  | nil : Stands [] []
  | star (before : List Char) {after : List Char} {rest : List Piece} (h : Stands rest after) :
      Stands (.star :: rest) (before ++ after)
  | one {p : Piece} {c : Char} {rest : List Piece} {cs : List Char} (hc : p.accepts c = true)
      (h : Stands rest cs) : Stands (p :: rest) (c :: cs)

/-- A pattern stands for a text. -/
def Matches (pattern text : String) : Prop := Stands (pieces pattern) text.toList

theorem stands_nil_iff {cs : List Char} : Stands [] cs ↔ cs = [] :=
  ⟨fun h => by cases h; rfl, fun h => h ▸ .nil⟩

theorem stands_star_iff {rest : List Piece} {cs : List Char} :
    Stands (.star :: rest) cs ↔ ∃ before after, cs = before ++ after ∧ Stands rest after := by
  constructor
  · intro h
    cases h with
    | star before h => exact ⟨before, _, rfl, h⟩
    | one hc h => cases hc
  · rintro ⟨before, after, rfl, h⟩
    exact .star before h

theorem stands_star_cons_iff {rest : List Piece} {c : Char} {cs : List Char} :
    Stands (.star :: rest) (c :: cs) ↔ Stands rest (c :: cs) ∨ Stands (.star :: rest) cs := by
  constructor
  · intro h
    obtain ⟨before, after, hcut, hrest⟩ := stands_star_iff.1 h
    cases before with
    | nil => exact .inl (hcut ▸ hrest)
    | cons d before =>
      obtain ⟨-, rfl⟩ := List.cons.inj hcut
      exact .inr (.star before hrest)
  · rintro (h | h)
    · exact .star [] h
    · obtain ⟨before, after, rfl, hrest⟩ := stands_star_iff.1 h
      exact .star (c :: before) hrest

theorem stands_one_iff {p : Piece} (hp : p ≠ .star) {rest : List Piece} {cs : List Char} :
    Stands (p :: rest) cs ↔
      ∃ c after, cs = c :: after ∧ p.accepts c = true ∧ Stands rest after := by
  constructor
  · intro h
    cases h with
    | star before h => exact absurd rfl hp
    | one hc h => exact ⟨_, _, rfl, hc, h⟩
  · rintro ⟨c, after, rfl, hc, h⟩
    exact .one hc h

theorem answers_ne_nil (ps : List Piece) (cs : List Char) : answers ps cs ≠ [] := by
  induction ps with
  | nil => simp [answers]
  | cons p ps ih =>
    obtain ⟨b, bs, hrest⟩ := List.exists_cons_of_ne_nil ih
    cases p <;> cases cs <;> simp [answers, hrest, anyFrom, advance]

/-- The answers for what follows a character are those after the first. -/
theorem tail_answers (ps : List Piece) (cs : List Char) :
    (answers ps cs).tail = if cs = [] then [] else answers ps cs.tail := by
  induction ps with
  | nil => cases cs <;> simp [answers]
  | cons p ps ih =>
    obtain ⟨b, bs, hrest⟩ := List.exists_cons_of_ne_nil (answers_ne_nil ps cs)
    rw [hrest, List.tail_cons] at ih
    cases p <;> cases cs <;> simp_all [answers, anyFrom, advance]

theorem tail_answers_cons (ps : List Piece) (c : Char) (cs : List Char) :
    (answers ps (c :: cs)).tail = answers ps cs := by
  simp [tail_answers]

theorem headD_anyFrom (bs : List Bool) :
    (anyFrom bs).headD false = (bs.headD false || (anyFrom bs.tail).headD false) := by
  cases bs <;> simp [anyFrom]

/-- For a piece that takes one character, the answer is yes if it takes the first one and the
answer for the rest is yes. -/
theorem headD_advance_cons (p : Piece) (c : Char) (cs : List Char) {bs : List Bool}
    (h : bs ≠ []) :
    (advance p (c :: cs) bs).headD false = (p.accepts c && bs.tail.headD false) := by
  cases bs with
  | nil => exact absurd rfl h
  | cons b bs => rfl

theorem answers_of_ne_star {p : Piece} (hp : p ≠ .star) (rest : List Piece) (cs : List Char) :
    answers (p :: rest) cs = advance p cs (answers rest cs) := by
  cases p with
  | star => exact absurd rfl hp
  | _ => rfl

theorem headD_answers (ps : List Piece) (cs : List Char) :
    (answers ps cs).headD false = true ↔ Stands ps cs := by
  induction ps generalizing cs with
  | nil => cases cs <;> simp [answers, stands_nil_iff]
  | cons p rest ih =>
    by_cases hp : p = .star
    · -- a star takes one character more or leaves the text to the rest of the pattern
      subst hp
      induction cs with
      | nil =>
        have hhead := ih []
        simp only [answers, headD_anyFrom, tail_answers, if_true, anyFrom, List.headD_nil,
          Bool.or_false, hhead, stands_star_iff]
        simp
      | cons c cs ihc =>
        rw [answers] at ihc
        rw [answers, headD_anyFrom, tail_answers_cons, Bool.or_eq_true, ih, ihc,
          stands_star_cons_iff]
    · rw [answers_of_ne_star hp, stands_one_iff hp]
      cases cs with
      | nil => simp [advance]
      | cons c cs =>
        rw [headD_advance_cons p c cs (answers_ne_nil rest (c :: cs)), tail_answers_cons,
          Bool.and_eq_true, ih]
        simp

theorem matchesName_iff (pattern name : String) :
    matchesName pattern name = true ↔ Matches pattern name :=
  headD_answers (pieces pattern) name.toList

-- the empty range is gone, and the exclamation mark behind it comes to stand in front
example : ["b", "-", "z"].map (matchesName "[b-a!-z]") = [true, false, false] := by
  decide +kernel

-- the halves of pairs lie below the last letters of the basic plane
example : let half := Text.charOfCodePoint 0xDC80
    (Range.mk 'a' half).contains 'ｚ' = false ∧ (Range.mk 'a' 'ｚ').contains half = true := by
  decide +kernel

instance (pattern text : String) : Decidable (Matches pattern text) :=
  decidable_of_iff _ (matchesName_iff pattern text)

/-- Characters that stand for themselves take a text that starts with them. -/
theorem stands_ones_append_iff (cs : List Char) {rest : List Piece} {text : List Char} :
    Stands (cs.map .one ++ rest) text ↔ ∃ after, text = cs ++ after ∧ Stands rest after := by
  induction cs generalizing text with
  | nil => simp
  | cons c cs ih =>
    rw [List.map_cons, List.cons_append, stands_one_iff (by simp)]
    simp only [ih, Piece.accepts, beq_iff_eq]
    constructor
    · rintro ⟨d, after, rfl, rfl, after', rfl, h⟩
      exact ⟨after', rfl, h⟩
    · rintro ⟨after, rfl, h⟩
      exact ⟨c, cs ++ after, rfl, rfl, after, rfl, h⟩

theorem stands_ones_iff (cs text : List Char) : Stands (cs.map .one) text ↔ text = cs := by
  have h : Stands (cs.map .one ++ []) text ↔ ∃ after, text = cs ++ after ∧ Stands [] after :=
    stands_ones_append_iff cs
  simpa [stands_nil_iff] using h

/-- Two stars take anything. -/
theorem stands_stars (text : List Char) : Stands [.star, .star] text :=
  stands_star_iff.2 ⟨[], text, rfl, stands_star_iff.2 ⟨text, [], by simp, .nil⟩⟩

end QueryLint.Glob
