import Mathlib.Data.List.Lex
import Mathlib.Data.List.Nodup
import Mathlib.Order.Lattice
import QueryLint.Text.CodePoint

/-!
# The order of texts

Texts are ordered by their code points, also where a character stands for half of a surrogate
pair. Such a character is never meant for itself, and so no two texts have the same code points.
Hence this is a linear order, and texts that are told apart can be sorted in one way only.
-/

namespace QueryLint.Text

theorem codePoint_injective : Function.Injective codePoint := by
  intro c d h
  refine Char.toNat_inj.1 ?_
  -- the code points of halves are those that no other character has
  have hc : c.toNat < 0xD800 ∨ 0xDFFF < c.toNat ∧ c.toNat < 0x110000 := c.valid
  have hd : d.toNat < 0xD800 ∨ 0xDFFF < d.toNat ∧ d.toNat < 0x110000 := d.valid
  simp only [codePoint, isHalf, Bool.and_eq_true, decide_eq_true_eq] at h
  split at h <;> split at h <;> omega

theorem codePoints_injective : Function.Injective codePoints := by
  intro s t h
  exact String.toList_injective (codePoint_injective.list_map h)

/-- A text that is compared by its code points. -/
@[ext]
structure Collated where
  text : String
deriving DecidableEq

namespace Collated

theorem codePoints_text_injective : Function.Injective fun t : Collated => codePoints t.text :=
  fun _ _ h => Collated.ext (codePoints_injective h)

instance : LinearOrder Collated :=
  LinearOrder.lift' (fun t => codePoints t.text) codePoints_text_injective

end Collated

theorem comesBefore_iff {s t : String} : comesBefore s t = true ↔ Collated.mk s < ⟨t⟩ :=
  decide_eq_true_iff

theorem comesNoLater_iff {s t : String} : comesNoLater s t = true ↔ Collated.mk s ≤ ⟨t⟩ := by
  rw [comesNoLater, Bool.not_eq_true', ← not_lt, ← comesBefore_iff, Bool.not_eq_true]

theorem comesBefore_asymm {s t : String} (h : comesBefore s t = true) :
    ¬ comesBefore t s = true := by
  rw [comesBefore_iff] at h ⊢
  exact lt_asymm h

theorem comesBefore_irrefl (s : String) : ¬ comesBefore s s = true :=
  fun h => comesBefore_asymm h h

theorem comesNoLater_antisymm {s t : String} (hst : comesNoLater s t = true)
    (hts : comesNoLater t s = true) : s = t := by
  rw [comesNoLater_iff] at hst hts
  exact congrArg Collated.text (le_antisymm hst hts)

section Sorting

variable {α : Type} (name : α → String) (items : List α)

theorem pairwise_mergeSort_comesNoLater :
    (items.mergeSort fun a b => comesNoLater (name a) (name b)).Pairwise
      fun a b => comesNoLater (name a) (name b) = true := by
  refine List.pairwise_mergeSort (fun a b c hab hbc => ?_) (fun a b => ?_) items
  · rw [comesNoLater_iff] at hab hbc ⊢
    exact hab.trans hbc
  · rw [Bool.or_eq_true, comesNoLater_iff, comesNoLater_iff]
    exact le_total _ _

/-- Where all names are different, each one comes before those behind it. -/
theorem pairwise_mergeSort_comesBefore (h : (items.map name).Nodup) :
    (items.mergeSort fun a b => comesNoLater (name a) (name b)).Pairwise
      fun a b => comesBefore (name a) (name b) = true := by
  have hnodup : ((items.mergeSort fun a b => comesNoLater (name a) (name b)).map name).Nodup :=
    ((List.mergeSort_perm items _).map name).nodup_iff.2 h
  refine (pairwise_mergeSort_comesNoLater name items).imp₂ (fun a b hle hne => ?_)
    (List.pairwise_map.1 hnodup)
  rw [comesNoLater_iff] at hle
  rw [comesBefore_iff]
  exact lt_of_le_of_ne hle fun heq => hne (congrArg Collated.text heq)

end Sorting

end QueryLint.Text
