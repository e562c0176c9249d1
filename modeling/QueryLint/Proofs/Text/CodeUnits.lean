import Mathlib.Data.List.Chain
import QueryLint.Text.CodePoint

/-!
# Texts as code units

A character beyond the first plane has two code units, any other one has one. Two halves of a pair
that stand side by side have the code units of one character, and are that character when they are
read again. All other texts are what their code units make.
-/

namespace QueryLint.Text

/-- The code units of a character. -/
def units (c : Char) : List Nat :=
  if codePoint c < 0x10000 then [codePoint c]
  else [0xD800 + (codePoint c - 0x10000) / 0x400, 0xDC00 + (codePoint c - 0x10000) % 0x400]

/-- What the code units of a text make. -/
def rejoined (cs : List Char) : List Char := charsOfUnits (cs.flatMap units)

/-- The first and the second half of a pair. -/
def AreHalves (c d : Char) : Prop :=
  (0xD800 ≤ codePoint c ∧ codePoint c < 0xDC00) ∧ 0xDC00 ≤ codePoint d ∧ codePoint d < 0xE000

instance (c d : Char) : Decidable (AreHalves c d) := inferInstanceAs (Decidable (_ ∧ _ ∧ _))

/-- No two halves of a pair stand side by side. -/
def Unsplit (cs : List Char) : Prop := cs.IsChain fun c d => ¬AreHalves c d

instance (cs : List Char) : Decidable (Unsplit cs) := inferInstanceAs (Decidable (List.IsChain _ _))

theorem toNat_cases (c : Char) : c.toNat < 0xD800 ∨ 0xE000 ≤ c.toNat ∧ c.toNat < 0x110000 := by
  obtain h | h := c.valid
  · exact .inl h
  · exact .inr ⟨h.1, h.2⟩

theorem codePoint_cases (c : Char) :
    (isHalf c = true ∧ 0xD800 ≤ codePoint c ∧ codePoint c < 0xE000 ∧
      c.toNat = 0x100000 + codePoint c) ∨
    (isHalf c = false ∧ codePoint c = c.toNat) := by
  unfold codePoint
  by_cases h : isHalf c = true
  · have hbounds : 0x10D800 ≤ c.toNat ∧ c.toNat < 0x10E000 := by
      simpa [isHalf] using h
    rw [if_pos h]
    exact .inl ⟨h, by omega, by omega, by omega⟩
  · rw [if_neg h]
    exact .inr ⟨by simpa using h, rfl⟩

theorem charOfCodePoint_codePoint (c : Char) : charOfCodePoint (codePoint c) = c := by
  unfold charOfCodePoint isSurrogate
  obtain ⟨-, hlow, hhigh, hc⟩ | ⟨-, hc⟩ := codePoint_cases c
  · rw [if_pos (by simp [hlow, hhigh]), ← hc]
    exact Char.ofNat_toNat c
  · have hne := toNat_cases c
    rw [hc, if_neg (by simp; omega)]
    exact Char.ofNat_toNat c

/-- A character with two code units is not a half. -/
theorem codePoint_eq_toNat {c : Char} (h : ¬codePoint c < 0x10000) : codePoint c = c.toNat := by
  obtain ⟨-, -, hhigh, -⟩ | ⟨-, hc⟩ := codePoint_cases c
  · omega
  · exact hc

theorem charsOfUnits_cons {n : Nat} {ns : List Nat}
    (h : ∀ m ms, ns = m :: ms → ¬((0xD800 ≤ n ∧ n < 0xDC00) ∧ 0xDC00 ≤ m ∧ m < 0xE000)) :
    charsOfUnits (n :: ns) = charOfCodePoint n :: charsOfUnits ns := by
  cases ns with
  | nil => rfl
  | cons m ms =>
    have hnm := h m ms rfl
    rw [charsOfUnits, if_neg (by omega)]

/-- The first code unit of a text is the second half of a pair only if its first character is. -/
theorem head_units {c : Char} {cs : List Char} {m : Nat} {ms : List Nat}
    (h : (c :: cs).flatMap units = m :: ms) (hm : 0xDC00 ≤ m ∧ m < 0xE000) : codePoint c = m := by
  rw [List.flatMap_cons, units] at h
  split at h
  · exact (List.cons.inj h).1
  · have hhead := (List.cons.inj h).1
    have hc := toNat_cases c
    have hcode := codePoint_eq_toNat ‹_›
    omega

theorem rejoined_cons {c : Char} {cs : List Char}
    (h : ∀ d ds, cs = d :: ds → ¬AreHalves c d) : rejoined (c :: cs) = c :: rejoined cs := by
  unfold rejoined
  rw [List.flatMap_cons]
  by_cases hc : codePoint c < 0x10000
  · rw [units, if_pos hc, List.singleton_append, charsOfUnits_cons, charOfCodePoint_codePoint]
    rintro m ms hms ⟨hhigh, hlow⟩
    cases cs with
    | nil => cases hms
    | cons d ds =>
      have hd := head_units hms hlow
      exact h d ds rfl ⟨hhigh, hd ▸ hlow⟩
  · have hcode := codePoint_eq_toNat hc
    have hbound := toNat_cases c
    have hsum : 0x10000 + (0xD800 + (codePoint c - 0x10000) / 0x400 - 0xD800) * 0x400 +
        (0xDC00 + (codePoint c - 0x10000) % 0x400 - 0xDC00) = c.toNat := by omega
    rw [units, if_neg hc, List.cons_append, List.singleton_append, charsOfUnits,
      if_pos (by omega), hsum, Char.ofNat_toNat]

theorem rejoined_cons_of_not {c d : Char} (cs : List Char) (h : ¬AreHalves c d) :
    rejoined (c :: d :: cs) = c :: rejoined (d :: cs) := by
  refine rejoined_cons fun d' ds heq => ?_
  rwa [← (List.cons.inj heq).1]

theorem rejoined_cons_cons {c d : Char} (cs : List Char) (h : AreHalves c d) :
    ∃ e, rejoined (c :: d :: cs) = e :: rejoined cs := by
  obtain ⟨hc, hd⟩ := h
  have hunits : (c :: d :: cs).flatMap units = codePoint c :: codePoint d :: cs.flatMap units := by
    rw [List.flatMap_cons, List.flatMap_cons, units, units, if_pos (by omega), if_pos (by omega)]
    rfl
  rw [rejoined, hunits, charsOfUnits, if_pos ⟨hc.1, hc.2, hd⟩]
  exact ⟨_, rfl⟩

theorem length_rejoined_le (cs : List Char) : (rejoined cs).length ≤ cs.length := by
  induction cs using List.twoStepInduction with
  | nil => exact Nat.le_refl _
  | singleton c => exact Nat.le_of_eq (by rw [rejoined_cons (by simp)]; rfl)
  | cons_cons c d cs ih ih' =>
    by_cases h : AreHalves c d
    · obtain ⟨e, he⟩ := rejoined_cons_cons cs h
      rw [he]
      simp only [List.length_cons]
      omega
    · rw [rejoined_cons_of_not cs h, List.length_cons, List.length_cons]
      exact Nat.succ_le_succ (ih' d)

theorem rejoined_eq_nil_iff {cs : List Char} : rejoined cs = [] ↔ cs = [] := by
  refine ⟨fun h => ?_, fun h => by rw [h]; rfl⟩
  match cs with
  | [] => rfl
  | [c] =>
    rw [rejoined_cons (by simp)] at h
    cases h
  | c :: d :: cs =>
    by_cases hhalves : AreHalves c d
    · obtain ⟨e, he⟩ := rejoined_cons_cons cs hhalves
      rw [he] at h
      cases h
    · rw [rejoined_cons_of_not cs hhalves] at h
      cases h

/-- A text is what its code units make exactly if no two halves stand side by side. -/
theorem rejoined_eq_iff {cs : List Char} : rejoined cs = cs ↔ Unsplit cs := by
  induction cs with
  | nil => exact ⟨fun _ => .nil, fun _ => rfl⟩
  | cons c cs ih =>
    cases cs with
    | nil => exact ⟨fun _ => .singleton c, fun _ => rejoined_cons (by simp)⟩
    | cons d cs =>
      have hsplit : Unsplit (c :: d :: cs) ↔ ¬AreHalves c d ∧ Unsplit (d :: cs) :=
        List.isChain_cons_cons
      rw [hsplit]
      by_cases h : AreHalves c d
      · obtain ⟨e, he⟩ := rejoined_cons_cons cs h
        have hlength := length_rejoined_le cs
        refine ⟨fun heq => ?_, fun hboth => absurd h hboth.1⟩
        have hlen := congrArg List.length (he.symm.trans heq)
        simp only [List.length_cons] at hlen
        omega
      · rw [rejoined_cons_of_not cs h, List.cons_inj_right, ih]
        exact (and_iff_right h).symm

end QueryLint.Text
