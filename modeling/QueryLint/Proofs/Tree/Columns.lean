import Mathlib.Data.Nat.Count
import QueryLint.Proofs.Text.Utf8
import QueryLint.Tree.OfAst

/-!
# Columns of byte offsets

A byte offset in a line becomes the number of characters that end at or before it. This is the
length of what the bytes before it decode to: a character that is cut by the offset is ill-formed
there and left out. Columns and the numbers of bytes of the first characters determine each other:
a column reaches a number of characters exactly if the offset reaches the bytes of these.
-/

namespace QueryLint

namespace Text

/-- The bytes of a text. -/
def bytesOf (cs : List Char) : List UInt8 := cs.flatMap String.utf8EncodeChar

theorem bytesOf_append (cs ds : List Char) : bytesOf (cs ++ ds) = bytesOf cs ++ bytesOf ds :=
  List.flatMap_append

theorem length_bytesOf_cons (c : Char) (cs : List Char) :
    (bytesOf (c :: cs)).length = c.utf8Size + (bytesOf cs).length := by
  rw [bytesOf, List.flatMap_cons, List.length_append, String.length_utf8EncodeChar]
  rfl

theorem length_bytesOf_eq_zero_iff {cs : List Char} : (bytesOf cs).length = 0 ↔ cs = [] := by
  cases cs with
  | nil => simp [bytesOf]
  | cons c cs =>
    have hpos := c.utf8Size_pos
    rw [length_bytesOf_cons]
    simp only [reduceCtorEq, iff_false]
    omega

/-- A character that is cut is one ill-formed stretch. -/
theorem decodeFrom_take_utf8EncodeChar {mark : List Char} {c : Char} {k : Nat} (hpos : 0 < k)
    (hcut : k < c.utf8Size) : decodeFrom mark none ((String.utf8EncodeChar c).take k) = mark := by
  have hvalid : c.toNat < 0xD800 ∨ 0xDFFF < c.toNat ∧ c.toNat < 0x110000 := c.valid
  have hval : c.val.toNat = c.toNat := rfl
  -- The bytes that are left open the character and continue it, and none of them closes it.
  rw [← String.length_utf8EncodeChar] at hcut
  rw [String.utf8EncodeChar, hval] at hcut ⊢
  by_cases hone : c.toNat ≤ 0x7F
  · rw [if_pos hone, List.length_singleton] at hcut
    omega
  · rw [if_neg hone] at hcut ⊢
    by_cases htwo : c.toNat ≤ 0x7FF
    · rw [if_pos htwo] at hcut ⊢
      obtain rfl : k = 1 := by simp at hcut; omega
      exact decodeFrom_first_of_two [] (by omega) htwo
    · rw [if_neg htwo] at hcut ⊢
      by_cases hthree : c.toNat ≤ 0xFFFF
      · rw [if_pos hthree] at hcut ⊢
        obtain ⟨low, high, ⟨hlow, hhigh⟩, hopen⟩ :=
          decodeFrom_first_of_three mark (n := c.toNat) (by omega) hthree (by omega)
        obtain rfl | rfl : k = 1 ∨ k = 2 := by simp at hcut; omega
        · exact hopen []
        · exact (hopen _).trans (decodeFrom_next [] hlow hhigh (by omega))
      · rw [if_neg hthree] at hcut ⊢
        obtain ⟨low, high, ⟨hlow, hhigh⟩, hopen⟩ :=
          decodeFrom_first_of_four mark (n := c.toNat) (by omega) (by omega)
        obtain rfl | rfl | rfl : k = 1 ∨ k = 2 ∨ k = 3 := by simp at hcut; omega
        · exact hopen []
        · exact (hopen _).trans (decodeFrom_next [] hlow hhigh (by omega))
        · refine (hopen _).trans ((decodeFrom_next _ hlow hhigh (by omega)).trans ?_)
          exact decodeFrom_next [] (by omega) (by omega) (by omega)

/-- The column of an offset counts the characters before it. -/
theorem charColumn_append (left right : List Char) :
    charColumn (left ++ right) (bytesOf left).length = left.length := by
  induction left with
  | nil =>
    cases right with
    | nil => rfl
    | cons c right =>
      have hpos := c.utf8Size_pos
      rw [List.nil_append, charColumn, if_neg]
      · rfl
      · exact Nat.not_le.2 hpos
  | cons c left ih =>
    rw [List.cons_append, charColumn, length_bytesOf_cons, if_pos (Nat.le_add_right _ _),
      Nat.add_sub_cancel_left, ih, List.length_cons]

theorem charColumn_le (l : List Char) (offset : Nat) : charColumn l offset ≤ l.length := by
  induction l generalizing offset with
  | nil => exact Nat.le_refl 0
  | cons c l ih =>
    rw [charColumn]
    split
    · exact Nat.succ_le_succ (ih _)
    · exact Nat.zero_le _

/-- A column reaches a number of characters exactly if the offset reaches their bytes. -/
theorem le_charColumn_iff {l : List Char} {k : Nat} (hk : k ≤ l.length) (b : Nat) :
    k ≤ charColumn l b ↔ (bytesOf (l.take k)).length ≤ b := by
  induction l generalizing k b with
  | nil =>
    obtain rfl : k = 0 := Nat.le_zero.1 hk
    simp [bytesOf]
  | cons c l ih =>
    cases k with
    | zero => simp [bytesOf]
    | succ k =>
      have hrest := ih (Nat.le_of_succ_le_succ hk) (b - c.utf8Size)
      rw [List.take_succ_cons, length_bytesOf_cons, charColumn]
      split
      · omega
      · omega

/-- What some bytes decode to if ill-formed stretches are left out. -/
def decodeKnown (bytes : List UInt8) : List Char := decodeFrom [] none bytes

/-- The bytes before an offset decode to the characters before its column. -/
theorem decodeKnown_take_bytesOf (l : List Char) (b : Nat) :
    decodeKnown ((bytesOf l).take b) = l.take (charColumn l b) := by
  induction l generalizing b with
  | nil => simp [bytesOf, decodeKnown, decodeFrom]
  | cons c l ih =>
    have hbytes : bytesOf (c :: l) = String.utf8EncodeChar c ++ bytesOf l := List.flatMap_cons
    have hsize : (String.utf8EncodeChar c).length = c.utf8Size := String.length_utf8EncodeChar c
    rw [hbytes, List.take_append, hsize, charColumn]
    by_cases hwhole : c.utf8Size ≤ b
    · have hchar : (String.utf8EncodeChar c).take b = String.utf8EncodeChar c :=
        List.take_of_length_le (hsize ▸ hwhole)
      rw [if_pos hwhole, hchar, decodeKnown, decodeFrom_utf8EncodeChar, List.take_succ_cons, ← ih]
      rfl
    · have hnone : b - c.utf8Size = 0 := by omega
      rw [if_neg hwhole, hnone, List.take_zero, List.append_nil, List.take_zero, decodeKnown]
      by_cases hzero : b = 0
      · rw [hzero, List.take_zero]
        rfl
      · exact decodeFrom_take_utf8EncodeChar (by omega) (by omega)

theorem length_decodeKnown (l : List Char) (b : Nat) :
    (decodeKnown ((bytesOf l).take b)).length = charColumn l b := by
  rw [decodeKnown_take_bytesOf, List.length_take_of_le (charColumn_le l b)]

/-- A column counts the characters whose last byte is reached. -/
theorem charColumn_eq_count (l : List Char) (b : Nat) :
    charColumn l b = Nat.count (fun i => (bytesOf (l.take (i + 1))).length ≤ b) l.length := by
  have hle := charColumn_le l b
  have hreached : ∀ i < charColumn l b, (bytesOf (l.take (i + 1))).length ≤ b := by
    intro i hi
    exact (le_charColumn_iff (by omega) b).1 hi
  have hmissed : ∀ i < l.length - charColumn l b,
      ¬(bytesOf (l.take (charColumn l b + i + 1))).length ≤ b := by
    intro i hi hreach
    have hcolumn := (le_charColumn_iff (by omega) b).2 hreach
    omega
  have hsplit : l.length = charColumn l b + (l.length - charColumn l b) := by omega
  rw [hsplit, Nat.count_add, Nat.count_of_forall hreached, Nat.count_of_forall_not hmissed,
    Nat.add_zero]

theorem charColumn_mono (l : List Char) : Monotone (charColumn l) := by
  intro b b' hb
  have hreached := (le_charColumn_iff (charColumn_le l b) b).1 (Nat.le_refl _)
  exact (le_charColumn_iff (charColumn_le l b) b').2 (hreached.trans hb)

/-- An offset inside a character, or at its start, has the column of that character. -/
theorem charColumn_of_cut {l : List Char} {k b : Nat} (hk : k < l.length)
    (hfirst : (bytesOf (l.take k)).length ≤ b) (hlast : b < (bytesOf (l.take (k + 1))).length) :
    charColumn l b = k := by
  have hreached := (le_charColumn_iff (Nat.le_of_lt hk) b).2 hfirst
  have hmissed := mt (le_charColumn_iff hk b).1 (Nat.not_le.2 hlast)
  omega

theorem charColumn_of_length_le {l : List Char} {b : Nat} (h : (bytesOf l).length ≤ b) :
    charColumn l b = l.length := by
  rw [← List.take_length (l := l)] at h
  exact Nat.le_antisymm (charColumn_le l b) ((le_charColumn_iff (Nat.le_refl _) b).2 h)

end Text

namespace Node

open Text

/-- In a line of a text, the column of an offset undoes the counting of bytes: the bytes of the
first characters lead back to their number. The column of any offset is the length of what the
bytes before it decode to, with ill-formed stretches left out, and this is the number of characters
that end at or before it. So an offset inside a character has the column of that character, one
behind the line has the length of the line, and columns never go down as offsets go up. -/
theorem columnAt_inverts_byte_length {lines : List (List Char)} {n : Nat} {s : List Char}
    (hfirst : 1 ≤ n) (hline : lines[n - 1]? = some s) :
    (∀ k ≤ s.length, columnAt lines n (bytesOf (s.take k)).length = k) ∧
    (∀ b, columnAt lines n b = (decodeKnown ((bytesOf s).take b)).length) ∧
    (∀ b, columnAt lines n b =
      Nat.count (fun i => (bytesOf (s.take (i + 1))).length ≤ b) s.length) ∧
    (∀ k < s.length, ∀ b, (bytesOf (s.take k)).length ≤ b →
      b < (bytesOf (s.take (k + 1))).length → columnAt lines n b = k) ∧
    (∀ b, (bytesOf s).length ≤ b → columnAt lines n b = s.length) ∧
    Monotone (columnAt lines n) := by
  have hcolumn : ∀ b, columnAt lines n b = charColumn s b := by
    intro b
    obtain ⟨m, rfl⟩ := Nat.exists_eq_add_of_le' hfirst
    rw [Nat.add_sub_cancel] at hline
    rw [columnAt, hline]
  simp only [hcolumn, funext hcolumn]
  refine ⟨fun k hk => ?_, fun b => (length_decodeKnown s b).symm, charColumn_eq_count s,
    fun k hk b => charColumn_of_cut hk, fun b => charColumn_of_length_le, charColumn_mono s⟩
  have hback := charColumn_append (s.take k) (s.drop k)
  rwa [List.take_append_drop, List.length_take_of_le hk] at hback

/-- The third of four characters, which have one to four bytes, is cut by the fifth byte. -/
theorem columnAt_inverts_byte_length_of_wide_letters :
    let lines := ["x".toList, "aé€😀".toList]
    columnAt lines 2 3 = 2 ∧ columnAt lines 2 5 = 2 ∧ columnAt lines 2 6 = 3 ∧
      columnAt lines 2 12 = 4 := by
  intro lines
  have hline : lines[2 - 1]? = some "aé€😀".toList := rfl
  obtain ⟨hback, -, -, hcut, hbehind, -⟩ := columnAt_inverts_byte_length (by decide) hline
  exact ⟨hback 2 (by decide +kernel), hcut 2 (by decide +kernel) 5 (by decide +kernel)
    (by decide +kernel), hback 3 (by decide +kernel), hbehind 12 (by decide +kernel)⟩

end Node

end QueryLint
