import Mathlib.Data.List.Basic
import QueryLint.Text.Utf8

/-!
# Decoding what was encoded

The bytes of a text are decoded to the same text. A character is taken byte by byte: its first
byte announces how many follow and in which range the next one lies, and each of these adds six
bits. Only well-formed bytes are spoken of here; what becomes of others is left open.
-/

namespace QueryLint.Text

/-- The bytes that are still to come are put behind those that were taken. -/
theorem toList_loop {bytes : ByteArray} (taken : List UInt8) {left : List UInt8}
    (h : bytes.data.toList = taken ++ left) :
    ByteArray.toList.loop bytes taken.length taken.reverse = taken ++ left := by
  have hsize : bytes.size = taken.length + left.length := by
    rw [← List.length_append, ← h, Array.length_toList]
    rfl
  induction left generalizing taken with
  | nil =>
    have hend : ¬taken.length < bytes.size := by simp [hsize]
    rw [ByteArray.toList.loop, if_neg hend, List.reverse_reverse, List.append_nil]
  | cons b left ih =>
    have hmore : taken.length < bytes.size := by simp [hsize]
    have hnext : bytes.get! taken.length = b := by
      have hget : bytes.data.toList[taken.length]? = some b := by simp [h]
      simpa [ByteArray.get!, hmore] using hget
    have hstep := ih (taken ++ [b]) (by simp [h]) (by simp [hsize]; omega)
    rw [ByteArray.toList.loop, if_pos hmore, hnext]
    simpa using hstep

/-- The bytes of a text are those of its characters, one after another. -/
theorem toList_toUTF8 (s : String) :
    s.toUTF8.toList = s.toList.flatMap String.utf8EncodeChar := by
  have hbytes : s.toUTF8 = (s.toList.flatMap String.utf8EncodeChar).toByteArray := by
    conv => lhs; rw [← String.ofList_toList (s := s)]
    rfl
  rw [hbytes]
  exact toList_loop [] List.toList_data_toByteArray

variable {mark : List Char}

/-- A first byte that stands alone is a character. -/
theorem decodeFrom_single {b : UInt8} {rest : List UInt8} {bits low high : Nat}
    (h : leadByte? b.toNat = some ⟨0, bits, low, high⟩) :
    decodeFrom mark none (b :: rest) = Char.ofNat bits :: decodeFrom mark none rest := by
  rw [decodeFrom]
  simp [h]

/-- A first byte that announces others opens a character. -/
theorem decodeFrom_open {b : UInt8} {rest : List UInt8} {more bits low high : Nat}
    (h : leadByte? b.toNat = some ⟨more + 1, bits, low, high⟩) :
    decodeFrom mark none (b :: rest) = decodeFrom mark (some ⟨more + 1, bits, low, high⟩) rest := by
  rw [decodeFrom]
  simp [h]

/-- A byte in range adds its bits to a character that needs more than it. -/
theorem decodeFrom_continue {b : UInt8} {rest : List UInt8} {need bits low high : Nat}
    (hlow : low ≤ b.toNat) (hhigh : b.toNat ≤ high) :
    decodeFrom mark (some ⟨need + 2, bits, low, high⟩) (b :: rest) =
      decodeFrom mark (some ⟨need + 1, bits * 64 + (b.toNat - 0x80), 0x80, 0xBF⟩) rest := by
  rw [decodeFrom]
  simp [hlow, hhigh]

/-- A byte in range closes a character that needs nothing else. -/
theorem decodeFrom_close {b : UInt8} {rest : List UInt8} {bits low high : Nat}
    (hlow : low ≤ b.toNat) (hhigh : b.toNat ≤ high) :
    decodeFrom mark (some ⟨1, bits, low, high⟩) (b :: rest) =
      Char.ofNat (bits * 64 + (b.toNat - 0x80)) :: decodeFrom mark none rest := by
  rw [decodeFrom]
  simp [hlow, hhigh]

theorem leadByte?_of_two {b : Nat} (hlow : 0xC2 ≤ b) (hhigh : b < 0xE0) :
    leadByte? b = some ⟨1, b - 0xC0, 0x80, 0xBF⟩ := by
  unfold leadByte?
  rw [if_neg (by omega), if_neg (by omega), if_pos hhigh]

/-- The second of three bytes is in the announced range unless it would make a character that
has a shorter form, or half of a pair. -/
theorem leadByte?_of_three {b n : Nat} (hlow : 0xE0 ≤ b) (hhigh : b < 0xF0)
    (hn : 0x80 ≤ n ∧ n ≤ 0xBF) (hshort : b = 0xE0 → 0xA0 ≤ n) (hhalf : b = 0xED → n ≤ 0x9F) :
    ∃ low high, leadByte? b = some ⟨2, b - 0xE0, low, high⟩ ∧ low ≤ n ∧ n ≤ high := by
  unfold leadByte?
  rw [if_neg (by omega), if_neg (by omega), if_neg (by omega)]
  by_cases hfirst : b = 0xE0
  · rw [if_pos hfirst, hfirst]
    exact ⟨0xA0, 0xBF, rfl, hshort hfirst, hn.2⟩
  · rw [if_neg hfirst]
    by_cases hpair : b = 0xED
    · rw [if_pos hpair, hpair]
      exact ⟨0x80, 0x9F, rfl, hn.1, hhalf hpair⟩
    · rw [if_neg hpair, if_pos hhigh]
      exact ⟨0x80, 0xBF, rfl, hn⟩

/-- The second of four bytes is in the announced range unless it would make a character that
has a shorter form, or one beyond the last. -/
theorem leadByte?_of_four {b n : Nat} (hlow : 0xF0 ≤ b) (hhigh : b ≤ 0xF4)
    (hn : 0x80 ≤ n ∧ n ≤ 0xBF) (hshort : b = 0xF0 → 0x90 ≤ n) (hlast : b = 0xF4 → n ≤ 0x8F) :
    ∃ low high, leadByte? b = some ⟨3, b - 0xF0, low, high⟩ ∧ low ≤ n ∧ n ≤ high := by
  unfold leadByte?
  rw [if_neg (by omega), if_neg (by omega), if_neg (by omega), if_neg (by omega),
    if_neg (by omega), if_neg (by omega)]
  by_cases hfirst : b = 0xF0
  · rw [if_pos hfirst, hfirst]
    exact ⟨0x90, 0xBF, rfl, hshort hfirst, hn.2⟩
  · rw [if_neg hfirst]
    by_cases hend : b = 0xF4
    · rw [if_neg (by omega), if_pos hend, hend]
      exact ⟨0x80, 0x8F, rfl, hn.1, hlast hend⟩
    · rw [if_pos (by omega)]
      exact ⟨0x80, 0xBF, rfl, hn⟩

theorem toNat_byte {n : Nat} (h : n < 256) : (UInt8.ofNat n).toNat = n := by
  rw [UInt8.toNat_ofNat', Nat.mod_eq_of_lt h]

section

variable {n : Nat} (rest : List UInt8)

theorem decodeFrom_of_one (hlast : n ≤ 0x7F) :
    decodeFrom mark none (UInt8.ofNat n :: rest) = Char.ofNat n :: decodeFrom mark none rest := by
  have hlead : leadByte? (UInt8.ofNat n).toNat = some ⟨0, n, 0, 0⟩ := by
    rw [toNat_byte (by omega), leadByte?, if_pos (by omega)]
  exact decodeFrom_single hlead

/-- The first of two bytes brings all bits but the last six. -/
theorem decodeFrom_first_of_two (hfirst : 0x7F < n) (hlast : n ≤ 0x7FF) :
    decodeFrom mark none (UInt8.ofNat (n / 64 % 32 + 0xC0) :: rest) =
      decodeFrom mark (some ⟨1, n / 64, 0x80, 0xBF⟩) rest := by
  have hlead := leadByte?_of_two (b := n / 64 % 32 + 0xC0) (by omega) (by omega)
  rw [← toNat_byte (n := n / 64 % 32 + 0xC0) (by omega)] at hlead
  rw [decodeFrom_open hlead, toNat_byte (by omega),
    show n / 64 % 32 + 0xC0 - 0xC0 = n / 64 by omega]

/-- The first of three bytes opens a character that the second one continues. -/
theorem decodeFrom_first_of_three (mark : List Char) (hfirst : 0x7FF < n) (hlast : n ≤ 0xFFFF)
    (hhalf : n < 0xD800 ∨ 0xDFFF < n) :
    ∃ low high, (low ≤ n / 64 % 64 + 0x80 ∧ n / 64 % 64 + 0x80 ≤ high) ∧
      ∀ rest, decodeFrom mark none (UInt8.ofNat (n / 4096 % 16 + 0xE0) :: rest) =
        decodeFrom mark (some ⟨2, n / 4096, low, high⟩) rest := by
  obtain ⟨low, high, hlead, hbounds⟩ := leadByte?_of_three
    (b := n / 4096 % 16 + 0xE0) (n := n / 64 % 64 + 0x80) (by omega) (by omega) (by omega)
    (by omega) (by omega)
  rw [← toNat_byte (n := n / 4096 % 16 + 0xE0) (by omega)] at hlead
  refine ⟨low, high, hbounds, fun rest => ?_⟩
  rw [decodeFrom_open hlead, toNat_byte (by omega),
    show n / 4096 % 16 + 0xE0 - 0xE0 = n / 4096 by omega]

/-- The first of four bytes opens a character that the second one continues. -/
theorem decodeFrom_first_of_four (mark : List Char) (hfirst : 0xFFFF < n) (hlast : n < 0x110000) :
    ∃ low high, (low ≤ n / 4096 % 64 + 0x80 ∧ n / 4096 % 64 + 0x80 ≤ high) ∧
      ∀ rest, decodeFrom mark none (UInt8.ofNat (n / 262144 % 8 + 0xF0) :: rest) =
        decodeFrom mark (some ⟨3, n / 262144, low, high⟩) rest := by
  obtain ⟨low, high, hlead, hbounds⟩ := leadByte?_of_four
    (b := n / 262144 % 8 + 0xF0) (n := n / 4096 % 64 + 0x80) (by omega) (by omega) (by omega)
    (by omega) (by omega)
  rw [← toNat_byte (n := n / 262144 % 8 + 0xF0) (by omega)] at hlead
  refine ⟨low, high, hbounds, fun rest => ?_⟩
  rw [decodeFrom_open hlead, toNat_byte (by omega),
    show n / 262144 % 8 + 0xF0 - 0xF0 = n / 262144 by omega]

/-- A later byte adds the last six bits of a number. -/
theorem decodeFrom_next {need bits low high m : Nat} (hlow : low ≤ m % 64 + 0x80)
    (hhigh : m % 64 + 0x80 ≤ high) (hbits : bits = m / 64) :
    decodeFrom mark (some ⟨need + 2, bits, low, high⟩) (UInt8.ofNat (m % 64 + 0x80) :: rest) =
      decodeFrom mark (some ⟨need + 1, m, 0x80, 0xBF⟩) rest := by
  have hbyte : (UInt8.ofNat (m % 64 + 0x80)).toNat = m % 64 + 0x80 := toNat_byte (by omega)
  rw [decodeFrom_continue (by omega) (by omega), hbyte, hbits,
    show m / 64 * 64 + (m % 64 + 0x80 - 0x80) = m by omega]

/-- The last byte adds the last six bits of a number and makes it a character. -/
theorem decodeFrom_last {bits low high m : Nat} (hlow : low ≤ m % 64 + 0x80)
    (hhigh : m % 64 + 0x80 ≤ high) (hbits : bits = m / 64) :
    decodeFrom mark (some ⟨1, bits, low, high⟩) (UInt8.ofNat (m % 64 + 0x80) :: rest) =
      Char.ofNat m :: decodeFrom mark none rest := by
  have hbyte : (UInt8.ofNat (m % 64 + 0x80)).toNat = m % 64 + 0x80 := toNat_byte (by omega)
  rw [decodeFrom_close (by omega) (by omega), hbyte, hbits,
    show m / 64 * 64 + (m % 64 + 0x80 - 0x80) = m by omega]

theorem decodeFrom_of_two (hfirst : 0x7F < n) (hlast : n ≤ 0x7FF) :
    decodeFrom mark none
        (UInt8.ofNat (n / 64 % 32 + 0xC0) :: UInt8.ofNat (n % 64 + 0x80) :: rest) =
      Char.ofNat n :: decodeFrom mark none rest := by
  rw [decodeFrom_first_of_two _ hfirst hlast, decodeFrom_last rest (by omega) (by omega) rfl]

theorem decodeFrom_of_three (hfirst : 0x7FF < n) (hlast : n ≤ 0xFFFF)
    (hhalf : n < 0xD800 ∨ 0xDFFF < n) :
    decodeFrom mark none (UInt8.ofNat (n / 4096 % 16 + 0xE0) ::
        UInt8.ofNat (n / 64 % 64 + 0x80) :: UInt8.ofNat (n % 64 + 0x80) :: rest) =
      Char.ofNat n :: decodeFrom mark none rest := by
  obtain ⟨low, high, ⟨hlow, hhigh⟩, hopen⟩ := decodeFrom_first_of_three mark hfirst hlast hhalf
  rw [hopen, decodeFrom_next _ hlow hhigh (by omega),
    decodeFrom_last rest (by omega) (by omega) rfl]

theorem decodeFrom_of_four (hfirst : 0xFFFF < n) (hlast : n < 0x110000) :
    decodeFrom mark none (UInt8.ofNat (n / 262144 % 8 + 0xF0) ::
        UInt8.ofNat (n / 4096 % 64 + 0x80) :: UInt8.ofNat (n / 64 % 64 + 0x80) ::
        UInt8.ofNat (n % 64 + 0x80) :: rest) = Char.ofNat n :: decodeFrom mark none rest := by
  obtain ⟨low, high, ⟨hlow, hhigh⟩, hopen⟩ := decodeFrom_first_of_four mark hfirst hlast
  rw [hopen, decodeFrom_next _ hlow hhigh (by omega),
    decodeFrom_next _ (by omega) (by omega) (by omega),
    decodeFrom_last rest (by omega) (by omega) rfl]

end

/-- The bytes of a character are taken as this character, whatever follows. -/
theorem decodeFrom_utf8EncodeChar (c : Char) (rest : List UInt8) :
    decodeFrom mark none (String.utf8EncodeChar c ++ rest) = c :: decodeFrom mark none rest := by
  have hvalid : c.toNat < 0xD800 ∨ 0xDFFF < c.toNat ∧ c.toNat < 0x110000 := c.valid
  have hval : c.val.toNat = c.toNat := rfl
  rw [String.utf8EncodeChar, hval]
  by_cases hone : c.toNat ≤ 0x7F
  · rw [if_pos hone, List.singleton_append, decodeFrom_of_one rest hone, Char.ofNat_toNat]
  · rw [if_neg hone]
    by_cases htwo : c.toNat ≤ 0x7FF
    · rw [if_pos htwo]
      have hstep : _ = _ :: decodeFrom mark none rest := decodeFrom_of_two rest (by omega) htwo
      rwa [Char.ofNat_toNat] at hstep
    · rw [if_neg htwo]
      by_cases hthree : c.toNat ≤ 0xFFFF
      · rw [if_pos hthree]
        have hstep : _ = _ :: decodeFrom mark none rest :=
          decodeFrom_of_three rest (by omega) hthree (by omega)
        rwa [Char.ofNat_toNat] at hstep
      · rw [if_neg hthree]
        have hstep : _ = _ :: decodeFrom mark none rest :=
          decodeFrom_of_four rest (by omega) (by omega : c.toNat < 0x110000)
        rwa [Char.ofNat_toNat] at hstep

theorem decodeUtf8_flatMap (cs : List Char) :
    decodeUtf8 (cs.flatMap String.utf8EncodeChar) = cs := by
  unfold decodeUtf8
  induction cs with
  | nil => rfl
  | cons c cs ih => rw [List.flatMap_cons, decodeFrom_utf8EncodeChar, ih]

end QueryLint.Text
