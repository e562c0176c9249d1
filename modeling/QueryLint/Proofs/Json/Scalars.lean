import Mathlib.Data.List.TakeDrop
import QueryLint.Json.Reader
import QueryLint.Json.Writer
import QueryLint.Proofs.Text.CodeUnits

/-!
# Reading written strings and numbers

A string is read as the characters that its code units make. A whole number is read as it was, if
it has no more digits than are accepted and nothing that could belong to it follows.
-/

namespace QueryLint.Json

open Text (codePoint units rejoined hexDigit hexDigits digitValue isHexDigit isDigit natOfDigits
  maxDecimalDigits)

theorem isHexDigit_hexDigit {n : Nat} (h : n < 16) : isHexDigit (hexDigit n) = true := by
  decide +revert

theorem digitValue_hexDigit {n : Nat} (h : n < 16) : digitValue (hexDigit n) = n := by
  decide +revert

/-- Puts a code unit in front of what is read. -/
def pushUnit (n : Nat) (r : List Nat × List Char) : List Nat × List Char := (n :: r.1, r.2)

theorem stringBody_hex_succ {left v n : Nat} (h : n < 16) (rest : List Char) :
    stringBody (.hex (left + 2) v) (hexDigit n :: rest) =
      stringBody (.hex (left + 1) (v * 16 + n)) rest := by
  rw [stringBody, if_pos (isHexDigit_hexDigit h), digitValue_hexDigit h]
  rfl

theorem stringBody_hex_one {v n : Nat} (h : n < 16) (rest : List Char) :
    stringBody (.hex 1 v) (hexDigit n :: rest) =
      (stringBody .none rest).map (pushUnit (v * 16 + n)) := by
  rw [stringBody, if_pos (isHexDigit_hexDigit h), digitValue_hexDigit h]
  rfl

theorem stringBody_unitEscape {n : Nat} (h : n < 0x10000) (rest : List Char) :
    stringBody .none (unitEscape n ++ rest) = (stringBody .none rest).map (pushUnit n) := by
  have hdigits : unitEscape n ++ rest = '\\' :: 'u' :: hexDigit (n / 16 / 16 / 16 % 16) ::
      hexDigit (n / 16 / 16 % 16) :: hexDigit (n / 16 % 16) :: hexDigit (n % 16) :: rest := rfl
  have hvalue : ((0 * 16 + n / 16 / 16 / 16 % 16) * 16 + n / 16 / 16 % 16) * 16 + n / 16 % 16 =
      n / 16 := by omega
  have hopen : ∀ cs, stringBody .none ('\\' :: 'u' :: cs) = stringBody (.hex 4 0) cs :=
    fun cs => rfl
  rw [hdigits, hopen, stringBody_hex_succ (Nat.mod_lt _ (by decide)),
    stringBody_hex_succ (Nat.mod_lt _ (by decide)), stringBody_hex_succ (Nat.mod_lt _ (by decide)),
    stringBody_hex_one (Nat.mod_lt _ (by decide)), hvalue, Nat.div_add_mod']

/-- A character that is written as itself. -/
theorem stringBody_plain {c : Char} (hquote : c ≠ '"') (hback : c ≠ '\\') (hc : 32 ≤ c.toNat)
    (rest : List Char) :
    stringBody .none (c :: rest) = (stringBody .none rest).map (pushUnit c.toNat) := by
  rw [stringBody, if_neg hquote, if_neg hback, if_neg (by omega)]
  rfl

/-- A character that is written as a backslash and a letter. -/
theorem stringBody_escape {c : Char} {n : Nat} (hu : c ≠ 'u') (hc : simpleEscape? c = some n)
    (rest : List Char) :
    stringBody .none ('\\' :: c :: rest) = (stringBody .none rest).map (pushUnit n) := by
  rw [stringBody, if_neg (by decide), if_pos rfl, stringBody, if_neg hu, hc]
  rfl

theorem stringBody_escapedChar (c : Char) (rest : List Char) :
    stringBody .none (escapedChar c ++ rest) =
      (stringBody .none rest).map fun r => (units c ++ r.1, r.2) := by
  unfold escapedChar
  dsimp only
  split_ifs with hquote hback hnewline hreturn htab hfeed hbackspace hplain hunit
  · subst hquote
    exact stringBody_escape (by decide) rfl rest
  · subst hback
    exact stringBody_escape (by decide) rfl rest
  · subst hnewline
    exact stringBody_escape (by decide) rfl rest
  · subst hreturn
    exact stringBody_escape (by decide) rfl rest
  · subst htab
    exact stringBody_escape (by decide) rfl rest
  · subst hfeed
    exact stringBody_escape (by decide) rfl rest
  · subst hbackspace
    exact stringBody_escape (by decide) rfl rest
  · have hcode : codePoint c = c.toNat := by
      obtain ⟨-, hhalf, -⟩ | ⟨-, hc⟩ := Text.codePoint_cases c
      · omega
      · exact hc
    rw [List.singleton_append, stringBody_plain hquote hback (by omega), units,
      if_pos (by omega), hcode]
    rfl
  · rw [stringBody_unitEscape hunit, units, if_pos hunit]
    rfl
  · have hcode := Text.codePoint_eq_toNat hunit
    have hbound := Text.toNat_cases c
    rw [List.append_assoc, stringBody_unitEscape (by omega), stringBody_unitEscape (by omega),
      units, if_neg hunit, Option.map_map]
    rfl

theorem stringBody_escaped (cs rest : List Char) :
    stringBody .none (cs.flatMap escapedChar ++ '"' :: rest) = some (cs.flatMap units, rest) := by
  induction cs with
  | nil => rfl
  | cons c cs ih =>
    rw [List.flatMap_cons, List.append_assoc, stringBody_escapedChar, ih, List.flatMap_cons]
    rfl

theorem readString_written (s : String) (rest : List Char) :
    readString (s.toList.flatMap escapedChar ++ '"' :: rest) =
      .ok (String.ofList (rejoined s.toList), rest) := by
  rw [readString, stringBody_escaped]
  rfl

theorem foldl_digitValue {ds : List Char} (h : ∀ c ∈ ds, isDigit c = true) (n : Nat) :
    ds.foldl (fun n c => n * 10 + digitValue c) n = Nat.ofDigitChars 10 ds n := by
  induction ds generalizing n with
  | nil => rfl
  | cons c ds ih =>
    have hc : digitValue c = c.toNat - '0'.toNat := by
      rw [digitValue, if_pos (h c List.mem_cons_self)]
    rw [List.foldl_cons, Nat.ofDigitChars_cons, hc, Nat.mul_comm n 10,
      ih fun d hd => h d (List.mem_cons_of_mem c hd)]

theorem isDigit_of_mem_toDigits {n : Nat} {c : Char} (h : c ∈ Nat.toDigits 10 n) :
    isDigit c = true :=
  Nat.isDigit_of_mem_toDigits (by decide) (by decide) h

theorem natOfDigits_toDigits (n : Nat) : natOfDigits 10 (Nat.toDigits 10 n) = n := by
  rw [natOfDigits, foldl_digitValue fun c => isDigit_of_mem_toDigits]
  exact Nat.ofDigitChars_ten_toDigits

theorem length_toDigits_le {n k : Nat} (hk : 0 < k) (h : n < Binary64.pow10 k) :
    (Nat.toDigits 10 n).length ≤ k :=
  (Nat.length_toDigits_le_iff (by decide) hk).mpr h

/-- The digits of a positive number do not start with a zero. -/
theorem toDigits_ne_zero_cons {n : Nat} (h : 0 < n) (ds : List Char) :
    Nat.toDigits 10 n ≠ '0' :: ds := by
  induction n using Nat.base_induction 10 (by decide) generalizing ds with
  | single m hm =>
    rw [Nat.toDigits_of_lt_base hm]
    have hdigit : ∀ m < 10, 0 < m → m.digitChar ≠ '0' := by decide
    exact fun heq => hdigit m hm h (List.cons.inj heq).1
  | digit m k hk hm ih =>
    rw [← Nat.toDigits_append_toDigits (by decide) hm hk]
    cases hdigits : Nat.toDigits 10 m with
    | nil => exact absurd hdigits Nat.toDigits_ne_nil
    | cons c cs =>
      intro heq
      exact ih hm cs (by rw [hdigits, (List.cons.inj heq).1])

/-- What follows is the end, or starts with something that no number goes on with. -/
def Closed (rest : List Char) : Prop := ∀ c cs, rest = c :: cs → c ∈ [',', '\n', ']', '\x7d']

theorem exponent_of_closed {rest : List Char} (h : Closed rest) :
    readNumber.exponent rest = (none, rest) := by
  cases rest with
  | nil => rfl
  | cons c cs =>
    have hc : ¬(c = 'e' ∨ c = 'E') := by
      rintro (rfl | rfl)
      · exact absurd (h _ _ rfl) (by decide)
      · exact absurd (h _ _ rfl) (by decide)
    unfold readNumber.exponent
    exact if_neg hc

theorem span_digits {ds rest : List Char} (hdigits : ∀ c ∈ ds, isDigit c = true)
    (h : Closed rest) : (ds ++ rest).span isDigit = (ds, rest) := by
  have hrest : rest.takeWhile isDigit = [] ∧ rest.dropWhile isDigit = rest := by
    cases rest with
    | nil => exact ⟨rfl, rfl⟩
    | cons c cs =>
      have hc : ¬isDigit c = true := by
        have hmem := h c cs rfl
        simp only [List.mem_cons, List.not_mem_nil, or_false] at hmem
        obtain rfl | rfl | rfl | rfl := hmem <;> decide
      exact ⟨List.takeWhile_cons_of_neg hc, List.dropWhile_cons_of_neg hc⟩
  rw [List.span_eq_takeWhile_dropWhile, List.takeWhile_append_of_pos hdigits,
    List.dropWhile_append_of_pos hdigits, hrest.1, hrest.2, List.append_nil]

theorem whole_digits {ds rest : List Char} (hdigits : ∀ c ∈ ds, isDigit c = true)
    (hzero : ds = ['0'] ∨ ∀ more, ds ≠ '0' :: more) (hne : ds ≠ []) (h : Closed rest) :
    readNumber.whole (ds ++ rest) = (ds, rest) := by
  obtain rfl | hzero := hzero
  · rfl
  · rw [readNumber.whole, span_digits hdigits h]
    intro more heq
    cases ds with
    | nil => exact hne rfl
    | cons d ds => exact hzero ds (congrArg (· :: ds) (List.cons.inj heq).1)

theorem fraction_of_closed {rest : List Char} (h : Closed rest) :
    readNumber.fraction rest = ([], rest) := by
  unfold readNumber.fraction
  split
  · exact absurd (h _ _ rfl) (by decide)
  · rfl

theorem sign_digits {ds rest : List Char} (hdigits : ∀ c ∈ ds, isDigit c = true) (hne : ds ≠ []) :
    readNumber.sign (ds ++ rest) = (false, ds ++ rest) := by
  rw [readNumber.sign]
  intro more heq
  cases ds with
  | nil => exact hne rfl
  | cons d ds =>
    have hd := hdigits d List.mem_cons_self
    rw [(List.cons.inj heq).1] at hd
    exact absurd hd (by decide)

/-- Digits behind a sign or none, which the reader takes for one whole number. -/
theorem readNumber_of_sign {cs ds rest : List Char} {negative : Bool}
    (hsign : readNumber.sign cs = (negative, ds ++ rest))
    (hdigits : ∀ c ∈ ds, isDigit c = true) (hzero : ds = ['0'] ∨ ∀ more, ds ≠ '0' :: more)
    (hne : ds ≠ []) (hlength : ds.length ≤ maxDecimalDigits) (h : Closed rest) :
    readNumber cs =
      .ok (int (if negative then -(natOfDigits 10 ds) else natOfDigits 10 ds), rest) := by
  have hfull : ¬ds.isEmpty = true := by simpa using hne
  simp only [readNumber, hsign, whole_digits hdigits hzero hne h, if_neg hfull,
    fraction_of_closed h, exponent_of_closed h, List.isEmpty_nil, Option.isNone_none, Bool.and_self,
    if_true, if_neg (Nat.not_lt.mpr hlength)]

theorem readNumber_writeInt {n : Int} (hn : n.natAbs < Binary64.pow10 maxDecimalDigits)
    {rest : List Char} (h : Closed rest) : readNumber (writeInt n ++ rest) = .ok (int n, rest) := by
  have hdigits : ∀ c ∈ Nat.toDigits 10 n.natAbs, isDigit c = true :=
    fun c => isDigit_of_mem_toDigits
  have hne : Nat.toDigits 10 n.natAbs ≠ [] := Nat.toDigits_ne_nil
  have hzero : Nat.toDigits 10 n.natAbs = ['0'] ∨
      ∀ more, Nat.toDigits 10 n.natAbs ≠ '0' :: more := by
    obtain hn | hn := Nat.eq_zero_or_pos n.natAbs
    · exact .inl (by rw [hn]; rfl)
    · exact .inr (toDigits_ne_zero_cons hn)
  have hlength := length_toDigits_le (by decide) hn
  rw [writeInt]
  split_ifs with hneg
  · rw [List.cons_append, readNumber_of_sign rfl hdigits hzero hne hlength h,
      natOfDigits_toDigits, if_pos rfl]
    congr
    omega
  · rw [readNumber_of_sign (sign_digits hdigits hne) hdigits hzero hne hlength h,
      natOfDigits_toDigits, if_neg (by decide)]
    congr
    omega

end QueryLint.Json
