import Mathlib.Data.List.DropRight
import QueryLint.Grammar.Description

/-!
# Groups in brackets

The last pass over a description takes out every group in brackets with the blanks before it. It
leaves nothing but blanks exactly if there is nothing but blanks and groups.
-/

namespace QueryLint

namespace Text

theorem isBlankText_ofList (cs : List Char) :
    isBlankText (String.ofList cs) = true ↔ ∀ c ∈ cs, isBlank c = true := by
  rw [isBlankText, String.toList_ofList, List.all_eq_true]

theorem isBlankText_append (s t : String) :
    isBlankText (s ++ t) = (isBlankText s && isBlankText t) := by
  rw [isBlankText, String.toList_append, List.all_append]
  rfl

/-- Of a text that starts with something, not all is blank. -/
theorem forall_isBlank_iff {cs : List Char} (h : ∀ c rest, cs = c :: rest → isBlank c = false) :
    (∀ c ∈ cs, isBlank c = true) ↔ cs = [] := by
  cases cs with
  | nil => simp
  | cons c rest =>
    have hc := h c rest rfl
    simp [hc]

theorem not_isBlank_of_dropWhile {cs rest : List Char} {c : Char}
    (h : cs.dropWhile isBlank = c :: rest) : isBlank c = false := by
  have hhead := List.head?_dropWhile_not isBlank cs
  rw [h] at hhead
  exact hhead

/-- What a trimmed text starts with is not blank. -/
theorem not_isBlank_of_prefix_trim {cs rest : List Char} {c : Char}
    (h : c :: rest <+: trim cs) : isBlank c = false := by
  have htrim : trim cs <+: cs.dropWhile isBlank := List.rdropWhile_prefix isBlank _
  obtain ⟨more, hmore⟩ := h.trans htrim
  exact not_isBlank_of_dropWhile hmore.symm

theorem trim_eq_nil_iff {cs : List Char} : trim cs = [] ↔ ∀ c ∈ cs, isBlank c = true := by
  have hright : trim cs = [] ↔ ∀ c ∈ cs.dropWhile isBlank, isBlank c = true :=
    List.rdropWhile_eq_nil_iff
  rw [hright, forall_isBlank_iff fun c rest => not_isBlank_of_dropWhile,
    List.dropWhile_eq_nil_iff]

theorem isBlankText_trim (cs : List Char) :
    isBlankText (String.ofList (trim cs)) = true ↔ ∀ c ∈ cs, isBlank c = true := by
  have hhead : ∀ c rest, trim cs = c :: rest → isBlank c = false := by
    intro c rest h
    have hprefix : c :: rest <+: trim cs := ⟨[], by rw [h, List.append_nil]⟩
    exact not_isBlank_of_prefix_trim hprefix
  rw [isBlankText_ofList, forall_isBlank_iff hhead, trim_eq_nil_iff]

end Text

namespace Description

open Text (isBlank)

/-- Nothing but blanks and groups in brackets. -/
inductive Bracketed : List Char → Prop where
  | nil : Bracketed []
  | blank {c : Char} {cs : List Char} (hc : isBlank c = true) (hcs : Bracketed cs) :
      Bracketed (c :: cs)
  | group {inner rest : List Char} (hopen : '<' ∉ inner) (hclose : '>' ∉ inner)
      (hrest : Bracketed rest) : Bracketed ('<' :: (inner ++ '>' :: rest))

theorem bracketed_cons_iff {c : Char} {cs : List Char} (hc : c ≠ '<') :
    Bracketed (c :: cs) ↔ isBlank c = true ∧ Bracketed cs := by
  constructor
  · intro h
    cases h with
    | blank hblank hcs => exact ⟨hblank, hcs⟩
    | group => exact absurd rfl hc
  · exact fun h => .blank h.1 h.2

theorem ne_open_of_isBlank {c : Char} (h : isBlank c = true) : c ≠ '<' := by
  rintro rfl
  exact absurd h (by decide)

theorem bracketed_append_iff {blanks cs : List Char} (h : ∀ c ∈ blanks, isBlank c = true) :
    Bracketed (blanks ++ cs) ↔ Bracketed cs := by
  induction blanks with
  | nil => rfl
  | cons b blanks ih =>
    have hb := h b List.mem_cons_self
    rw [List.cons_append, bracketed_cons_iff (ne_open_of_isBlank hb),
      ih fun c hc => h c (List.mem_cons_of_mem b hc)]
    exact and_iff_right hb

theorem bracketed_open_iff {cs : List Char} :
    Bracketed ('<' :: cs) ↔
      ∃ inner rest, '<' ∉ inner ∧ '>' ∉ inner ∧ cs = inner ++ '>' :: rest ∧ Bracketed rest := by
  constructor
  · intro h
    cases h with
    | blank hblank => exact absurd rfl (ne_open_of_isBlank hblank)
    | group hopen hclose hrest => exact ⟨_, _, hopen, hclose, rfl, hrest⟩
  · rintro ⟨inner, rest, hopen, hclose, rfl, hrest⟩
    exact .group hopen hclose hrest

theorem dropWhile_ne_close {inner : List Char} (h : '>' ∉ inner) (rest : List Char) :
    (inner ++ '>' :: rest).dropWhile (· != '>') = '>' :: rest := by
  have hinner : ∀ c ∈ inner, (c != '>') = true := by
    intro c hc
    exact bne_iff_ne.2 fun heq => h (heq ▸ hc)
  rw [List.dropWhile_append_of_pos hinner, List.dropWhile_cons_of_neg (by decide)]

/-- A group ends at the first closing bracket. -/
theorem bracketed_group_iff {inner rest : List Char} (hopen : '<' ∉ inner) (hclose : '>' ∉ inner) :
    Bracketed ('<' :: (inner ++ '>' :: rest)) ↔ Bracketed rest := by
  rw [bracketed_open_iff]
  constructor
  · rintro ⟨inner', rest', -, hclose', heq, hrest⟩
    have hdrop := congrArg (List.dropWhile (· != '>')) heq
    rw [dropWhile_ne_close hclose, dropWhile_ne_close hclose'] at hdrop
    rwa [(List.cons.inj hdrop).2]
  · exact fun hrest => ⟨inner, rest, hopen, hclose, rfl, hrest⟩

theorem mem_inner_iff {inner : List Char} :
    (∀ c ∈ inner, (c != '<' && c != '>') = true) ↔ '<' ∉ inner ∧ '>' ∉ inner := by
  constructor
  · exact fun h => ⟨fun hc => by simpa using h _ hc, fun hc => by simpa using h _ hc⟩
  · rintro ⟨hopen, hclose⟩ c hc
    have h1 : c ≠ '<' := fun h => hopen (h ▸ hc)
    have h2 : c ≠ '>' := fun h => hclose (h ▸ hc)
    simp [h1, h2]

theorem group?_eq_some_iff {cs replacement rest : List Char} :
    group? cs = some (replacement, rest) ↔ replacement = [] ∧ ∃ blanks inner,
      (∀ c ∈ blanks, isBlank c = true) ∧ '<' ∉ inner ∧ '>' ∉ inner ∧
        cs = blanks ++ '<' :: (inner ++ '>' :: rest) := by
  unfold group?
  constructor
  · intro h
    split at h
    case h_2 => cases h
    case h_1 behind hopen =>
      split at h
      case h_2 => cases h
      case h_1 after hclose =>
        obtain ⟨rfl, rfl⟩ := Prod.mk.inj (Option.some.inj h)
        obtain ⟨hl, hr⟩ := mem_inner_iff.1
          fun c hc => List.mem_takeWhile_imp (p := fun c => c != '<' && c != '>') (l := behind) hc
        refine ⟨rfl, cs.takeWhile isBlank, behind.takeWhile _, fun c => List.mem_takeWhile_imp, hl,
          hr, ?_⟩
        rw [← hclose, List.takeWhile_append_dropWhile, ← hopen, List.takeWhile_append_dropWhile]
  · rintro ⟨rfl, blanks, inner, hblanks, hl, hr, rfl⟩
    have hinner := mem_inner_iff.2 ⟨hl, hr⟩
    rw [List.dropWhile_append_of_pos hblanks, List.dropWhile_cons_of_neg (by decide)]
    simp only
    rw [List.dropWhile_append_of_pos hinner, List.dropWhile_cons_of_neg (by decide)]
    rfl

theorem length_lt_of_group? {cs replacement rest : List Char}
    (h : group? cs = some (replacement, rest)) : rest.length < cs.length := by
  obtain ⟨-, blanks, inner, -, -, -, rfl⟩ := group?_eq_some_iff.1 h
  simp only [List.length_append, List.length_cons]
  omega

theorem bracketed_of_group?_eq_some {cs replacement rest : List Char}
    (h : group? cs = some (replacement, rest)) : Bracketed cs ↔ Bracketed rest := by
  obtain ⟨-, blanks, inner, hblanks, hopen, hclose, rfl⟩ := group?_eq_some_iff.1 h
  rw [bracketed_append_iff hblanks, bracketed_group_iff hopen hclose]

/-- Where no group starts, there has to be a blank. -/
theorem bracketed_of_group?_eq_none {c : Char} {cs : List Char} (h : group? (c :: cs) = none) :
    Bracketed (c :: cs) ↔ isBlank c = true ∧ Bracketed cs := by
  by_cases hc : c = '<'
  · subst hc
    constructor
    · intro hcs
      obtain ⟨inner, rest, hopen, hclose, rfl, -⟩ := bracketed_open_iff.1 hcs
      have hgroup : group? ('<' :: (inner ++ '>' :: rest)) = some ([], rest) :=
        group?_eq_some_iff.2 ⟨rfl, [], inner, by simp, hopen, hclose, rfl⟩
      rw [hgroup] at h
      cases h
    · exact fun hcs => absurd rfl (ne_open_of_isBlank hcs.1)
  · exact bracketed_cons_iff hc

/-- Only blanks are left of a text exactly if it has nothing but blanks and groups. -/
theorem forall_isBlank_replaceFrom_iff {fuel : Nat} {cs : List Char} (h : cs.length ≤ fuel) :
    (∀ c ∈ replaceFrom group? fuel cs, isBlank c = true) ↔ Bracketed cs := by
  induction fuel generalizing cs with
  | zero =>
    obtain rfl := List.length_eq_zero_iff.1 (Nat.le_zero.1 h)
    simp [replaceFrom, Bracketed.nil]
  | succ fuel ih =>
    cases cs with
    | nil => simp [replaceFrom, Bracketed.nil]
    | cons c cs =>
      rw [replaceFrom]
      cases hgroup : group? (c :: cs) with
      | some found =>
        obtain ⟨replacement, rest⟩ := found
        have hlength := length_lt_of_group? hgroup
        rw [bracketed_of_group?_eq_some hgroup, ← ih (by omega),
          (group?_eq_some_iff.1 hgroup).1]
        rfl
      | none =>
        have hlength : cs.length ≤ fuel := Nat.le_of_succ_le_succ h
        rw [bracketed_of_group?_eq_none hgroup, ← ih hlength, List.forall_mem_cons]

end Description

end QueryLint
