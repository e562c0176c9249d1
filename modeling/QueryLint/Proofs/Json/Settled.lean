import QueryLint.Json.Indent
import QueryLint.Proofs.Text.CodeUnits

/-!
# Values as they are read

Texts are read as their code units make them, and keys that become equal that way share the value of
the last of them. A value whose keys differ is read as it was exactly if no halves of a pair stand
side by side in its texts and keys.
-/

namespace QueryLint.Json

open Text (rejoined Unsplit)

/-- A text as its code units make it. -/
def settledText (s : String) : String := String.ofList (rejoined s.toList)

mutual

/-- A value as it is read. -/
def settled : Json → Json
  | string s => string (settledText s)
  | array items => array (settledItems items)
  | object entries => object (settledEntries [] entries)
  | j => j

def settledItems : List Json → List Json
  | [] => []
  | v :: rest => settled v :: settledItems rest

/-- The entries that are read behind those that are known. -/
def settledEntries (done : List (String × Json)) : List (String × Json) → List (String × Json)
  | [] => done
  | (k, v) :: rest => settledEntries (setKey (settledText k) (settled v) done) rest

end

/-- A part that is written as it is read: no number that is rounded or refused. -/
def IsReadable : Json → Prop
  | float _ => False
  | int n => n.natAbs < Binary64.pow10 Text.maxDecimalDigits
  | _ => True

theorem isReadable_of_parts {j : Json} (h : ∀ p ∈ j.parts, p.IsReadable) : j.IsReadable := by
  apply h
  cases j <;> exact List.mem_cons_self

/-- The keys of an object differ. -/
def KeysDiffer : Json → Prop
  | object entries => (entries.map Prod.fst).Nodup
  | _ => True

/-- No halves of a pair stand side by side in a text or in a key. -/
def IsUnsplit : Json → Prop
  | string s => Unsplit s.toList
  | object entries => ∀ e ∈ entries, Unsplit e.1.toList
  | _ => True

instance (p : Json) : Decidable p.IsUnsplit :=
  match p with
  | string s => inferInstanceAs (Decidable (Unsplit s.toList))
  | object entries => inferInstanceAs (Decidable (∀ e ∈ entries, Unsplit e.1.toList))
  | null | bool _ | int _ | float _ | array _ => inferInstanceAs (Decidable True)

section

variable {α : Type}

theorem setKey_cases (key : String) (value : α) (done : List (String × α)) :
    (key ∈ done.map Prod.fst ∧ (setKey key value done).length = done.length) ∨
      (key ∉ done.map Prod.fst ∧ setKey key value done = done ++ [(key, value)]) := by
  induction done with
  | nil => exact .inr ⟨List.not_mem_nil, rfl⟩
  | cons e rest ih =>
    obtain ⟨k, v⟩ := e
    rw [setKey]
    by_cases hk : k = key
    · rw [if_pos (beq_iff_eq.mpr hk), hk]
      exact .inl ⟨List.mem_cons_self, rfl⟩
    · rw [if_neg (by simpa using hk), List.map_cons, List.mem_cons]
      obtain ⟨hmem, hlength⟩ | ⟨hmem, heq⟩ := ih
      · exact .inl ⟨.inr hmem, congrArg Nat.succ hlength⟩
      · refine .inr ⟨?_, congrArg _ heq⟩
        rintro (rfl | hmem')
        · exact hk rfl
        · exact hmem hmem'

/-- Entries set one after another follow the known ones, unless keys meet. -/
theorem foldl_setKey_cases (entries done : List (String × α)) :
    entries.foldl (fun acc e => setKey e.1 e.2 acc) done = done ++ entries ∨
      (entries.foldl (fun acc e => setKey e.1 e.2 acc) done).length <
        done.length + entries.length := by
  induction entries generalizing done with
  | nil => exact .inl (List.append_nil done).symm
  | cons e entries ih =>
    rw [List.foldl_cons, List.length_cons]
    obtain ⟨-, hlength⟩ | ⟨-, heq⟩ := setKey_cases e.1 e.2 done
    · obtain h | h := ih (setKey e.1 e.2 done)
      · rw [h, List.length_append]
        exact .inr (by omega)
      · exact .inr (by omega)
    · obtain h | h := ih (setKey e.1 e.2 done)
      · rw [h, heq, List.append_assoc]
        exact .inl rfl
      · rw [heq, List.length_append, List.length_singleton] at h
        rw [heq]
        exact .inr (by omega)

theorem foldl_setKey_of_nodup {entries done : List (String × α)}
    (h : ((done ++ entries).map Prod.fst).Nodup) :
    entries.foldl (fun acc e => setKey e.1 e.2 acc) done = done ++ entries := by
  induction entries generalizing done with
  | nil => exact (List.append_nil done).symm
  | cons e entries ih =>
    obtain ⟨hmem, -⟩ | ⟨-, heq⟩ := setKey_cases e.1 e.2 done
    · rw [List.map_append, List.nodup_append] at h
      exact absurd rfl (h.2.2 _ hmem _ (List.mem_map_of_mem List.mem_cons_self))
    · rw [List.foldl_cons, heq, ih (by rwa [List.append_assoc]), List.append_assoc]
      rfl

end

/-- Entries as they are read, each on its own. -/
def settledEach (entries : List (String × Json)) : List (String × Json) :=
  entries.map fun e => (settledText e.1, e.2.settled)

theorem settledEntries_eq (done entries : List (String × Json)) :
    settledEntries done entries =
      (settledEach entries).foldl (fun acc e => setKey e.1 e.2 acc) done := by
  induction entries generalizing done with
  | nil => rw [settledEntries]; rfl
  | cons e entries ih =>
    rw [settledEntries, ih]
    rfl

theorem settledEntries_eq_iff {entries : List (String × Json)}
    (h : (entries.map Prod.fst).Nodup) :
    settledEntries [] entries = entries ↔ settledEach entries = entries := by
  rw [settledEntries_eq]
  constructor
  · intro heq
    -- keys that meet would leave fewer entries than there were
    obtain hfold | hfold := foldl_setKey_cases (settledEach entries) []
    · exact hfold.symm.trans heq
    · rw [heq, settledEach, List.length_map, List.length_nil] at hfold
      omega
  · intro heq
    rw [heq]
    exact foldl_setKey_of_nodup h

theorem settledText_eq_iff {s : String} : settledText s = s ↔ Unsplit s.toList := by
  rw [← Text.rejoined_eq_iff, settledText, ← String.toList_inj, String.toList_ofList]

mutual

theorem settled_eq_iff (j : Json) (hj : ∀ p ∈ j.parts, p.KeysDiffer) :
    j.settled = j ↔ ∀ p ∈ j.parts, p.IsUnsplit := by
  match j with
  | null | bool _ | int _ | float _ => simp [settled, parts, IsUnsplit]
  | string s => simp [settled, parts, IsUnsplit, settledText_eq_iff]
  | array items =>
    rw [parts, List.forall_mem_cons] at hj
    rw [settled, parts, List.forall_mem_cons, ← settledItems_eq_iff items hj.2, array.injEq]
    exact (and_iff_right trivial).symm
  | object entries =>
    rw [parts, List.forall_mem_cons] at hj
    rw [settled, parts, List.forall_mem_cons, object.injEq, settledEntries_eq_iff hj.1,
      settledEach_eq_iff entries hj.2]
    rfl
termination_by sizeOf j

theorem settledItems_eq_iff (items : List Json) (h : ∀ p ∈ partsOfItems items, p.KeysDiffer) :
    settledItems items = items ↔ ∀ p ∈ partsOfItems items, p.IsUnsplit := by
  match items with
  | [] => simp [settledItems, partsOfItems]
  | v :: items =>
    rw [partsOfItems, List.forall_mem_append] at h
    rw [settledItems, partsOfItems, List.forall_mem_append, List.cons.injEq,
      settled_eq_iff v h.1, settledItems_eq_iff items h.2]
termination_by sizeOf items

theorem settledEach_eq_iff (entries : List (String × Json))
    (h : ∀ p ∈ partsOfEntries entries, p.KeysDiffer) :
    settledEach entries = entries ↔
      (∀ e ∈ entries, Unsplit e.1.toList) ∧ ∀ p ∈ partsOfEntries entries, p.IsUnsplit := by
  match entries with
  | [] => simp [settledEach, partsOfEntries]
  | (k, v) :: entries =>
    rw [partsOfEntries, List.forall_mem_append] at h
    have ih := settledEach_eq_iff entries h.2
    rw [partsOfEntries, List.forall_mem_append, List.forall_mem_cons, ← settled_eq_iff v h.1,
      settledEach, List.map_cons, List.cons.injEq, Prod.mk.injEq, settledText_eq_iff, ← settledEach,
      ih]
    tauto
termination_by sizeOf entries

end

theorem settled_strings (ss : List String) :
    (strings ss).settled = strings (ss.map settledText) := by
  rw [strings, strings, settled, List.map_map]
  congr 1
  induction ss with
  | nil => rw [List.map_nil, settledItems, List.map_nil]
  | cons s ss ih =>
    rw [List.map_cons, settledItems, ih, settled, List.map_cons]
    rfl

theorem isEmpty_settledText (s : String) : (settledText s).isEmpty = s.isEmpty := by
  rw [Bool.eq_iff_iff, String.isEmpty_iff, String.isEmpty_iff, settledText, ← String.toList_inj,
    String.toList_ofList, ← String.toList_inj]
  exact Text.rejoined_eq_nil_iff

/-- Keys of records: they differ, and are read as they are. -/
def AreFixed (keys : List String) : Prop := keys.Nodup ∧ ∀ k ∈ keys, Unsplit k.toList

instance (keys : List String) : Decidable (AreFixed keys) := inferInstanceAs (Decidable (_ ∧ _))

theorem AreFixed.sublist {keys fewer : List String} (h : AreFixed keys)
    (hsub : fewer.Sublist keys) : AreFixed fewer :=
  ⟨h.1.sublist hsub, fun k hk => h.2 k (hsub.subset hk)⟩

/-- The entries of a record keep their keys. -/
theorem settled_object_of_fixed {entries : List (String × Json)}
    (h : AreFixed (entries.map Prod.fst)) :
    (object entries).settled = object (entries.map fun e => (e.1, e.2.settled)) := by
  have heach : settledEach entries = entries.map fun e => (e.1, e.2.settled) := by
    refine List.map_congr_left fun e he => ?_
    rw [settledText_eq_iff.mpr (h.2 e.1 (List.mem_map_of_mem he))]
  have hnodup : (([] ++ settledEach entries).map Prod.fst).Nodup := by
    rw [heach, List.nil_append, List.map_map]
    exact h.1
  rw [settled, settledEntries_eq, foldl_setKey_of_nodup hnodup, heach, List.nil_append]

/-- A part with no fraction in it whose keys differ. -/
def IsPlain (p : Json) : Prop := (∀ x, p ≠ float x) ∧ p.KeysDiffer

theorem mem_partsOfEntries_iff {p : Json} {entries : List (String × Json)} :
    p ∈ partsOfEntries entries ↔ ∃ e ∈ entries, p ∈ e.2.parts := by
  induction entries with
  | nil => simp [partsOfEntries]
  | cons e entries ih =>
    rw [partsOfEntries, List.mem_append, ih, List.exists_mem_cons_iff]

theorem partsOfItems_map_string (ss : List String) :
    partsOfItems (ss.map string) = ss.map string := by
  induction ss with
  | nil => rfl
  | cons s ss ih =>
    rw [List.map_cons, partsOfItems, ih]
    rfl

theorem isPlain_parts_object {entries : List (String × Json)}
    (hkeys : AreFixed (entries.map Prod.fst)) (h : ∀ e ∈ entries, ∀ p ∈ e.2.parts, p.IsPlain) :
    ∀ p ∈ (object entries).parts, p.IsPlain := by
  rw [parts, List.forall_mem_cons]
  refine ⟨⟨fun x => nofun, hkeys.1⟩, fun p hp => ?_⟩
  obtain ⟨e, he, hp⟩ := mem_partsOfEntries_iff.mp hp
  exact h e he p hp

theorem isPlain_parts_strings (ss : List String) : ∀ p ∈ (strings ss).parts, p.IsPlain := by
  simp [strings, parts, partsOfItems_map_string, IsPlain, KeysDiffer]

theorem isPlain_parts_ofOption (s : Option String) : ∀ p ∈ (ofOption s).parts, p.IsPlain := by
  cases s <;> simp [ofOption, parts, IsPlain, KeysDiffer]

theorem isHuge_eq_false_iff {j : Json} :
    j.isHuge = false ↔ ∀ n, int n ∈ j.parts → n.natAbs < Binary64.pow10 Text.maxDecimalDigits := by
  rw [isHuge, List.any_eq_false]
  constructor
  · intro h n hn
    have hle := h _ hn
    rw [decide_eq_true_eq] at hle
    exact Nat.not_le.mp hle
  · intro h p hp
    cases p with
    | int n =>
      rw [decide_eq_true_eq]
      exact Nat.not_le.mpr (h n hp)
    | _ => exact Bool.false_ne_true

theorem isReadable_of_isPlain {j : Json} (hj : ∀ p ∈ j.parts, p.IsPlain)
    (h : j.isHuge = false) : ∀ p ∈ j.parts, p.IsReadable := by
  intro p hp
  cases p with
  | float x => exact absurd rfl ((hj _ hp).1 x)
  | int n => exact isHuge_eq_false_iff.mp h n hp
  | _ => trivial

end QueryLint.Json
