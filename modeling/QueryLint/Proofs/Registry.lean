import QueryLint.Proofs.Engine.LiteralsOnce

/-!
# Registries after many registrations

A registry keeps the classes by name and, beside them, the names that are on by default. A later
registration replaces the class of its name, but takes no name off the second list. So the active
rules are those that the latest classes ask for, and besides those that only an earlier class of the
same name has asked for.
-/

namespace QueryLint

namespace Registry

theorem find?_register (r : Registry) (c : RuleClass) (id : String) :
    (r.register c).find? id = if c.descriptor.ruleId = id then some c else r.find? id := by
  split
  next hid =>
    rw [← hid]
    exact Json.lookup_setKey_self c r.classes
  next hid => exact Json.lookup_setKey_of_ne c r.classes (Ne.symm hid)

theorem isDefault_register (r : Registry) (c : RuleClass) (id : String) :
    (r.register c).isDefault id = true ↔ r.isDefault id = true ∨
      (c.descriptor.ruleId = id ∧ c.descriptor.enabledByDefault = true) := by
  have hdefaults : (r.register c).defaults =
      if c.descriptor.enabledByDefault && !r.defaults.contains c.descriptor.ruleId then
        r.defaults ++ [c.descriptor.ruleId]
      else r.defaults := rfl
  simp only [isDefault, hdefaults, List.contains_iff_mem]
  split
  next h =>
    have hon : c.descriptor.enabledByDefault = true := (Bool.and_eq_true_iff.1 h).1
    rw [List.mem_append, List.mem_singleton, eq_comm (a := id), and_iff_left hon]
  next h =>
    -- nothing is added if the rule is off by default or its name is already there
    refine (or_iff_left_of_imp ?_).symm
    rintro ⟨rfl, hon⟩
    simpa [hon] using h

/-- The registry after some registrations, the first one first. -/
def ofClasses (classes : List RuleClass) : Registry := classes.foldl register empty

/-- The class that was last registered under a name. -/
def latest? (classes : List RuleClass) (id : String) : Option RuleClass :=
  (classes.filter fun c => c.descriptor.ruleId = id).getLast?

theorem latest?_concat (classes : List RuleClass) (c : RuleClass) (id : String) :
    latest? (classes ++ [c]) id =
      if c.descriptor.ruleId = id then some c else latest? classes id := by
  unfold latest?
  rw [List.filter_append]
  split
  next hid =>
    rw [List.filter_cons_of_pos (by simpa using hid), List.filter_nil, List.getLast?_concat]
  next hid =>
    rw [List.filter_cons_of_neg (by simpa using hid), List.filter_nil, List.append_nil]

theorem ofClasses_concat (classes : List RuleClass) (c : RuleClass) :
    ofClasses (classes ++ [c]) = (ofClasses classes).register c := by
  rw [ofClasses, List.foldl_concat]
  rfl

theorem find?_ofClasses (classes : List RuleClass) (id : String) :
    (ofClasses classes).find? id = latest? classes id := by
  induction classes using List.reverseRecOn with
  | nil => rfl
  | append_singleton classes c ih =>
    rw [ofClasses_concat, find?_register, latest?_concat, ih]

theorem isDefault_ofClasses (classes : List RuleClass) (id : String) :
    (ofClasses classes).isDefault id = true ↔
      ∃ c ∈ classes, c.descriptor.ruleId = id ∧ c.descriptor.enabledByDefault = true := by
  induction classes using List.reverseRecOn with
  | nil => simp [ofClasses, isDefault, empty]
  | append_singleton classes c ih =>
    rw [ofClasses_concat, isDefault_register, ih]
    simp only [List.mem_append, List.mem_singleton, or_and_right, exists_or, exists_eq_left]

theorem mem_of_latest? {classes : List RuleClass} {id : String} {c : RuleClass}
    (h : latest? classes id = some c) : c ∈ classes ∧ c.descriptor.ruleId = id := by
  simpa using List.mem_filter.1 (List.mem_of_getLast? h)

/-- A rule that is off by default in its latest class, but was on in an earlier one. -/
def IsStale (classes : List RuleClass) (id : String) : Prop :=
  (∃ c ∈ classes, c.descriptor.ruleId = id ∧ c.descriptor.enabledByDefault = true) ∧
    ∃ c, latest? classes id = some c ∧ c.descriptor.enabledByDefault = false

/-- A rule that its latest class or the settings ask for. -/
def IsWanted (classes : List RuleClass) (enabled disabled : List String) (id : String) : Prop :=
  id ∉ disabled ∧ ∃ c, latest? classes id = some c ∧
    (id ∈ enabled ∨ c.descriptor.enabledByDefault = true)

theorem isDefault_iff_latest? (classes : List RuleClass) (id : String) :
    (ofClasses classes).isDefault id = true ↔
      (∃ c, latest? classes id = some c ∧ c.descriptor.enabledByDefault = true) ∨
        IsStale classes id := by
  rw [isDefault_ofClasses]
  constructor
  · rintro ⟨c, hc, hid, hon⟩
    cases hlatest : latest? classes id with
    | none =>
      have hnone := List.getLast?_eq_none_iff.1 hlatest
      have hmem : c ∈ classes.filter fun c => c.descriptor.ruleId = id :=
        List.mem_filter.2 ⟨hc, by simpa using hid⟩
      rw [hnone] at hmem
      cases hmem
    | some last =>
      cases hlast : last.descriptor.enabledByDefault with
      | true => exact .inl ⟨last, rfl, hlast⟩
      | false => exact .inr ⟨⟨c, hc, hid, hon⟩, last, hlatest, hlast⟩
  · rintro (⟨c, hlatest, hon⟩ | ⟨hon, -⟩)
    · obtain ⟨hc, hid⟩ := mem_of_latest? hlatest
      exact ⟨c, hc, hid, hon⟩
    · exact hon

theorem mem_sortIds_iff {id : String} {ids : List String} : id ∈ sortIds ids ↔ id ∈ ids :=
  (sortIds_perm ids).mem_iff.trans (mem_distinct_iff ids)

theorem sortIds_strict (ids : List String) :
    (sortIds ids).Pairwise fun a b => Text.comesBefore a b = true :=
  Text.pairwise_mergeSort_comesBefore id _ (by simpa using nodup_distinct ids)

theorem mem_activeIds_iff (r : Registry) (enabled disabled : List String) (id : String) :
    id ∈ r.activeIds enabled disabled ↔
      (r.isDefault id = true ∨ id ∈ enabled) ∧ id ∉ disabled := by
  rw [activeIds, mem_sortIds_iff, List.mem_filter, List.mem_append, isDefault,
    List.contains_iff_mem]
  simp

/-- What is made of those items that something is found for. -/
theorem mapM_filterMap_eq_ok_iff {α β γ : Type} {find : α → Option β} {make : β → Except Failure γ}
    {as : List α} {made : List γ} :
    (as.filterMap find).mapM make = .ok made ↔
      List.Forall₂ (fun a c => ∃ b, find a = some b ∧ make b = .ok c)
        (as.filter fun a => (find a).isSome) made := by
  induction as generalizing made with
  | nil =>
    constructor
    · intro h
      cases h
      exact .nil
    · intro h
      cases h
      rfl
  | cons a as ih =>
    cases ha : find a with
    | none =>
      rw [List.filterMap_cons_none ha, List.filter_cons_of_neg (by simp [ha]), ih]
    | some b =>
      rw [List.filterMap_cons_some ha, List.filter_cons_of_pos (by simp [ha]), List.mapM_cons,
        Engine.bind_eq_ok_iff]
      constructor
      · rintro ⟨c, hc, hmade⟩
        obtain ⟨rest, hrest, hmade⟩ := Engine.bind_eq_ok_iff.1 hmade
        cases hmade
        exact .cons ⟨b, ha, hc⟩ (ih.1 hrest)
      · intro h
        cases h with
        | cons hfirst hrest =>
          obtain ⟨b', hb', hc⟩ := hfirst
          cases ha.symm.trans hb'
          exact ⟨_, hc, Engine.bind_eq_ok_iff.2 ⟨_, ih.2 hrest, rfl⟩⟩

/-- With names only, nothing stands in the way of their order. -/
theorem create_names (r : Registry) (settings : Datum) (enabled disabled : List String) :
    r.create settings ⟨enabled, []⟩ ⟨disabled, []⟩ =
      (r.active enabled disabled).mapM fun c => c.make settings := rfl

/-- The names of the active rules after some registrations. -/
def activeAfter (classes : List RuleClass) (enabled disabled : List String) : List String :=
  ((ofClasses classes).activeIds enabled disabled).filter fun id => (latest? classes id).isSome

theorem create_ofClasses_eq_ok_iff {classes : List RuleClass} {settings : Datum}
    {enabled disabled : List String} {rules : List Rule} :
    (ofClasses classes).create settings ⟨enabled, []⟩ ⟨disabled, []⟩ = .ok rules ↔
      List.Forall₂ (fun id rule => ∃ c, latest? classes id = some c ∧ c.make settings = .ok rule)
        (activeAfter classes enabled disabled) rules := by
  have hfind : (ofClasses classes).find? = latest? classes := funext (find?_ofClasses classes)
  rw [create_names, active, hfind]
  exact mapM_filterMap_eq_ok_iff

theorem mem_activeAfter_iff (classes : List RuleClass) (enabled disabled : List String)
    (id : String) :
    id ∈ activeAfter classes enabled disabled ↔
      IsWanted classes enabled disabled id ∨ (IsStale classes id ∧ id ∉ disabled) := by
  rw [activeAfter, List.mem_filter, mem_activeIds_iff, isDefault_iff_latest?,
    Option.isSome_iff_exists]
  constructor
  · rintro ⟨⟨(⟨c, hc, hon⟩ | hstale) | henabled, hdisabled⟩, c', hc'⟩
    · exact .inl ⟨hdisabled, c, hc, .inr hon⟩
    · exact .inr ⟨hstale, hdisabled⟩
    · exact .inl ⟨hdisabled, c', hc', .inl henabled⟩
  · rintro (⟨hdisabled, c, hc, henabled | hon⟩ | ⟨hstale, hdisabled⟩)
    · exact ⟨⟨.inr henabled, hdisabled⟩, c, hc⟩
    · exact ⟨⟨.inl (.inl ⟨c, hc, hon⟩), hdisabled⟩, c, hc⟩
    · obtain ⟨c, hc, -⟩ := hstale.2
      exact ⟨⟨.inl (.inr hstale), hdisabled⟩, c, hc⟩

theorem IsStale.isWanted_iff {classes : List RuleClass} {id : String} (h : IsStale classes id)
    (enabled disabled : List String) :
    IsWanted classes enabled disabled id ↔ id ∉ disabled ∧ id ∈ enabled := by
  obtain ⟨-, c, hc, hoff⟩ := h
  simp [IsWanted, hc, hoff]

/-- Rules are made whenever the classes can make them. -/
theorem exists_create_ofClasses {classes : List RuleClass} {settings : Datum}
    (h : ∀ c ∈ classes, ∃ rule, c.make settings = .ok rule) (enabled disabled : List String) :
    ∃ rules, (ofClasses classes).create settings ⟨enabled, []⟩ ⟨disabled, []⟩ = .ok rules := by
  simp only [create_ofClasses_eq_ok_iff]
  have hregistered : ∀ id ∈ activeAfter classes enabled disabled, (latest? classes id).isSome :=
    fun id hid => (List.mem_filter.1 hid).2
  generalize activeAfter classes enabled disabled = ids at hregistered
  induction ids with
  | nil => exact ⟨[], .nil⟩
  | cons id ids ih =>
    obtain ⟨hid, hids⟩ := List.forall_mem_cons.1 hregistered
    obtain ⟨c, hc⟩ := Option.isSome_iff_exists.1 hid
    obtain ⟨rule, hrule⟩ := h c (mem_of_latest? hc).1
    obtain ⟨rules, hrules⟩ := ih hids
    exact ⟨rule :: rules, .cons ⟨c, hc, hrule⟩ hrules⟩

theorem isDefault_eq_latest_iff {classes : List RuleClass} {id : String} {c : RuleClass}
    (h : latest? classes id = some c) :
    (ofClasses classes).isDefault id = c.descriptor.enabledByDefault ↔ ¬ IsStale classes id := by
  have hdefault := isDefault_iff_latest? classes id
  have hstale : IsStale classes id → c.descriptor.enabledByDefault = false := by
    rintro ⟨-, c', hc', hoff⟩
    cases h.symm.trans hc'
    exact hoff
  cases hon : c.descriptor.enabledByDefault with
  | true =>
    have hnot : ¬ IsStale classes id := fun hs => by simp [hstale hs] at hon
    exact iff_of_true (hdefault.2 (.inl ⟨c, h, hon⟩)) hnot
  | false =>
    rw [← Bool.not_eq_true, hdefault]
    refine not_congr (or_iff_right ?_)
    rintro ⟨c', hc', hon'⟩
    cases h.symm.trans hc'
    rw [hon] at hon'
    cases hon'

/-- What a registry makes after any registrations. The active rules come in strictly ascending order
of their names, one for each name and of its latest class, and they are made if their classes can
make them. Active are the rules that the latest classes and the settings ask for, and those not
disabled that only an earlier class has asked for: unless there are such, the registry follows the
latest classes. -/
theorem create_follows_latest_or_stale (classes : List RuleClass) (settings : Datum)
    (enabled disabled : List String) :
    ∃ ids : List String, (ids.Pairwise fun a b => Text.comesBefore a b = true) ∧
      (∀ rules, (ofClasses classes).create settings ⟨enabled, []⟩ ⟨disabled, []⟩ = .ok rules ↔
        List.Forall₂ (fun id rule => ∃ c, latest? classes id = some c ∧ c.make settings = .ok rule)
          ids rules) ∧
      ((∀ c ∈ classes, ∃ rule, c.make settings = .ok rule) →
        ∃ rules, (ofClasses classes).create settings ⟨enabled, []⟩ ⟨disabled, []⟩ = .ok rules) ∧
      (∀ id, id ∈ ids ↔
        IsWanted classes enabled disabled id ∨ (IsStale classes id ∧ id ∉ disabled)) ∧
      ((∀ id, id ∈ ids ↔ IsWanted classes enabled disabled id) ↔
        ∀ id, IsStale classes id → id ∈ enabled ∨ id ∈ disabled) ∧
      ∀ id c, latest? classes id = some c →
        ((ofClasses classes).isDefault id = c.descriptor.enabledByDefault ↔
          ¬ IsStale classes id) := by
  refine ⟨activeAfter classes enabled disabled, (sortIds_strict _).filter _,
    fun rules => create_ofClasses_eq_ok_iff,
    fun hmake => exists_create_ofClasses hmake enabled disabled,
    mem_activeAfter_iff classes enabled disabled, ?_, fun id c => isDefault_eq_latest_iff⟩
  simp only [mem_activeAfter_iff]
  constructor
  · intro h id hstale
    by_cases hdisabled : id ∈ disabled
    · exact .inr hdisabled
    · have hwanted := (h id).1 (.inr ⟨hstale, hdisabled⟩)
      exact .inl ((hstale.isWanted_iff enabled disabled).1 hwanted).2
  · intro h id
    refine ⟨?_, .inl⟩
    rintro (hwanted | ⟨hstale, hdisabled⟩)
    · exact hwanted
    · have henabled := (h id hstale).resolve_right hdisabled
      exact (hstale.isWanted_iff enabled disabled).2 ⟨hdisabled, henabled⟩

/-- A rule whose second class is off by default is made all the same if its first one was on. -/
theorem create_makes_stale_rule :
    let descriptor (on : Bool) : Descriptor :=
      { ruleId := "A", name := "Name", description := "", severity := .error, confidence := .high,
        languages := ["python"], enabledByDefault := on }
    let version (on : Bool) : RuleClass :=
      ⟨descriptor on, fun _ => .ok ⟨descriptor on, none, fun _ => {}⟩⟩
    let classes := [version true, version false]
    IsStale classes "A" ∧ ¬ IsWanted classes [] [] "A" ∧ (ofClasses classes).isDefault "A" = true ∧
      ∃ rule, (ofClasses classes).create .null .none .none = .ok [rule] ∧
        rule.descriptor = descriptor false := by
  intro descriptor version classes
  have hstale : IsStale classes "A" :=
    ⟨⟨version true, List.mem_cons_self, rfl, rfl⟩, version false, rfl, rfl⟩
  obtain ⟨ids, hsorted, hcreate, -, hmem, -, hdefault⟩ :=
    create_follows_latest_or_stale classes .null [] []
  have hwanted : ¬ IsWanted classes [] [] "A" := fun h =>
    List.not_mem_nil ((hstale.isWanted_iff [] []).1 h).2
  have hids : ids = ["A"] := by
    have hA : "A" ∈ ids := (hmem "A").2 (.inr ⟨hstale, List.not_mem_nil⟩)
    have honly : ∀ id ∈ ids, id = "A" := by
      intro id hid
      have hregistered : ∃ c, latest? classes id = some c := by
        obtain ⟨-, c, hc, -⟩ | ⟨⟨-, c, hc, -⟩, -⟩ := (hmem id).1 hid <;> exact ⟨c, hc⟩
      obtain ⟨c, hc⟩ := hregistered
      obtain ⟨hclass, rfl⟩ := mem_of_latest? hc
      simp only [classes, List.mem_cons, List.not_mem_nil, or_false] at hclass
      obtain rfl | rfl := hclass <;> rfl
    cases ids with
    | nil => cases hA
    | cons x ids =>
      cases ids with
      | nil => rw [honly x List.mem_cons_self]
      | cons y ids =>
        have hlt := (List.pairwise_cons.1 hsorted).1 y List.mem_cons_self
        rw [honly x (by simp), honly y (by simp)] at hlt
        exact absurd hlt (Text.comesBefore_irrefl _)
  have hon : (ofClasses classes).isDefault "A" = true :=
    Bool.eq_true_of_not_eq_false fun h => (hdefault "A" (version false) rfl).1 h hstale
  subst hids
  exact ⟨hstale, hwanted, hon, ⟨descriptor false, none, fun _ => {}⟩,
    (hcreate _).2 (.cons ⟨version false, rfl, rfl⟩ .nil), rfl⟩

end Registry

end QueryLint
