import QueryLint.Engine.Basic
import QueryLint.SqlRules

/-!
# Engines made from the registry

The registry of the rules about SQL holds two classes, and every rule that an engine gets
from it is one of the two, made with the marks and the validator of the engine. Which
rules these are, and whether the engine can be made at all, does not depend on the
validator that a caller hands in.
-/

namespace QueryLint

namespace SqlRules

/-- The origin whose rule has the given name. -/
def originOf? (id : String) : Option Origin :=
  if id = "SQL-SYNTAX-001" then some .literal
  else if id = "SQL-SYNTAX-002" then some .traced
  else none

theorem find?_registry (judge : Judge) (id : String) :
    (registry judge).find? id = (originOf? id).map (ruleClass judge) := by
  have hclasses : (registry judge).classes =
      [("SQL-SYNTAX-001", ruleClass judge .literal), ("SQL-SYNTAX-002", ruleClass judge .traced)] :=
    rfl
  unfold Registry.find? originOf?
  rw [hclasses]
  by_cases hfirst : id = "SQL-SYNTAX-001"
  · simp [hfirst]
  · by_cases hsecond : id = "SQL-SYNTAX-002"
    · simp [hsecond, List.lookup_cons]
    · simp [hfirst, hsecond, List.lookup_cons, beq_eq_false_iff_ne.2 hfirst,
        beq_eq_false_iff_ne.2 hsecond]

/-- The names that are active, be they names of rules or not. -/
def activeNames (enabled disabled : List String) : List String :=
  Registry.sortIds ((["SQL-SYNTAX-001", "SQL-SYNTAX-002"] ++ enabled).filter fun id =>
    !disabled.contains id)

/-- The origins whose rules are active, in the order of their rules. -/
def activeOrigins (enabled disabled : List String) : List Origin :=
  (activeNames enabled disabled).filterMap originOf?

theorem activeOrigins_nil : activeOrigins [] [] = [.literal, .traced] := by
  have hnames : activeNames [] [] = ["SQL-SYNTAX-001", "SQL-SYNTAX-002"] := by
    refine List.mergeSort_of_pairwise ?_
    decide
  rw [activeOrigins, hnames]
  rfl

theorem active_registry (judge : Judge) (enabled disabled : List String) :
    (registry judge).active enabled disabled =
      (activeOrigins enabled disabled).map (ruleClass judge) := by
  unfold Registry.active activeOrigins
  rw [List.map_filterMap]
  congr 1
  funext id
  exact find?_registry judge id

theorem make_ruleClass (judge : Judge) (origin : Origin) (settings : Datum) :
    (ruleClass judge origin).make settings = (do
      let markers ← markersOf settings
      let validator ← judge.validator settings
      return rule origin markers validator) := rfl

/-- With marks and a validator at hand the rules are made, whatever their origins. -/
theorem mapM_make_of_ok (judge : Judge) (settings : Datum) {markers : MarkerSettings}
    {validator : Validator} (hm : markersOf settings = .ok markers)
    (hv : judge.validator settings = .ok validator) (origins : List Origin) :
    (origins.map (ruleClass judge)).mapM (fun c => c.make settings) =
      .ok (origins.map fun o => rule o markers validator) := by
  have hmake : ∀ o, (ruleClass judge o).make settings = .ok (rule o markers validator) := by
    intro o
    rw [make_ruleClass, hm, hv]
    rfl
  induction origins with
  | nil => rfl
  | cons o origins ih =>
    rw [List.map_cons, List.mapM_cons, hmake, ih]
    rfl

/-- Without marks or without a validator only an empty list of rules is made. -/
theorem mapM_make_of_error (judge : Judge) (settings : Datum) {failure : Failure}
    (h : ∀ o, (ruleClass judge o).make settings = .error failure) (origins : List Origin) :
    (origins.map (ruleClass judge)).mapM (fun c => c.make settings) =
      if origins = [] then .ok [] else .error failure := by
  cases origins with
  | nil => rfl
  | cons o origins =>
    rw [List.map_cons, List.mapM_cons, h]
    rfl

end SqlRules

namespace Engine

open SqlRules

/-- The engine of some settings, as yet without rules. -/
def frameOf (entries : List (String × Datum)) (threshold : Severity)
    (limits : Document.Limits := .usual) : Engine where
  maxFileSize := (entries.lookup "max_file_size").getD (.int defaultFileSize)
  maxWorkers := (entries.lookup "max_workers").getD (.int defaultWorkers)
  ignorePatterns := ((entries.lookup "ignore_patterns").getD .null).orElse
    (.texts defaultIgnorePatterns)
  includePatterns := (entries.lookup "include_patterns").getD .null
  threshold := threshold
  rules := []
  limits := limits

/-- The registry has a say only in the rules of an engine. -/
theorem ofSettings_cases (settings : Datum) (limits : Document.Limits) :
    (∃ failure, ∀ registry, ofSettings registry settings limits = .error failure) ∨
      ∃ (e : Engine) (s : Datum) (enabled disabled : Selection), ∀ registry : Registry,
        ofSettings registry settings limits =
          (registry.create s enabled disabled).map fun rules => { e with rules } := by
  unfold ofSettings
  simp only [bind, Except.bind, pure, Except.pure]
  -- every step before the rules are made either fails for all registries or for none
  cases (settings.orElse (.mapping [])).toEntries with
  | error failure => exact .inl ⟨failure, fun _ => rfl⟩
  | ok entries =>
    dsimp only
    cases severityOf ((entries.lookup "severity_threshold").getD (.text "info")) with
    | error failure => exact .inl ⟨failure, fun _ => rfl⟩
    | ok threshold =>
      dsimp only
      generalize ((entries.lookup "rules").getD .null).orElse (.mapping []) = selection
      cases selection.memberOr "enabled" (.list []) with
      | error failure => exact .inl ⟨failure, fun _ => rfl⟩
      | ok enabled =>
        cases selection.memberOr "disabled" (.list []) with
        | error failure => exact .inl ⟨failure, fun _ => rfl⟩
        | ok disabled =>
          dsimp only
          cases Selection.ofDatum enabled with
          | error failure => exact .inl ⟨failure, fun _ => rfl⟩
          | ok enabledIds =>
            cases Selection.ofDatum disabled with
            | error failure => exact .inl ⟨failure, fun _ => rfl⟩
            | ok disabledIds =>
              refine .inr ⟨frameOf entries threshold limits, .ofEntries entries, enabledIds,
                disabledIds, fun registry => ?_⟩
              dsimp only
              cases registry.create (.ofEntries entries) enabledIds disabledIds <;> rfl

theorem create_registry (judge : Judge) (settings : Datum) (enabled disabled : Selection) :
    (SqlRules.registry judge).create settings enabled disabled =
      (Registry.checkOrder (activeNames enabled.ids disabled.ids)
        (enabled.others.filter fun j => !disabled.others.any (Datum.sameKey j))).bind fun _ =>
        ((activeOrigins enabled.ids disabled.ids).map (ruleClass judge)).mapM
          fun c => c.make settings := by
  unfold Registry.create
  rw [active_registry]
  rfl

/-- A validator that is handed in has a say only in the verdicts: whether an engine is
made, and with which rules and marks, is settled without it. -/
theorem ofSettings_given (settings : Datum) (limits : Document.Limits) :
    (∃ failure, ∀ v, ofSettings (SqlRules.registry (.given v)) settings limits = .error failure) ∨
      ∃ (e : Engine) (origins : List Origin) (markers : MarkerSettings), ∀ v,
        ofSettings (SqlRules.registry (.given v)) settings limits =
          .ok { e with rules := origins.map fun o => rule o markers v } := by
  obtain ⟨failure, h⟩ | ⟨e, s, enabled, disabled, h⟩ := ofSettings_cases settings limits
  · exact .inl ⟨failure, fun v => h _⟩
  · simp only [h, create_registry]
    cases Registry.checkOrder (activeNames enabled.ids disabled.ids)
        (enabled.others.filter fun j => !disabled.others.any (Datum.sameKey j)) with
    | error failure => exact .inl ⟨failure, fun v => rfl⟩
    | ok _ =>
      cases hm : markersOf s with
      | ok markers =>
        refine .inr ⟨e, activeOrigins enabled.ids disabled.ids, markers, fun v => ?_⟩
        simp only [Except.bind, mapM_make_of_ok (.given v) s hm rfl, Except.map]
      | error failure =>
        have hmake : ∀ v o, (ruleClass (.given v) o).make s = .error failure := by
          intro v o
          rw [make_ruleClass, hm]
          rfl
        simp only [Except.bind, mapM_make_of_error _ s (hmake _)]
        cases activeOrigins enabled.ids disabled.ids with
        | nil => exact .inr ⟨e, [], ⟨⟨[], []⟩, ⟨[], []⟩⟩, fun v => rfl⟩
        | cons o origins => exact .inl ⟨failure, fun v => rfl⟩

/-- Without settings both rules are there, with the marks that are looked for by default. -/
theorem ofSettings_null (v : Validator) :
    ofSettings (SqlRules.registry (.given v)) .null =
      .ok { frameOf [] .info with
        rules := [Origin.literal, .traced].map fun o =>
          rule o ⟨⟨["SqlCommand"], []⟩, ⟨["CommandText"], []⟩⟩ v } := by
  have hframe : ∀ registry : Registry, ofSettings registry .null =
      (registry.create (.ofEntries []) .none .none).map
        fun rules => { frameOf [] .info with rules } := fun _ => rfl
  have hmarkers : markersOf (.ofEntries []) =
      .ok ⟨⟨["SqlCommand"], []⟩, ⟨["CommandText"], []⟩⟩ := rfl
  have hrules := mapM_make_of_ok (.given v) (.ofEntries []) hmarkers rfl [.literal, .traced]
  rw [hframe, create_registry]
  simp only [Selection.none, activeOrigins_nil, hrules]
  rfl

/-- Every rule of an engine that is made from settings is one of the two about SQL, with a
validator that was made for these settings. -/
theorem exists_of_mem_rules {judge : Judge} {settings : Datum} {limits : Document.Limits}
    {e : Engine} (h : ofSettings (SqlRules.registry judge) settings limits = .ok e) :
    ∃ s, ∀ r ∈ e.rules, ∃ origin markers validator,
      judge.validator s = .ok validator ∧ r = rule origin markers validator := by
  obtain ⟨failure, hnone⟩ | ⟨frame, s, enabled, disabled, hmade⟩ :=
    ofSettings_cases settings limits
  · rw [hnone] at h
    cases h
  · refine ⟨s, ?_⟩
    rw [hmade, create_registry] at h
    cases ho : Registry.checkOrder (activeNames enabled.ids disabled.ids)
        (enabled.others.filter fun j => !disabled.others.any (Datum.sameKey j)) with
    | error failure => rw [ho] at h; cases h
    | ok _ =>
      rw [ho] at h
      cases hm : markersOf s with
      | ok markers =>
        cases hv : judge.validator s with
        | ok validator =>
          simp only [Except.bind, mapM_make_of_ok judge s hm hv, Except.map] at h
          cases h
          intro r hr
          obtain ⟨o, -, rfl⟩ := List.mem_map.1 hr
          exact ⟨o, markers, validator, rfl, rfl⟩
        | error failure =>
          have hmake : ∀ o, (ruleClass judge o).make s = .error failure := by
            intro o
            rw [make_ruleClass, hm, hv]
            rfl
          simp [rules_of_error hmake h]
      | error failure =>
        have hmake : ∀ o, (ruleClass judge o).make s = .error failure := by
          intro o
          rw [make_ruleClass, hm]
          rfl
        simp [rules_of_error hmake h]
where
  rules_of_error {judge : Judge} {s : Datum} {frame e : Engine} {origins : List Origin}
      {failure : Failure} (hmake : ∀ o, (ruleClass judge o).make s = .error failure)
      (h : ((Except.ok ()).bind fun _ => (origins.map (ruleClass judge)).mapM
        fun c => c.make s).map (fun rules => { frame with rules }) = .ok e) :
      e.rules = [] := by
    simp only [Except.bind, mapM_make_of_error judge s hmake] at h
    split at h
    · cases h
      rfl
    · cases h

theorem rules_ofSettings {judge : Judge} {settings : Datum} {limits : Document.Limits}
    {e : Engine} (h : ofSettings (SqlRules.registry judge) settings limits = .ok e) :
    ∀ r ∈ e.rules, ∃ origin markers validator, r = rule origin markers validator := by
  intro r hr
  obtain ⟨s, hrules⟩ := exists_of_mem_rules h
  obtain ⟨origin, markers, validator, -, hrule⟩ := hrules r hr
  exact ⟨origin, markers, validator, hrule⟩

end Engine

end QueryLint
