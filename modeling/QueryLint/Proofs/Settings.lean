import QueryLint.Proofs.Engine.Discovery
import QueryLint.Proofs.SqlRules.Registry
import QueryLint.Settings.Basic

/-!
# Engines made from settings

What each setting has a say in, once an engine with the rules about SQL is made from it. The rules
depend on the marks, on the dialect and on which rules are asked for, and on nothing else; every
other setting goes into one part of the engine.
-/

namespace QueryLint

namespace Datum

theorem toEntries_ofEntries (entries : List (String × Datum)) :
    (ofEntries entries).toEntries = .ok entries := by
  rw [ofEntries, toEntries, textEntries, List.filterMap_map]
  exact congrArg Except.ok (List.filterMap_some)

theorem find?_ofEntries (key : String) (entries : List (String × Datum)) :
    find? key (entries.map fun (k, v) => (text k, v)) = entries.lookup key := by
  induction entries with
  | nil => rfl
  | cons x entries ih =>
    obtain ⟨k, v⟩ := x
    rw [List.map_cons, find?, ih, List.lookup_cons, Bool.beq_comm]
    cases key == k <;> rfl

theorem memberOr_ofEntries (entries : List (String × Datum)) (key : String) (default : Datum) :
    (ofEntries entries).memberOr key default = .ok ((entries.lookup key).getD default) := by
  rw [ofEntries, memberOr, find?_ofEntries]

theorem orElse_empty (entries : List (String × Datum)) :
    (ofEntries entries).orElse (.mapping []) = ofEntries entries := by
  cases entries <;> rfl

theorem toEntries_orElse (entries : List (String × Datum)) :
    ((ofEntries entries).orElse (.mapping [])).toEntries = .ok entries := by
  rw [orElse_empty, toEntries_ofEntries]

end Datum

namespace SqlRules

theorem validator_congr (judge : Judge) {entries entries' : List (String × Datum)}
    (hdialect : entries.lookup "dialect" = entries'.lookup "dialect") :
    judge.validator (.ofEntries entries) = judge.validator (.ofEntries entries') := by
  cases judge with
  | given v => rfl
  | configured grammar =>
    unfold Judge.validator
    rw [Datum.member, Datum.member, Datum.memberOr_ofEntries, Datum.memberOr_ofEntries, hdialect]

/-- The rules are made from the marks and the dialect alone. -/
theorem make_congr (judge : Judge) (origin : Origin) {entries entries' : List (String × Datum)}
    (hmarkers : entries.lookup "markers" = entries'.lookup "markers")
    (hdialect : entries.lookup "dialect" = entries'.lookup "dialect") :
    (ruleClass judge origin).make (.ofEntries entries) =
      (ruleClass judge origin).make (.ofEntries entries') := by
  have hmarks : markersOf (.ofEntries entries) = markersOf (.ofEntries entries') := by
    unfold markersOf
    rw [Datum.orElse_empty, Datum.orElse_empty, Datum.member, Datum.member,
      Datum.memberOr_ofEntries, Datum.memberOr_ofEntries, hmarkers]
  rw [make_ruleClass, make_ruleClass, hmarks, validator_congr judge hdialect]

theorem create_congr (judge : Judge) {entries entries' : List (String × Datum)}
    (hmarkers : entries.lookup "markers" = entries'.lookup "markers")
    (hdialect : entries.lookup "dialect" = entries'.lookup "dialect")
    (enabled disabled : Selection) :
    (registry judge).create (.ofEntries entries) enabled disabled =
      (registry judge).create (.ofEntries entries') enabled disabled := by
  have hmake : (fun c : RuleClass => c.make (.ofEntries entries)) ∘ ruleClass judge =
      (fun c : RuleClass => c.make (.ofEntries entries')) ∘ ruleClass judge :=
    funext fun origin => make_congr judge origin hmarkers hdialect
  rw [Engine.create_registry, Engine.create_registry, List.mapM_map, List.mapM_map, hmake]

end SqlRules

namespace Engine

/-- What the section about rules lists under a key. -/
def selectionAt (key : String) (entries : List (String × Datum)) : Except Failure Selection := do
  let listed ← (((entries.lookup "rules").getD .null).orElse (.mapping [])).memberOr key (.list [])
  Selection.ofDatum listed

/-- An engine is made from a mapping entry by entry. -/
theorem ofSettings_eq_ok_iff {registry : Registry} {settings : Datum} {limits : Document.Limits}
    {e : Engine} :
    ofSettings registry settings limits = .ok e ↔ ∃ entries threshold enabled disabled rules,
      (settings.orElse (.mapping [])).toEntries = .ok entries ∧
      severityOf ((entries.lookup "severity_threshold").getD (.text "info")) = .ok threshold ∧
      selectionAt "enabled" entries = .ok enabled ∧ selectionAt "disabled" entries = .ok disabled ∧
      registry.create (.ofEntries entries) enabled disabled = .ok rules ∧
      e = { frameOf entries threshold limits with rules } := by
  simp only [ofSettings, selectionAt, bind_eq_ok_iff, pure, Except.pure, Except.ok.injEq]
  constructor
  · rintro ⟨entries, hentries, threshold, hthreshold, enabled, he, disabled, hd, enabledIds, he',
      disabledIds, hd', rules, hrules, rfl⟩
    exact ⟨entries, threshold, enabledIds, disabledIds, rules, hentries, hthreshold,
      ⟨enabled, he, he'⟩, ⟨disabled, hd, hd'⟩, hrules, rfl⟩
  · rintro ⟨entries, threshold, enabledIds, disabledIds, rules, hentries, hthreshold,
      ⟨enabled, he, he'⟩, ⟨disabled, hd, hd'⟩, hrules, rfl⟩
    exact ⟨entries, hentries, threshold, hthreshold, enabled, he, disabled, hd, enabledIds, he',
      disabledIds, hd', rules, hrules, rfl⟩

theorem ofSettings_ofEntries_eq_ok_iff {registry : Registry} {entries : List (String × Datum)}
    {enabled disabled : List Datum}
    (hrules : entries.lookup "rules" =
      some (.ofEntries [("enabled", .list enabled), ("disabled", .list disabled)]))
    {limits : Document.Limits} {e : Engine} :
    ofSettings registry (.ofEntries entries) limits = .ok e ↔
      ∃ threshold enabledIds disabledIds rules,
      severityOf ((entries.lookup "severity_threshold").getD (.text "info")) = .ok threshold ∧
      Selection.ofItems enabled = .ok enabledIds ∧ Selection.ofItems disabled = .ok disabledIds ∧
      registry.create (.ofEntries entries) enabledIds disabledIds = .ok rules ∧
      e = { frameOf entries threshold limits with rules } := by
  have henabled : selectionAt "enabled" entries = Selection.ofItems enabled := by
    rw [selectionAt, hrules]
    rfl
  have hdisabled : selectionAt "disabled" entries = Selection.ofItems disabled := by
    rw [selectionAt, hrules]
    rfl
  rw [ofSettings_eq_ok_iff, Datum.toEntries_orElse]
  simp only [Except.ok.injEq, exists_and_left, exists_eq_left', henabled, hdisabled]

end Engine

namespace Settings

open SqlRules

/-- The patterns of what to ignore: those of the settings, or the engine's own. -/
def ignored (s : Settings) : Except Failure Datum :=
  match s.excludePatterns with
  | .null => .ok (.texts Engine.defaultIgnorePatterns)
  | patterns => do
      return (Datum.list (← patterns.items)).orElse (.texts Engine.defaultIgnorePatterns)

/-- The entries that the rules about SQL are made from. -/
def ruleEntries (s : Settings) (constructors properties : List Datum) : List (String × Datum) :=
  [("dialect", s.dialect),
    ("markers",
      .ofEntries [("constructors", .list constructors), ("properties", .list properties)])]

/-- The rules about SQL that settings ask for. -/
def sqlRules (judge : Judge) (s : Settings) : Except Failure (List Rule) := do
  let constructors ← s.constructorMarkers.items
  let properties ← s.propertyMarkers.items
  match s.rules with
  | .other value => .error (.noMember value.typeName "enabled")
  | .lists enabled disabled =>
      (registry judge).create (.ofEntries (s.ruleEntries constructors properties))
        (← Selection.ofItems enabled) (← Selection.ofItems disabled)

/-- The engine of some settings, given what has to be worked out. -/
def frame (s : Settings) (ignore : Datum) (threshold : Severity) (rules : List Rule)
    (limits : Document.Limits := .usual) : Engine where
  maxFileSize := s.maxFileSize
  maxWorkers := s.maxWorkers
  ignorePatterns := ignore
  includePatterns := s.includePatterns
  threshold := threshold
  rules := rules
  limits := limits

/-- The entries that an engine is made from, the patterns of what to ignore last. -/
def engineEntries (s : Settings) (constructors properties enabled disabled : List Datum)
    (patterns : Option (List Datum)) : List (String × Datum) :=
  [("max_file_size", s.maxFileSize),
    ("max_workers", s.maxWorkers),
    ("include_patterns", s.includePatterns),
    ("severity_threshold", s.severityThreshold),
    ("dialect", s.dialect),
    ("markers",
      .ofEntries [("constructors", .list constructors), ("properties", .list properties)]),
    ("rules", .ofEntries [("enabled", .list enabled), ("disabled", .list disabled)])] ++
  (patterns.map fun items => ("ignore_patterns", Datum.list items)).toList

/-- The patterns of what to exclude, if there is a setting about it. -/
def ownPatterns (s : Settings) : Except Failure (Option (List Datum)) :=
  match s.excludePatterns with
  | .null => .ok none
  | patterns => do return some (← patterns.items)

theorem forEngine_eq (s : Settings) : s.forEngine = (do
    let constructors ← s.constructorMarkers.items
    let properties ← s.propertyMarkers.items
    match s.rules with
    | .other value => .error (.noMember value.typeName "enabled")
    | .lists enabled disabled =>
      return .ofEntries (s.engineEntries constructors properties enabled disabled
        (← s.ownPatterns))) := by
  unfold forEngine ownPatterns
  cases s.constructorMarkers.items with
  | error failure => rfl
  | ok constructors =>
    cases s.propertyMarkers.items with
    | error failure => rfl
    | ok properties =>
      cases s.rules with
      | other value => rfl
      | lists enabled disabled =>
        generalize s.excludePatterns = patterns
        cases patterns <;> rfl

theorem ignored_eq (s : Settings) : s.ignored = (do
    return ((← s.ownPatterns).elim .null Datum.list).orElse
      (.texts Engine.defaultIgnorePatterns)) := by
  unfold ignored ownPatterns
  generalize s.excludePatterns = patterns
  cases patterns <;> rfl

theorem ofSettings_engineEntries_eq_ok_iff {judge : Judge} {s : Settings}
    {constructors properties enabled disabled : List Datum} {patterns : Option (List Datum)}
    {limits : Document.Limits} {e : Engine} :
    Engine.ofSettings (registry judge) (.ofEntries
        (s.engineEntries constructors properties enabled disabled patterns)) limits = .ok e ↔
      ∃ threshold rules, Engine.severityOf s.severityThreshold = .ok threshold ∧
        (do
          let enabledIds ← Selection.ofItems enabled
          let disabledIds ← Selection.ofItems disabled
          (registry judge).create (.ofEntries (s.ruleEntries constructors properties)) enabledIds
            disabledIds) = .ok rules ∧
        e = s.frame ((patterns.elim .null Datum.list).orElse (.texts Engine.defaultIgnorePatterns))
          threshold rules limits := by
  have hframe : ∀ threshold rules,
      { Engine.frameOf (s.engineEntries constructors properties enabled disabled patterns) threshold
        limits with rules } =
      s.frame ((patterns.elim .null Datum.list).orElse (.texts Engine.defaultIgnorePatterns))
        threshold rules limits := by
    intro threshold rules
    cases patterns <;> rfl
  have hcreate : (registry judge).create (.ofEntries
      (s.engineEntries constructors properties enabled disabled patterns)) =
      (registry judge).create (.ofEntries (s.ruleEntries constructors properties)) := by
    funext enabledIds disabledIds
    apply create_congr judge <;> rfl
  rw [Engine.ofSettings_ofEntries_eq_ok_iff rfl, hcreate]
  simp only [hframe, Engine.bind_eq_ok_iff]
  constructor
  · rintro ⟨threshold, enabledIds, disabledIds, rules, hthreshold, he, hd, hrules, rfl⟩
    exact ⟨threshold, rules, hthreshold, ⟨enabledIds, he, disabledIds, hd, hrules⟩, rfl⟩
  · rintro ⟨threshold, rules, hthreshold, ⟨enabledIds, he, disabledIds, hd, hrules⟩, rfl⟩
    exact ⟨threshold, enabledIds, disabledIds, rules, hthreshold, he, hd, hrules, rfl⟩

/-- What an engine with the rules about SQL takes from its settings. -/
theorem engine_eq_ok_iff {judge : Judge} {s : Settings} {limits : Document.Limits} {e : Engine} :
    s.forEngine >>= (Engine.ofSettings (registry judge) · limits) = .ok e ↔
      ∃ ignore threshold rules,
        s.ignored = .ok ignore ∧ Engine.severityOf s.severityThreshold = .ok threshold ∧
        s.sqlRules judge = .ok rules ∧ e = s.frame ignore threshold rules limits := by
  rw [forEngine_eq, ignored_eq, sqlRules]
  cases s.constructorMarkers.items with
  | error failure => simp [bind, Except.bind]
  | ok constructors =>
    cases s.propertyMarkers.items with
    | error failure => simp [bind, Except.bind]
    | ok properties =>
      cases s.rules with
      | other value => simp [bind, Except.bind]
      | lists enabled disabled =>
        cases s.ownPatterns with
        | error failure => simp [bind, Except.bind]
        | ok patterns =>
          refine ofSettings_engineEntries_eq_ok_iff.trans ⟨?_, ?_⟩
          · rintro ⟨threshold, rules, hthreshold, hrules, rfl⟩
            exact ⟨_, threshold, rules, rfl, hthreshold, hrules, rfl⟩
          · rintro ⟨ignore, threshold, rules, hignore, hthreshold, hrules, rfl⟩
            cases hignore
            exact ⟨threshold, rules, hthreshold, hrules, rfl⟩

/-- Both rules, with the marks that are looked for by default. -/
def defaultRules (v : Validator) : List Rule :=
  [Origin.literal, .traced].map fun o => rule o ⟨⟨["SqlCommand"], []⟩, ⟨["CommandText"], []⟩⟩ v

theorem sqlRules_default (v : Validator) :
    ({} : Settings).sqlRules (.given v) = .ok (defaultRules v) := by
  have hmarkers : markersOf (.ofEntries
      (ruleEntries {} [.text "SqlCommand"] [.text "CommandText"])) =
      .ok ⟨⟨["SqlCommand"], []⟩, ⟨["CommandText"], []⟩⟩ := rfl
  have hcreate : (registry (.given v)).create (.ofEntries
      (ruleEntries {} [.text "SqlCommand"] [.text "CommandText"])) ⟨[], []⟩ ⟨[], []⟩ =
      .ok (defaultRules v) := by
    rw [Engine.create_registry]
    simp only [activeOrigins_nil, mapM_make_of_ok (.given v) _ hmarkers rfl]
    rfl
  exact hcreate

end Settings

end QueryLint
