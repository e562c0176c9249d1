import QueryLint.Command.Run
import QueryLint.Proofs.Settings

/-!
# What a request to scan sets up

A request to scan changes the settings of the nearest file, and an engine is made from these. What
is done with the engine, and how the result is shown, comes after that and does not reach back.
-/

namespace QueryLint.Command

open Engine SqlRules

namespace ScanRequest

/-- Which rules are asked for, less those that the request disables. -/
def disabling (r : ScanRequest) (s : Settings) : Except Failure RuleSettings :=
  if r.disable.isEmpty then pure s.rules else s.rules.disable r.disable

/-- How results are put out, as the request has it. -/
def arranging (r : ScanRequest) (s : Settings) : Except Failure OutputSettings := do
  changing "output_file" r.output (← changing "format" r.format s.output)

/-- The settings with what a request changes, given what has to be worked out. -/
def apply (r : ScanRequest) (s : Settings) (patterns : Datum) (rules : RuleSettings)
    (output : OutputSettings) : Settings :=
  { s with
    severityThreshold := override r.severity s.severityThreshold
    maxWorkers := (r.jobs.map Datum.int).getD s.maxWorkers
    dialect := override r.dialect s.dialect
    includePatterns := if r.include_.isEmpty then s.includePatterns else .texts r.include_
    excludePatterns := patterns
    rules
    output }

theorem settings_eq (r : ScanRequest) (s : Settings) : r.settings s = (do
    let patterns ← r.excluding s
    let rules ← r.disabling s
    let output ← r.arranging s
    return r.apply s patterns rules output) := by
  unfold settings disabling arranging
  cases r.disable.isEmpty with
  | true => simp [apply]
  | false => simp [apply]

theorem settings_eq_ok_iff {r : ScanRequest} {s t : Settings} :
    r.settings s = .ok t ↔ ∃ patterns rules output, r.excluding s = .ok patterns ∧
      r.disabling s = .ok rules ∧ r.arranging s = .ok output ∧
      t = r.apply s patterns rules output := by
  simp only [settings_eq, bind_eq_ok_iff, pure, Except.pure, Except.ok.injEq]
  constructor
  · rintro ⟨patterns, hpatterns, rules, hrules, output, houtput, rfl⟩
    exact ⟨patterns, rules, output, hpatterns, hrules, houtput, rfl⟩
  · rintro ⟨patterns, rules, output, hpatterns, hrules, houtput, rfl⟩
    exact ⟨patterns, hpatterns, rules, hrules, output, houtput, rfl⟩

end ScanRequest

namespace Session

/-- The engine that is made for a request. -/
def setUp (s : Session) (r : ScanRequest) : Except Failure Engine := do
  s.engine (← r.settings (← Settings.load s.files r.config r.target))

/-- The result of the scan that is asked for. -/
def result (s : Session) (r : ScanRequest) : Except Failure ScanResult := do
  (← s.setUp r).scan s.files r.target

theorem engine_eq_ok_iff {judge : Judge} {s : Session}
    (hregistry : s.registry = SqlRules.registry judge) {settings : Settings} {e : Engine} :
    s.engine settings = .ok e ↔ ∃ ignore threshold rules, settings.ignored = .ok ignore ∧
      severityOf settings.severityThreshold = .ok threshold ∧
      settings.sqlRules judge = .ok rules ∧
      e = settings.frame ignore threshold rules s.limits := by
  rw [engine, hregistry]
  exact Settings.engine_eq_ok_iff

theorem setUp_eq_ok_iff {judge : Judge} {s : Session}
    (hregistry : s.registry = SqlRules.registry judge) {r : ScanRequest} {e : Engine} :
    s.setUp r = .ok e ↔ ∃ loaded settings ignore threshold rules,
      Settings.load s.files r.config r.target = .ok loaded ∧ r.settings loaded = .ok settings ∧
      settings.ignored = .ok ignore ∧ severityOf settings.severityThreshold = .ok threshold ∧
      settings.sqlRules judge = .ok rules ∧
      e = settings.frame ignore threshold rules s.limits := by
  simp only [setUp, bind_eq_ok_iff, engine_eq_ok_iff hregistry]
  constructor
  · rintro ⟨loaded, hload, settings, hsettings, ignore, threshold, rules, h⟩
    exact ⟨loaded, settings, ignore, threshold, rules, hload, hsettings, h⟩
  · rintro ⟨loaded, settings, ignore, threshold, rules, hload, hsettings, h⟩
    exact ⟨loaded, hload, settings, hsettings, ignore, threshold, rules, h⟩

theorem status_of_deliver {s : Session} {o : OutputOptions} {code : Nat} {report : String}
    {ending : Ending} (h : s.deliver o code report = .ok ending) :
    ending.status = .exited code := by
  unfold deliver at h
  obtain ⟨file, -, h⟩ := bind_eq_ok_iff.1 h
  cases file with
  | none => cases h; rfl
  | some path =>
    obtain ⟨opened, -, h⟩ := bind_eq_ok_iff.1 h
    obtain ⟨bytes, -, h⟩ := bind_eq_ok_iff.1 h
    obtain ⟨files, -, h⟩ := bind_eq_ok_iff.1 h
    cases h
    rfl

/-- The exit code of a scan is that of its result, however it is shown. -/
theorem exists_result_of_scan {s : Session} {r : ScanRequest} {ending : Ending}
    (h : s.scan r = .ok ending) :
    ∃ result, s.result r = .ok result ∧ ending.status = .exited (exitCode result) := by
  unfold scan at h
  obtain ⟨loaded, hload, h⟩ := bind_eq_ok_iff.1 h
  obtain ⟨settings, hsettings, h⟩ := bind_eq_ok_iff.1 h
  obtain ⟨e, hengine, h⟩ := bind_eq_ok_iff.1 h
  obtain ⟨result, hresult, h⟩ := bind_eq_ok_iff.1 h
  obtain ⟨o, -, h⟩ := bind_eq_ok_iff.1 h
  obtain ⟨report, -, hdeliver⟩ := bind_eq_ok_iff.1 h
  have hsetUp : s.setUp r = .ok e :=
    bind_eq_ok_iff.2 ⟨loaded, hload, bind_eq_ok_iff.2 ⟨settings, hsettings, hengine⟩⟩
  exact ⟨result, bind_eq_ok_iff.2 ⟨e, hsetUp, hresult⟩, status_of_deliver hdeliver⟩

/-- A scan completes if its result can be shown and no file is asked for. -/
theorem exists_scan {s : Session} {r : ScanRequest} {loaded settings : Settings} {e : Engine}
    {result : ScanResult} {o : OutputOptions} {format : ReportFormat}
    (hload : Settings.load s.files r.config r.target = .ok loaded)
    (hsettings : r.settings loaded = .ok settings) (hengine : s.engine settings = .ok e)
    (hresult : e.scan s.files r.target = .ok result)
    (houtput : outputOptions settings.output = .ok o)
    (hformat : ReportFormat.ofDatum o.format = .ok format) (hfile : fileOf o.file = .ok none) :
    ∃ ending, s.scan r = .ok ending := by
  have hreport : ∃ report, s.report r o result = .ok report := by
    unfold report
    rw [hformat]
    exact ⟨_, rfl⟩
  obtain ⟨report, hreport⟩ := hreport
  have hdeliver : ∃ ending, s.deliver o (exitCode result) report = .ok ending := by
    unfold deliver
    rw [hfile]
    exact ⟨_, rfl⟩
  obtain ⟨ending, hdeliver⟩ := hdeliver
  refine ⟨ending, ?_⟩
  unfold scan
  simp only [bind_eq_ok_iff]
  exact ⟨loaded, hload, settings, hsettings, e, hengine, result, hresult, o, houtput, report,
    hreport, hdeliver⟩

end Session

end QueryLint.Command
