import QueryLint.Proofs.Command.Scan
import QueryLint.Proofs.Engine.Sources

/-!
# The exit code of a scan

A scan that completes ends with one if it has found an error that is not suppressed, and with zero
otherwise. Nothing that is asked about severities, workers or the report makes a difference.
-/

namespace QueryLint

/-- Settings that ask for the same files to be scanned in the same way. They may differ in the
threshold, in the number of workers and in how the result is put out. -/
structure Settings.SameScan (s t : Settings) : Prop where
  excludePatterns : s.excludePatterns = t.excludePatterns
  includePatterns : s.includePatterns = t.includePatterns
  maxFileSize : s.maxFileSize = t.maxFileSize
  dialect : s.dialect = t.dialect
  constructorMarkers : s.constructorMarkers = t.constructorMarkers
  propertyMarkers : s.propertyMarkers = t.propertyMarkers
  rules : s.rules = t.rules

namespace Command

open Engine SqlRules

/-- Two requests for the same scan, each with the settings that it starts from. They may differ in
the severity, in the number of workers and in everything about the report. -/
structure ScanRequest.SameScan (r q : ScanRequest) (s t : Settings) : Prop where
  dialect : r.dialect = q.dialect
  include_ : r.include_ = q.include_
  exclude : r.exclude = q.exclude
  disable : r.disable = q.disable
  settings : s.SameScan t

theorem ScanRequest.SameScan.settings_ok {r q : ScanRequest} {s t s' t' : Settings}
    (h : r.SameScan q s t) (hs : r.settings s = .ok s') (ht : q.settings t = .ok t') :
    s'.SameScan t' := by
  obtain ⟨patterns, rules, output, hpatterns, hrules, -, rfl⟩ := settings_eq_ok_iff.1 hs
  obtain ⟨patterns', rules', output', hpatterns', hrules', -, rfl⟩ := settings_eq_ok_iff.1 ht
  have hexcluding : r.excluding s = q.excluding t := by
    rw [excluding, excluding, h.exclude, h.settings.excludePatterns]
  have hdisabling : r.disabling s = q.disabling t := by
    rw [disabling, disabling, h.disable, h.settings.rules]
  rw [← hexcluding, hpatterns] at hpatterns'
  rw [← hdisabling, hrules] at hrules'
  cases hpatterns'
  cases hrules'
  refine ⟨rfl, ?_, h.settings.maxFileSize, ?_, h.settings.constructorMarkers,
    h.settings.propertyMarkers, rfl⟩
  · simp only [apply, h.include_, h.settings.includePatterns]
  · simp only [apply, h.dialect, h.settings.dialect]

theorem exitCode_above (threshold : Severity) (result : ScanResult) :
    exitCode (result.above threshold) = exitCode result := by
  rw [exitCode, exitCode, ScanResult.count_error_above]

/-- One if a result has an error that is not suppressed, else zero. -/
theorem exitCode_eq (result : ScanResult) :
    exitCode result =
      if ∃ f ∈ result.findings, f.severity = .error ∧ f.suppressed = false then 1 else 0 := by
  unfold exitCode ScanResult.count
  simp [List.countP_pos_iff]

namespace Session

section

variable {judge : Judge} {s : Session} {r : ScanRequest} {e : Engine}

/-- The same request with every severity reported leads to the same engine but for the
threshold. -/
theorem setUp_info (hregistry : s.registry = SqlRules.registry judge) (h : s.setUp r = .ok e) :
    s.setUp { r with severity := some "info" } = .ok e.lenient := by
  obtain ⟨loaded, settings, ignore, threshold, rules, hload, hsettings, hignore, -, hrules, rfl⟩ :=
    (setUp_eq_ok_iff hregistry).1 h
  obtain ⟨patterns, rules', output, hpatterns, hrules', houtput, rfl⟩ :=
    ScanRequest.settings_eq_ok_iff.1 hsettings
  exact (setUp_eq_ok_iff hregistry).2 ⟨loaded, _, ignore, .info, rules, hload,
    ScanRequest.settings_eq_ok_iff.2 ⟨patterns, rules', output, hpatterns, hrules', houtput, rfl⟩,
    hignore, rfl, hrules, rfl⟩

/-- Requests for the same scan lead to engines that differ in the threshold and in the number of
workers at most. -/
theorem setUp_of_sameScan {s' : Session} {q : ScanRequest} {e' : Engine}
    (hregistry : s.registry = SqlRules.registry judge)
    (hregistry' : s'.registry = SqlRules.registry judge) (hlimits : s'.limits = s.limits)
    (hsame : ∀ t t', Settings.load s.files r.config r.target = .ok t →
      Settings.load s'.files q.config q.target = .ok t' → r.SameScan q t t')
    (h : s.setUp r = .ok e) (h' : s'.setUp q = .ok e') :
    e' = { e with threshold := e'.threshold, maxWorkers := e'.maxWorkers } := by
  obtain ⟨loaded, settings, ignore, threshold, rules, hload, hsettings, hignore, -, hrules, rfl⟩ :=
    (setUp_eq_ok_iff hregistry).1 h
  obtain ⟨loaded', settings', ignore', threshold', rules', hload', hsettings', hignore', -, hrules',
    rfl⟩ := (setUp_eq_ok_iff hregistry').1 h'
  have halike := (hsame loaded loaded' hload hload').settings_ok hsettings hsettings'
  have hignored : settings.ignored = settings'.ignored := by
    rw [Settings.ignored, Settings.ignored, halike.excludePatterns]
  have hsqlRules : settings.sqlRules judge = settings'.sqlRules judge := by
    rw [Settings.sqlRules, Settings.sqlRules, halike.constructorMarkers, halike.propertyMarkers,
      halike.rules]
    unfold Settings.ruleEntries
    rw [halike.dialect]
  rw [← hignored, hignore] at hignore'
  rw [← hsqlRules, hrules] at hrules'
  cases hignore'
  cases hrules'
  simp only [Settings.frame, halike.maxFileSize, halike.includePatterns, hlimits]

/-- A scan that completes ends with one if the scan that reports everything has an error that is
not suppressed, and with zero otherwise. Two requests for the same scan of a tree, in whatever
session, with whatever severity and number of workers, and however the result is put out, end with
the same code. The trees may differ in files that are no sources, so each may have settings of its
own. -/
theorem scan_exits_by_errors (hregistry : s.registry = SqlRules.registry judge) {ending : Ending}
    (hscan : s.scan r = .ok ending) :
    (∃ result, s.result { r with severity := some "info" } = .ok result ∧
        ending.status = .exited
          (if ∃ f ∈ result.findings, f.severity = .error ∧ f.suppressed = false then 1 else 0)) ∧
      ∀ (s' : Session) (q : ScanRequest) (ending' : Ending), s'.registry = s.registry →
        s'.limits = s.limits → s.files.SameSources s'.files → q.target = r.target →
        (∀ t t', Settings.load s.files r.config r.target = .ok t →
          Settings.load s'.files q.config q.target = .ok t' → r.SameScan q t t') →
        s'.scan q = .ok ending' → ending'.status = ending.status := by
  obtain ⟨result, hresult, hstatus⟩ := exists_result_of_scan hscan
  obtain ⟨e, hsetUp, hfound⟩ := bind_eq_ok_iff.1 hresult
  obtain ⟨all, hall, rfl⟩ := exists_scan_lenient hfound
  refine ⟨⟨all, ?_, ?_⟩, ?_⟩
  · exact bind_eq_ok_iff.2 ⟨e.lenient, setUp_info hregistry hsetUp, hall⟩
  · rw [hstatus, exitCode_above, exitCode_eq]
  · intro s' q ending' hregistry' hlimits hfiles htarget hsame hscan'
    obtain ⟨result', hresult', hstatus'⟩ := exists_result_of_scan hscan'
    obtain ⟨e', hsetUp', hfound'⟩ := bind_eq_ok_iff.1 hresult'
    obtain ⟨all', hall', rfl⟩ := exists_scan_lenient hfound'
    have hengine := setUp_of_sameScan hregistry (hregistry'.trans hregistry) hlimits hsame
      hsetUp hsetUp'
    have hlenient : e'.lenient = { e.lenient with maxWorkers := e'.maxWorkers } := by
      rw [hengine]
      rfl
    rw [hlenient, htarget] at hall'
    rw [hstatus, hstatus', exitCode_above, exitCode_above, exitCode_eq, exitCode_eq,
      findings_of_sameSources hfiles hall hall']

end

/-- A tree of one file, with a command that is no SQL. -/
def oneFile : FileSystem where
  root := .folder [("a.py", .file "SqlCommand(\"SELEKT 1\")\n".toUTF8.toList)]
  current := []

theorem load_oneFile : Settings.load oneFile none "a.py" = .ok {} := by
  have hnone : Settings.locate oneFile "a.py" = .ok none := eq_ok_of_toOption (by decide +kernel)
  rw [Settings.load, hnone]
  rfl

theorem discover_oneFile (e : Engine) : e.discover oneFile "a.py" = .ok ["a.py"] := by
  have hplain : Path.plain "a.py" = "a.py" := by decide +kernel
  have hfile : oneFile.find? (Path.plain "a.py") =
      some (.file "SqlCommand(\"SELEKT 1\")\n".toUTF8.toList) := by
    rw [hplain]
    rfl
  rw [discover_of_file e hfile rfl, hplain]

theorem scan_oneFile {e : Engine} (h : (e.scanFile oneFile "a.py").stopped.isNone = true) :
    e.scan oneFile "a.py" = .ok (e.resultOf ["a.py"] [e.scanFile oneFile "a.py"]) := by
  have hstart : e.CanStart oneFile "a.py" ["a.py"] := ⟨by decide +kernel, .inl (le_refl 1)⟩
  exact (scan_eq_ok_iff (discover_oneFile e)).2 ⟨hstart, by simpa using h, rfl⟩

/-- Findings can be looked for before they are sorted. -/
theorem exists_finding_oneFile {e : Engine} {p : Finding → Bool}
    (hlimits : e.limits = .usual)
    (h : (read "python" "a.py" "SqlCommand(\"SELEKT 1\")\n").toOption.join.map (fun d =>
      (collect e.threshold (contextOf "python" "a.py" d) e.rules).findings.any p) = some true) :
    ∃ f ∈ (e.resultOf ["a.py"] [e.scanFile oneFile "a.py"]).findings, p f = true := by
  have htext : contentOf oneFile "a.py" = .ok "SqlCommand(\"SELEKT 1\")\n" :=
    eq_ok_of_toOption (by decide +kernel)
  obtain ⟨d, hd, hany⟩ := read_eq_of_map h
  obtain ⟨f, hf, hp⟩ := List.any_eq_true.1 hany
  refine ⟨f, (Finding.sort_perm _).mem_iff.2 ?_, hp⟩
  rw [List.flatMap_singleton,
    scanFile_eq_scanContent e (by decide +kernel : _ = some .python) htext]
  exact (findings_perm_collect (hlimits.symm ▸ hd)).mem_iff.2 hf

/-- Of two runs on one file the first reports errors only, as a record, and the second reports
everything in words. Both end with one. -/
theorem scan_exits_alike :
    let objecting : Validator := ⟨fun _ => .messages ["no such statement"], fun _ => []⟩
    let s : Session :=
      { files := oneFile, registry := SqlRules.registry (.given objecting), finishedAt := "" }
    let r : ScanRequest := { target := "a.py", severity := some "error", format := some "json" }
    let q : ScanRequest := { target := "a.py", jobs := some 8, verbose := true }
    Settings.load oneFile none "a.py" = .ok {} ∧ r.SameScan q {} {} ∧
      ∃ ending ending', s.scan r = .ok ending ∧ s.scan q = .ok ending' ∧
        ending.status = .exited 1 ∧ ending'.status = .exited 1 := by
  intro objecting s r q
  have hsame : r.SameScan q {} {} := ⟨rfl, rfl, rfl, rfl, rfl, rfl, rfl, rfl, rfl, rfl, rfl⟩
  let rules := Settings.defaultRules objecting
  let e := Settings.frame {} (.texts defaultIgnorePatterns) .error rules
  let e' := Settings.frame { maxWorkers := .int 8 } (.texts defaultIgnorePatterns) .info rules
  have hengine : s.engine (r.apply {} .null (.lists [] []) (.options { format := .text "json" })) =
      .ok e :=
    (engine_eq_ok_iff rfl).2 ⟨_, _, _, rfl, rfl, Settings.sqlRules_default objecting, rfl⟩
  have hengine' : s.engine (q.apply {} .null (.lists [] []) (.options {})) = .ok e' :=
    (engine_eq_ok_iff rfl).2 ⟨_, _, _, rfl, rfl, Settings.sqlRules_default objecting, rfl⟩
  have hends : (e.scanFile oneFile "a.py").stopped.isNone = true := by decide +kernel
  have hends' : (e'.scanFile oneFile "a.py").stopped.isNone = true := by decide +kernel
  obtain ⟨ending, hscan⟩ := exists_scan load_oneFile (rfl : r.settings {} = _) hengine
    (scan_oneFile hends) rfl rfl rfl
  obtain ⟨ending', hscan'⟩ := exists_scan load_oneFile (rfl : q.settings {} = _) hengine'
    (scan_oneFile hends') rfl rfl rfl
  obtain ⟨⟨result, hresult, hstatus⟩, hothers⟩ := scan_exits_by_errors rfl hscan
  have htree : oneFile.root.isProper = true := by decide +kernel
  have hstatus' := hothers s q ending' rfl rfl (.refl htree) rfl (by
    intro t t' ht ht'
    cases load_oneFile.symm.trans ht
    cases load_oneFile.symm.trans ht'
    exact hsame) hscan'
  have hfound : ∃ f ∈ result.findings, f.severity = .error ∧ f.suppressed = false := by
    have hsetUp : s.setUp r = .ok e := bind_eq_ok_iff.2 ⟨{}, load_oneFile, hengine⟩
    have hall : e.lenient.scan oneFile "a.py" = .ok _ := scan_oneFile (by decide +kernel)
    obtain ⟨e'', hsetUp'', hscan''⟩ := bind_eq_ok_iff.1 hresult
    cases (setUp_info rfl hsetUp).symm.trans hsetUp''
    cases hall.symm.trans hscan''
    simpa using exists_finding_oneFile (p := fun f => f.severity = .error && !f.suppressed)
      rfl (by decide +kernel)
  rw [if_pos hfound] at hstatus
  exact ⟨load_oneFile, hsame, ending, ending', hscan, hscan', hstatus, hstatus'.trans hstatus⟩

end Session

end Command

end QueryLint
