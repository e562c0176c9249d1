import QueryLint.Proofs.Engine.Findings
import QueryLint.Proofs.Engine.Scan

/-!
# What the threshold does

A scan with a threshold finds what it would find without one, less the findings that do not reach
the threshold. Errors reach every threshold, so no threshold changes their number; nor does the
number of workers.
-/

namespace QueryLint

theorem Severity.le_error (s : Severity) : s ≤ Severity.error := by
  cases s <;> decide

/-- What is left of an outcome under a threshold. -/
def Outcome.above (threshold : Severity) (o : Outcome) : Outcome :=
  { o with findings := o.findings.filter fun f => threshold ≤ f.severity }

@[simp] theorem Outcome.stopped_above (threshold : Severity) (o : Outcome) :
    (o.above threshold).stopped = o.stopped := rfl

/-- What is left of a result under a threshold. -/
def ScanResult.above (threshold : Severity) (r : ScanResult) : ScanResult :=
  { r with findings := r.findings.filter fun f => threshold ≤ f.severity }

/-- No threshold drops an error. -/
theorem ScanResult.count_error_above (threshold : Severity) (r : ScanResult) :
    (r.above threshold).count .error = r.count .error := by
  rw [count, count, above, List.countP_filter]
  refine List.countP_congr fun f _ => ?_
  by_cases h : f.severity = .error
  · simp [h, Severity.le_error]
  · simp [h]

namespace Engine

theorem keep_eq (threshold : Severity) (context : Context) (findings : List Finding) :
    keep threshold context findings =
      (keep .info context findings).filter fun f => threshold ≤ f.severity := by
  simp [keep, SqlRules.info_le]

theorem collect_eq_above (threshold : Severity) (context : Context) (rules : List Rule) :
    collect threshold context rules = (collect .info context rules).above threshold := by
  induction rules with
  | nil => rfl
  | cons r rules ih =>
    rw [collect, collect, ih]
    cases r.descriptor.supports context.language with
    | false => rfl
    | true =>
      simp only [Bool.not_true, Bool.false_eq_true, if_false]
      rw [keep_eq threshold]
      cases (r.analyze context).ending with
      | interrupted => rfl
      | done => simp [Outcome.above]
      | failed message => simp [Outcome.above]

theorem runRules_eq_above (threshold : Severity) (rules : List Rule) (context : Context) :
    runRules threshold rules context = (runRules .info rules context).above threshold := by
  rw [runRules, collect_eq_above]
  simp [runRules, Outcome.above, Finding.filter_sort]

/-- An engine that reports everything. -/
def lenient (e : Engine) : Engine := { e with threshold := .info }

theorem scanContent_eq_above (e : Engine) (language path content : String) :
    e.scanContent language path content =
      (e.lenient.scanContent language path content).above e.threshold := by
  refine scanContent_related (P := fun o all => o = all.above e.threshold) e e.lenient rfl
    (fun o ho => ?_) fun d => runRules_eq_above ..
  rw [Outcome.above, ho, List.filter_nil, ← ho]

theorem scanFile_eq_above (e : Engine) (fs : FileSystem) (path : String) :
    e.scanFile fs path = (e.lenient.scanFile fs path).above e.threshold := by
  unfold scanFile
  generalize languageOf? path = language
  cases language with
  | none => rfl
  | some language =>
    generalize contentOf fs path = content
    cases content with
    | ok content => exact scanContent_eq_above e language.name path content
    | error failure => cases failure <;> rfl

theorem resultOf_eq_above (e : Engine) (fs : FileSystem) (paths : List String) :
    e.resultOf paths (paths.map (e.scanFile fs)) =
      (e.lenient.resultOf paths (paths.map (e.lenient.scanFile fs))).above e.threshold := by
  have hscan : e.scanFile fs = fun p => (e.lenient.scanFile fs p).above e.threshold :=
    funext (scanFile_eq_above e fs)
  simp only [resultOf, ScanResult.above, Finding.filter_sort, List.flatMap_map, List.filter_flatMap,
    hscan, Outcome.above, lenient]

section

variable {e : Engine} {fs : FileSystem} {target : String}

theorem exists_discover_of_scan {r : ScanResult} (h : e.scan fs target = .ok r) :
    ∃ paths, e.discover fs target = .ok paths := by
  unfold scan at h
  split at h
  · cases h
  · obtain ⟨paths, hfound, -⟩ := bind_eq_ok_iff.1 h
    exact ⟨paths, hfound⟩

/-- Which files are found depends on the settings about files alone. -/
theorem discover_congr {e' : Engine} (hsize : e.maxFileSize = e'.maxFileSize)
    (hignore : e.ignorePatterns = e'.ignorePatterns)
    (hinclude : e.includePatterns = e'.includePatterns) :
    e.discover fs target = e'.discover fs target := by
  have hignores : e.ignores = e'.ignores := by
    unfold ignores
    rw [hignore]
  have hincludes : e.includes = e'.includes := by
    unfold includes
    rw [hinclude]
  have hsieve : e.sieve = e'.sieve := by
    unfold sieve
    rw [hignores, hincludes, hsize]
  have hcheck : e.checkStop fs.current target = e'.checkStop fs.current target := by
    funext stop
    cases stop with
    | folder path => rw [checkStop, checkStop, hignores]
    | file path size => rw [checkStop, checkStop, hignores, hincludes, hsize]
  unfold discover
  rw [hsieve, hcheck]

/-- What is found in a file depends on the rules, the threshold and the limits alone. -/
theorem scanFile_congr_engine {e' : Engine} (hthreshold : e.threshold = e'.threshold)
    (hrules : e.rules = e'.rules) (hlimits : e.limits = e'.limits) :
    e.scanFile fs = e'.scanFile fs := by
  have hcontent : e.scanContent = e'.scanContent := by
    unfold scanContent
    rw [hthreshold, hrules, hlimits]
  unfold scanFile
  rw [hcontent]

/-- A scan that completes also does so when it reports everything, and finds the same less what
does not reach the threshold. -/
theorem exists_scan_lenient {r : ScanResult} (h : e.scan fs target = .ok r) :
    ∃ all, e.lenient.scan fs target = .ok all ∧ r = all.above e.threshold := by
  obtain ⟨paths, hfound⟩ := exists_discover_of_scan h
  have hsame : e.lenient.discover fs target = e.discover fs target := discover_congr rfl rfl rfl
  obtain ⟨hstart, hends, rfl⟩ := (scan_eq_ok_iff hfound).1 h
  have hends' : ∀ p ∈ paths, (e.lenient.scanFile fs p).stopped = none := by
    intro p hp
    rw [← Outcome.stopped_above e.threshold, ← scanFile_eq_above]
    exact hends p hp
  exact ⟨_, (scan_eq_ok_iff (hsame.trans hfound)).2 ⟨hstart, hends', rfl⟩,
    resultOf_eq_above e fs paths⟩

end

end Engine

end QueryLint
