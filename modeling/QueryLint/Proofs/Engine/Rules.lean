import QueryLint.Engine.Run
import QueryLint.Proofs.Finding.Order

/-!
# Running the rules of an engine

The rules of an engine are run one after another over a file, and none of them can disturb
another: what comes out is put together from what each rule would report by itself. A rule
that fails leaves what it has reported before and one complaint. Since the name of its rule is
part of what a finding is ordered by, the order of rules with different names does not matter.
-/

namespace QueryLint

/-- A line is covered exactly if it is among the lines that comments cover. -/
theorem Suppression.covers_iff (lines : List String) (n : Int) :
    covers lines n = true ↔ ∃ m ∈ coveredLines lines, (m : Int) = n := by
  refine ⟨fun h => ?_, ?_⟩
  · have hline : ∀ k : Int, marksLine lines k = true → 0 < k ∧ k ≤ lines.length := by
      intro k hk
      rw [marksLine, Bool.and_eq_true, decide_eq_true_eq] at hk
      obtain ⟨hpos, hmarks⟩ := hk
      by_cases hlast : (k - 1).toNat < lines.length
      · omega
      · rw [List.getElem?_eq_none (by omega)] at hmarks
        cases hmarks
    have hbounds : 0 < n ∧ n ≤ lines.length + 1 := by
      rw [covers, Bool.or_eq_true] at h
      obtain h | h := h
      · have := hline n h
        omega
      · have := hline (n - 1) h
        omega
    have hn : (n.toNat : Int) = n := by omega
    refine ⟨n.toNat, List.mem_filter.2 ⟨List.mem_range.2 (by omega), ?_⟩, hn⟩
    rw [hn]
    exact h
  · rintro ⟨m, hm, rfl⟩
    exact (List.mem_filter.1 hm).2

namespace Engine

/-- A finding in the language of its file, marked if its first line is among those that
suppression comments cover. -/
def marked (context : Context) (f : Finding) : Finding :=
  let covered := f.location.span.startLine ∈
    (Suppression.coveredLines context.lines).map Int.ofNat
  { f with
    language := context.language
    suppressed := if covered then true else f.suppressed
    suppressionReason :=
      if covered then some "Inline suppression comment" else f.suppressionReason }

/-- What is kept of the findings of a rule. -/
def reported (threshold : Severity) (context : Context) (r : Rule) : List Finding :=
  ((r.analyze context).findings.filter fun f => threshold ≤ f.severity).map (marked context)

/-- What is said about a rule that fails. -/
def complaint? (context : Context) (r : Rule) : Option String :=
  match (r.analyze context).ending with
  | .failed message =>
      some ("Error running rule " ++ r.descriptor.ruleId ++ " on " ++ context.path ++ ": " ++
        message)
  | _ => none

theorem settle_eq_marked (context : Context) (f : Finding) :
    settle context f = marked context f := by
  have hcovered : context.isSuppressed f.location.span.startLine = true ↔
      f.location.span.startLine ∈
        (Suppression.coveredLines context.lines).map Int.ofNat := by
    rw [Context.isSuppressed, Suppression.covers_iff, List.mem_map]
    rfl
  unfold settle marked
  simp only [hcovered]
  split <;> simp [suppressionReason]

theorem keep_eq_reported (threshold : Severity) (context : Context) (r : Rule) :
    keep threshold context (r.analyze context).findings = reported threshold context r := by
  have hsettle : settle context = marked context := funext (settle_eq_marked context)
  rw [keep, reported, hsettle, List.filter_map]
  rfl

theorem complaint?_of_failed {context : Context} {r : Rule} {message : String}
    (h : (r.analyze context).ending = .failed message) :
    complaint? context r = some (failureText r.descriptor.ruleId context.path message) := by
  rw [complaint?, h]
  rfl

theorem complaint?_of_done {context : Context} {r : Rule}
    (h : (r.analyze context).ending = .done) : complaint? context r = none := by
  rw [complaint?, h]

/-- Rules that are not interrupted add up: each brings what it reports and, if it fails, one
complaint. -/
theorem collect_eq (threshold : Severity) (context : Context) (rules : List Rule)
    (h : ∀ r ∈ rules, (r.analyze context).ending ≠ .interrupted) :
    let active := rules.filter (·.descriptor.supports context.language)
    (collect threshold context rules).findings = active.flatMap (reported threshold context) ∧
      (collect threshold context rules).errors = active.filterMap (complaint? context) ∧
      (collect threshold context rules).stopped = none := by
  induction rules with
  | nil => exact ⟨rfl, rfl, rfl⟩
  | cons r rules ih =>
    obtain ⟨hfindings, herrors, hstopped⟩ := ih fun r' hr => h r' (List.mem_cons_of_mem r hr)
    have hends := h r List.mem_cons_self
    unfold collect
    by_cases hs : r.descriptor.supports context.language = true
    · cases hend : (r.analyze context).ending with
      | interrupted => exact absurd hend hends
      | done =>
        have hsilent := complaint?_of_done hend
        simp [hs, hfindings, herrors, hstopped, keep_eq_reported, hsilent, hend]
      | failed message =>
        have hsaid := complaint?_of_failed hend
        simp [hs, hfindings, herrors, hstopped, keep_eq_reported, hsaid, hend]
    · simp [hs, hfindings, herrors, hstopped]

/-- Rules do not disturb one another. The findings are those that the rules for the language
of the file have reported, each rule up to its end or its failure, as far as they reach the
threshold; they are in order, and rule by rule where the order does not decide. There is one
error for each of these rules that has failed. -/
theorem runRules_isolates_rules (threshold : Severity) (rules : List Rule) (context : Context)
    (hends : ∀ r ∈ rules, (r.analyze context).ending ≠ .interrupted) :
    let active := rules.filter (·.descriptor.supports context.language)
    let outcome := runRules threshold rules context
    Finding.Arranges (active.flatMap (reported threshold context)) outcome.findings ∧
      outcome.errors = active.filterMap (complaint? context) ∧ outcome.stopped = none := by
  intro active outcome
  obtain ⟨hfindings, herrors, hstopped⟩ := collect_eq threshold context rules hends
  refine ⟨?_, herrors, hstopped⟩
  rw [← hfindings]
  exact Finding.arranges_sort _

/-- A rule that reports on some lines, with a severity each, and then comes to an end. -/
def scripted (id : String) (languages : List String) (reports : List (Int × Severity))
    (ending : Ending) : Rule where
  descriptor :=
    { ruleId := id, name := id, description := "", severity := .error, confidence := .high,
      languages }
  markers := none
  analyze context :=
    { findings := reports.map fun (line, severity) =>
        { ruleId := id, title := id, description := "", severity, confidence := .high,
          category := .sqlSyntax, location := ⟨context.path, ⟨line, 0, line, 0⟩⟩,
          snippet := none, language := "unknown", tags := [], metadata := [],
          suppressed := false, suppressionReason := none }
      ending }

theorem runRules_isolates_failing_rule :
    let context : Context := ⟨"a.py", "x\ny  # noqa\nz\nw\n", "Python", none⟩
    let failing := scripted "B" ["python"] [(4, .error), (1, .info)] (.failed "no memory")
    let foreign := scripted "C" ["cobol"] [(1, .error)] (.failed "no memory")
    let general := scripted "A" ["*"] [(2, .warning)] .done
    let outcome := runRules .warning [failing, foreign, general] context
    let kept := reported .warning context failing ++ reported .warning context general
    kept.map (fun f => (f.ruleId, f.location.span.startLine, f.suppressed)) =
        [("B", 4, false), ("A", 2, true)] ∧
      Finding.Arranges kept outcome.findings ∧
      outcome.errors = ["Error running rule B on a.py: no memory"] := by
  intro context failing foreign general outcome kept
  have hends : ∀ r ∈ [failing, foreign, general],
      (r.analyze context).ending ≠ .interrupted := by
    simp [failing, foreign, general, scripted]
  have hactive : [failing, foreign, general].filter (·.descriptor.supports context.language) =
      [failing, general] := by
    have hfailing : failing.descriptor.supports "Python" = true := by decide +kernel
    have hforeign : foreign.descriptor.supports "Python" = false := by decide +kernel
    have hgeneral : general.descriptor.supports "Python" = true := by decide +kernel
    simp [context, hfailing, hforeign, hgeneral]
  obtain ⟨hfindings, herrors, -⟩ :=
    runRules_isolates_rules .warning [failing, foreign, general] context hends
  rw [hactive] at hfindings herrors
  exact ⟨by decide +kernel, by simpa using hfindings, herrors⟩

theorem ruleId_of_mem_reported {threshold : Severity} {context : Context} {r : Rule}
    (hown : ∀ f ∈ (r.analyze context).findings, f.ruleId = r.descriptor.ruleId) {f : Finding}
    (hf : f ∈ reported threshold context r) : f.ruleId = r.descriptor.ruleId := by
  obtain ⟨g, hg, rfl⟩ := List.mem_map.1 hf
  exact hown g (List.mem_filter.1 hg).1

/-- Of rules with different names, at most one has a given name. -/
theorem filter_ruleId_eq_of_perm {rules rules' : List Rule} (hperm : rules.Perm rules')
    (hids : (rules.map (·.descriptor.ruleId)).Nodup) (id : String) :
    rules.filter (·.descriptor.ruleId = id) = rules'.filter (·.descriptor.ruleId = id) := by
  have hsame := hperm.filter (·.descriptor.ruleId = id)
  have hnodup : ((rules.filter (·.descriptor.ruleId = id)).map (·.descriptor.ruleId)).Nodup :=
    hids.sublist (List.filter_sublist.map _)
  have hall : ∀ r ∈ rules.filter (·.descriptor.ruleId = id), r.descriptor.ruleId = id := by
    intro r hr
    simpa using (List.mem_filter.1 hr).2
  cases hcases : rules.filter (·.descriptor.ruleId = id) with
  | nil =>
    rw [hcases] at hsame
    exact hsame.nil_eq
  | cons r rest =>
    cases rest with
    | nil =>
      rw [hcases] at hsame
      exact (List.perm_singleton.1 hsame.symm).symm
    | cons s rest =>
      rw [hcases] at hnodup hall
      have hr := hall r (by simp)
      have hs := hall s (by simp)
      simp [hr, hs] at hnodup

/-- The order of rules with different names, each of which reports under its own name, has no
say in the findings, and none in which errors there are. -/
theorem runRules_of_perm (threshold : Severity) (context : Context) {rules rules' : List Rule}
    (hperm : rules.Perm rules') (hids : (rules.map (·.descriptor.ruleId)).Nodup)
    (hown : ∀ r ∈ rules, ∀ f ∈ (r.analyze context).findings, f.ruleId = r.descriptor.ruleId)
    (hends : ∀ r ∈ rules, (r.analyze context).ending ≠ .interrupted) :
    (runRules threshold rules context).findings = (runRules threshold rules' context).findings ∧
      (runRules threshold rules context).errors.Perm
        (runRules threshold rules' context).errors ∧
      (runRules threshold rules context).stopped = none ∧
      (runRules threshold rules' context).stopped = none := by
  obtain ⟨hfindings, herrors, hstopped⟩ := collect_eq threshold context rules hends
  obtain ⟨hfindings', herrors', hstopped'⟩ := collect_eq threshold context rules'
    fun r hr => hends r (hperm.mem_iff.2 hr)
  have hactive : (rules.filter (·.descriptor.supports context.language)).Perm
      (rules'.filter (·.descriptor.supports context.language)) := hperm.filter _
  refine ⟨?_, ?_, hstopped, hstopped'⟩
  · simp only [runRules, hfindings, hfindings']
    refine Finding.sort_eq_of_filter_key_eq fun k => ?_
    have howned : ∀ r ∈ rules, ∀ f ∈ reported threshold context r,
        f.ruleId = r.descriptor.ruleId := fun r hr f hf => ruleId_of_mem_reported (hown r hr) hf
    -- all findings of one key come from the one rule that the key names
    rw [Finding.filter_key_flatMap_of_label Finding.ruleId_key
        fun r hr => howned r (List.mem_filter.1 hr).1,
      Finding.filter_key_flatMap_of_label Finding.ruleId_key
        fun r hr => howned r (hperm.mem_iff.2 (List.mem_filter.1 hr).1),
      filter_ruleId_eq_of_perm hactive (hids.sublist (List.filter_sublist.map _))]
  · simp only [runRules, herrors, herrors']
    exact hactive.filterMap _

theorem runRules_of_swapped_rules :
    let context : Context := ⟨"a.py", "x\ny\n", "python", none⟩
    let first := scripted "A" ["*"] [(2, .error), (1, .error), (1, .error)] (.failed "no memory")
    let second := scripted "B" ["*"] [(1, .error)] (.failed "no time")
    (runRules .info [first, second] context).findings =
        (runRules .info [second, first] context).findings ∧
      (runRules .info [first, second] context).errors =
        ["Error running rule A on a.py: no memory", "Error running rule B on a.py: no time"] ∧
      (runRules .info [first, second] context).errors.Perm
        (runRules .info [second, first] context).errors := by
  intro context first second
  have hown : ∀ r ∈ [first, second], ∀ f ∈ (r.analyze context).findings,
      f.ruleId = r.descriptor.ruleId := by
    simp [first, second, scripted]
  have hends : ∀ r ∈ [first, second], (r.analyze context).ending ≠ .interrupted := by
    simp [first, second, scripted]
  obtain ⟨hfindings, herrors, -⟩ := runRules_of_perm .info context
    (List.Perm.swap second first []) (by simp [first, second, scripted]) hown hends
  exact ⟨hfindings, by decide +kernel, herrors⟩

end Engine

end QueryLint
