import Mathlib.Data.Set.Insert
import QueryLint.Proofs.SqlRules.Analysis
import QueryLint.Proofs.SqlRules.Registry

/-!
# Crashes of a validator stay where they happen

Two scans are compared: one with a validator that crashes on some texts, and one with a
validator that has nothing to say about them. The node at hand is passed over in the
first as it is in the second, and nothing else notices: no other node, no other rule,
neither the order of the findings nor the errors.
-/

namespace QueryLint

/-- What a caller sees of a scan, the log apart. -/
def Outcome.visible (o : Outcome) : List Finding × List String × Option Failure :=
  (o.findings, o.errors, o.stopped)

namespace Engine

open SqlRules

/-- A rule can be exchanged for one whose analysis has the same findings and ending. -/
theorem collect_cons_visible_congr (threshold : Severity) (context : Context) (r s : Rule)
    (rs ss : List Rule) (hdescriptor : r.descriptor = s.descriptor)
    (hfindings : (r.analyze context).findings = (s.analyze context).findings)
    (hending : (r.analyze context).ending = (s.analyze context).ending)
    (hrest : (collect threshold context rs).visible = (collect threshold context ss).visible) :
    (collect threshold context (r :: rs)).visible =
      (collect threshold context (s :: ss)).visible := by
  simp only [Outcome.visible, Prod.mk.injEq] at hrest ⊢
  obtain ⟨hf, he, hs⟩ := hrest
  simp only [collect, hdescriptor, hfindings, hending]
  by_cases hsupports : s.descriptor.supports context.language = true
  · cases hend : (s.analyze context).ending <;> simp [hsupports, hf, he, hs]
  · simp [hsupports, hf, he, hs]

theorem collect_visible_congr (threshold : Severity) (context : Context)
    (markers : MarkerSettings) (v w : Validator)
    (h : ∀ sql, audible (v.validate sql) = audible (w.validate sql)) (origins : List Origin) :
    (collect threshold context (origins.map fun o => rule o markers v)).visible =
      (collect threshold context (origins.map fun o => rule o markers w)).visible := by
  induction origins with
  | nil => rfl
  | cons o origins ih =>
    obtain ⟨hfindings, hending⟩ := analyze_congr_of_audible o markers v w context h
    exact collect_cons_visible_congr threshold context (rule o markers v) (rule o markers w) _ _
      rfl hfindings hending ih

/-- Scans with two validators that differ at most between a crash and silence cannot be
told apart by their findings and errors. -/
theorem scanContent_visible_congr (e : Engine) (markers : MarkerSettings) (v w : Validator)
    (h : ∀ sql, audible (v.validate sql) = audible (w.validate sql)) (origins : List Origin)
    (language path source : String) :
    ({ e with rules := origins.map fun o => rule o markers v }.scanContent
        language path source).visible =
      ({ e with rules := origins.map fun o => rule o markers w }.scanContent
        language path source).visible := by
  simp only [scanContent, scanText]
  cases read language path source e.limits with
  | error failure => rfl
  | ok parsed =>
    cases parsed with
    | none => rfl
    | some d =>
      have hall := collect_visible_congr e.threshold (contextOf language path d) markers v w h
        origins
      simp only [Outcome.visible, Prod.mk.injEq] at hall
      simp only [scanParsed, runRules, Outcome.visible, hall.1, hall.2.1, hall.2.2]

/-- A validator that crashes on some texts leads to the same findings, in the same order,
and to the same errors as one that has nothing to say about these texts and agrees about
all others. -/
theorem scanContent_contains_crashes (settings : Datum) (limits : Document.Limits)
    (v w : Validator) (failing : Set String)
    (hcrash : ∀ sql ∈ failing, ∃ message, v.validate sql = .crashed message)
    (hsilent : ∀ sql ∈ failing, w.validate sql = .messages [])
    (hsame : ∀ sql ∉ failing, v.validate sql = w.validate sql)
    (language path source : String) :
    (ofSettings (SqlRules.registry (.given v)) settings limits).map
        (fun e => (e.scanContent language path source).visible) =
      (ofSettings (SqlRules.registry (.given w)) settings limits).map
        (fun e => (e.scanContent language path source).visible) := by
  have haudible : ∀ sql, audible (v.validate sql) = audible (w.validate sql) := by
    intro sql
    by_cases hfails : sql ∈ failing
    · obtain ⟨message, hmessage⟩ := hcrash sql hfails
      rw [hmessage, hsilent sql hfails]
      rfl
    · rw [hsame sql hfails]
  obtain ⟨failure, hnone⟩ | ⟨e, origins, markers, hmade⟩ := ofSettings_given settings limits
  · rw [hnone, hnone]
  · rw [hmade, hmade]
    simp only [Except.map]
    rw [scanContent_visible_congr e markers v w haudible origins language path source]

/-- A validator with one answer to a certain text and an objection to every other one. -/
def answeringOnce (answer : Verdict) : Validator :=
  ⟨fun sql => if sql = "SELECT 1" then answer else .messages ["no such statement"], fun _ => []⟩

theorem scanContent_contains_crash_between_findings :
    let source :=
      "SqlCommand(\"SELEKT 0\")\nSqlCommand(\"SELECT 1\")\nq = \"SELEKT 2\"\nSqlCommand(q)\n"
    let crashing := answeringOnce (.crashed "out of memory")
    let silent := answeringOnce (.messages [])
    let scan := fun v => (ofSettings (SqlRules.registry (.given v)) .null).map
      fun e => (e.scanContent "python" "a.py" source).visible
    let lines := fun v => (read "python" "a.py" source).toOption.join.map fun d =>
      (collect .info (contextOf "python" "a.py" d) ([.literal, .traced].map fun o =>
        rule o ⟨⟨["SqlCommand"], []⟩, ⟨[], []⟩⟩ v)).findings.map (·.location.span.startLine)
    scan crashing = scan silent ∧ lines crashing = some [1, 3] := by
  refine ⟨scanContent_contains_crashes .null .usual (answeringOnce (.crashed "out of memory"))
    (answeringOnce (.messages [])) {"SELECT 1"} ?_ ?_ ?_ "python" "a.py" _, by decide +kernel⟩
  · rintro sql rfl
    exact ⟨"out of memory", rfl⟩
  · rintro sql rfl
    rfl
  · intro sql hsql
    rw [Set.mem_singleton_iff] at hsql
    simp [answeringOnce, hsql]

end Engine

end QueryLint
