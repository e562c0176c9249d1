import QueryLint.Draft.Report
import QueryLint.Proofs.Report.Agreement

/-!
# References inside an interchange report

A run holds a table of rules and a list of results, made from the findings that are shown in two
separate passes. The results refer to the table by the names of rules. Here it is shown that the
table has what they refer to, once each, in the order in which they do so, and that no entry of it
is left without a result.
-/

namespace QueryLint

/-- The value at the end of a way through objects. -/
def Json.at? (j : Json) (keys : List String) : Option Json := keys.foldlM Json.get? j

namespace Report.Sarif

theorem map_ruleId_firstOfRules (fs : List Finding) :
    (firstOfRules fs).map (·.ruleId) = firstUses (fs.map (·.ruleId)) := by
  induction fs with
  | nil => rfl
  | cons f fs ih =>
    rw [firstOfRules, List.map_cons, List.map_cons, firstUses, ← ih, List.filter_map]
    rfl

/-- The table has, for each rule, the first finding of it. -/
theorem find?_ruleId_of_mem {fs : List Finding} {f : Finding} (h : f ∈ firstOfRules fs) :
    fs.find? (·.ruleId = f.ruleId) = some f := by
  induction fs with
  | nil => cases h
  | cons g fs ih =>
    obtain rfl | h := List.mem_cons.1 h
    · exact List.find?_cons_of_pos (by simp)
    · obtain ⟨hf, hne⟩ := List.mem_filter.1 h
      have hgf : g.ruleId ≠ f.ruleId := (bne_iff_ne.1 hne).symm
      rw [List.find?_cons_of_neg (by simpa using hgf)]
      exact ih hf

theorem filter_notMem_firstOfRules_cons (f : Finding) (fs : List Finding) (seen : List String) :
    (firstOfRules (f :: fs)).filter (·.ruleId ∉ seen) =
      if f.ruleId ∈ seen then (firstOfRules fs).filter (·.ruleId ∉ seen)
      else f :: (firstOfRules fs).filter (·.ruleId ∉ f.ruleId :: seen) := by
  rw [firstOfRules]
  by_cases hf : f.ruleId ∈ seen
  · rw [if_pos hf, List.filter_cons_of_neg (by simpa using hf), List.filter_filter]
    refine List.filter_congr fun g _ => ?_
    -- what has another rule than `f` is all that the names seen do not rule out
    by_cases hg : g.ruleId = f.ruleId <;> simp [hg, hf]
  · rw [if_neg hf, List.filter_cons_of_pos (by simpa using hf), List.filter_filter]
    refine congrArg (f :: ·) (List.filter_congr fun g _ => ?_)
    by_cases hg : g.ruleId = f.ruleId <;> simp [hg]

theorem any_same_string (s : String) (seen : List String) :
    (seen.map Json.string).any (Json.string s).same = decide (s ∈ seen) := by
  induction seen with
  | nil => rfl
  | cons t seen ih =>
    have hsame : (Json.string s).same (.string t) = (s == t) := by rw [Json.same]
    rw [List.map_cons, List.any_cons, ih, hsame]
    by_cases hst : s = t <;> simp [hst]

/-- Going through the findings with the names of the rules seen so far makes the same table. -/
theorem draftRules_map_draft (fs : List Finding) (seen : List String) :
    draftRules (seen.map .string) (fs.map Finding.draft) =
      .ok (((firstOfRules fs).filter (·.ruleId ∉ seen)).map rule) := by
  induction fs generalizing seen with
  | nil => rfl
  | cons f fs ih =>
    have hid : f.draft.ruleId = .string f.ruleId := rfl
    have hrule : draftRule f.draft = .ok (rule f) := rfl
    have hhashable : (Datum.ofJson f.draft.ruleId).isHashable = true := rfl
    rw [List.map_cons, draftRules, filter_notMem_firstOfRules_cons, hhashable, hid,
      any_same_string]
    by_cases hf : f.ruleId ∈ seen
    · rw [if_pos hf]
      simp only [hf, decide_true, ↓reduceIte, Bool.not_true, Bool.false_eq_true]
      exact ih seen
    · have hrest := ih (f.ruleId :: seen)
      rw [List.map_cons] at hrest
      rw [if_neg hf, hrule, hrest]
      simp only [hf, decide_false, Bool.false_eq_true, ↓reduceIte, Bool.not_true]
      rfl

/-- An entry of the table as a finding of the rule describes it. -/
structure Describes (f : Finding) (rule : Json) : Prop where
  id : rule.at? ["id"] = some (.string f.ruleId)
  name : rule.at? ["name"] = some (.string f.title)
  description : rule.at? ["shortDescription", "text"] = some (.string f.title)
  level : rule.at? ["defaultConfiguration", "level"] = some (.string (level f.severity))
  tags : rule.at? ["properties", "tags"] = some (.strings f.tags)
  category : rule.at? ["properties", "category"] = some (.string f.category.label)

/-- The place of a finding: lines as they are, columns counted from one. -/
structure Locates (l : Location) (place : Json) : Prop where
  path : place.at? ["physicalLocation", "artifactLocation", "uri"] = some (.string l.path)
  startLine : place.at? ["physicalLocation", "region", "startLine"] = some (.int l.span.startLine)
  endLine : place.at? ["physicalLocation", "region", "endLine"] = some (.int l.span.endLine)
  startColumn : place.at? ["physicalLocation", "region", "startColumn"] =
    some (.int (l.span.startColumn + 1))
  endColumn : place.at? ["physicalLocation", "region", "endColumn"] =
    some (.int (l.span.endColumn + 1))

/-- A result for a finding. -/
structure Reports (f : Finding) (result : Json) : Prop where
  ruleId : result.at? ["ruleId"] = some (.string f.ruleId)
  place : ∃ place, result.at? ["locations"] = some (.array [place]) ∧ Locates f.location place
  suppressions : (result.at? ["suppressions"]).isSome = f.suppressed

theorem describes_rule (f : Finding) : Describes f (rule f) := ⟨rfl, rfl, rfl, rfl, rfl, rfl⟩

theorem reports_result (f : Finding) : Reports f (result f) where
  ruleId := rfl
  place := ⟨_, rfl, rfl, rfl, rfl, rfl, rfl⟩
  suppressions := by
    have hsuppressed : f.draft.isSuppressed = f.suppressed := rfl
    unfold result resultWith
    rw [hsuppressed]
    cases f.suppressed <;> rfl

theorem forall₂_map {α : Type} {R : α → Json → Prop} {make : α → Json} (h : ∀ a, R a (make a))
    (as : List α) : List.Forall₂ R as (as.map make) :=
  List.forall₂_map_right_iff.2 (List.forall₂_same.2 fun a _ => h a)

/-- References in a run are sound. The names in the table of rules are distinct, they are those that
the results refer to, in the order of first use, and each entry describes the first finding of its
rule. Every result is about one finding: it has its place, with columns counted from one, and a
note on suppression if the finding is suppressed. The run counts as successful if there is no
notification, and there is one for each error. -/
theorem run_refers_soundly (includeSuppressed : Bool) (finishedAt : String) (r : ScanResult) :
    let shown := r.findings.filter fun f => includeSuppressed || !f.suppressed
    let report := run includeSuppressed finishedAt r
    ∃ (rules results notifications : List Json) (invocation : Json) (ids uses : List String),
      report.at? ["tool", "driver", "rules"] = some (.array rules) ∧
      report.at? ["results"] = some (.array results) ∧
      report.at? ["invocations"] = some (.array [invocation]) ∧
      invocation.at? ["toolExecutionNotifications"] = some (.array notifications) ∧
      rules.map (·.at? ["id"]) = ids.map (fun id => some (.string id)) ∧
      results.map (·.at? ["ruleId"]) = uses.map (fun id => some (.string id)) ∧
      ids.Nodup ∧ (∀ id, id ∈ ids ↔ id ∈ uses) ∧
      (ids.Pairwise fun a b => uses.idxOf a < uses.idxOf b) ∧
      List.Forall₂ (fun id rule => ∃ f, shown.find? (·.ruleId = id) = some f ∧ Describes f rule)
        ids rules ∧
      draftRules [] (shown.map Finding.draft) = .ok rules ∧
      List.Forall₂ Reports shown results ∧
      List.Forall₂ (fun error n => n.at? ["message", "text"] = some (.string error)) r.errors
        notifications ∧
      invocation.at? ["executionSuccessful"] = some (.bool notifications.isEmpty) := by
  intro shown report
  have htable : draftRules [] (shown.map Finding.draft) = .ok ((firstOfRules shown).map rule) := by
    have hall := draftRules_map_draft shown []
    rwa [List.filter_eq_self.2 (by simp)] at hall
  have hrules : List.Forall₂
      (fun id rule => ∃ f, shown.find? (·.ruleId = id) = some f ∧ Describes f rule)
      ((firstOfRules shown).map (·.ruleId)) ((firstOfRules shown).map rule) := by
    rw [List.forall₂_map_left_iff, List.forall₂_map_right_iff, List.forall₂_same]
    exact fun f hf => ⟨f, find?_ruleId_of_mem hf, describes_rule f⟩
  refine ⟨(firstOfRules shown).map rule, shown.map result, _, invocation finishedAt r.errors,
    (firstOfRules shown).map (·.ruleId), shown.map (·.ruleId), rfl, rfl, rfl, rfl, ?_, ?_, ?_, ?_,
    ?_, hrules, htable, forall₂_map reports_result shown, ?_, ?_⟩
  · rw [List.map_map, List.map_map]
    rfl
  · rw [List.map_map, List.map_map]
    rfl
  · rw [map_ruleId_firstOfRules]
    exact nodup_firstUses _
  · intro id
    rw [map_ruleId_firstOfRules, mem_firstUses]
  · rw [map_ruleId_firstOfRules]
    exact pairwise_firstUses _
  · rw [List.map_map]
    refine forall₂_map (fun error => ?_) r.errors
    rfl
  · cases r.errors <;> rfl

end Report.Sarif

end QueryLint
