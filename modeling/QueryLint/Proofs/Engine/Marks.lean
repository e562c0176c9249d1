import Mathlib.Data.List.Flatten
import QueryLint.Proofs.Engine.RuleSelection

/-!
# More marks

Marks decide where a command is seen, and nothing else: what is then taken for its text, and what
is said about it, does not depend on them. So a place is a candidate for two sets of marks together
exactly if it is one for either, and whoever lists more marks loses no finding.
-/

namespace QueryLint

namespace Markers

instance : HasSubset Markers where
  Subset m n := m.constructors ⊆ n.constructors ∧ m.properties ⊆ n.properties

/-- A set of marks that holds what two others hold, in whatever order. -/
structure IsUnion (u m n : Markers) : Prop where
  constructors : ∀ mark, mark ∈ u.constructors ↔ mark ∈ m.constructors ∨ mark ∈ n.constructors
  properties : ∀ mark, mark ∈ u.properties ↔ mark ∈ m.properties ∨ mark ∈ n.properties

theorem isUnion_of_subset {m n : Markers} (h : m ⊆ n) : IsUnion n m n where
  constructors _ := ⟨.inr, fun hmark => hmark.elim (h.1 ·) id⟩
  properties _ := ⟨.inr, fun hmark => hmark.elim (h.2 ·) id⟩

section

variable {u m n : Markers} (h : IsUnion u m n) (text : String)
include h

theorem IsUnion.isCommandType :
    u.isCommandType text = (m.isCommandType text || n.isCommandType text) := by
  rw [Bool.eq_iff_iff]
  simp [Markers.isCommandType, h.constructors, or_and_right, exists_or]

theorem IsUnion.isCommandText :
    u.isCommandText text = (m.isCommandText text || n.isCommandText text) := by
  rw [Bool.eq_iff_iff]
  simp [Markers.isCommandText, h.properties, or_and_right, exists_or]

end

end Markers

namespace Candidate

/-- Whether what is called bears a mark. -/
def isMarkedCall (lines : List (List Char)) (markers : Markers) (call : Visit) : Bool :=
  (call.field "func").head?.any fun callee =>
    (callee.node.kind == .identifier || callee.node.kind == .attribute) &&
      markers.isCommandType (callee.node.text lines)

/-- Whether one of the targets of an assignment bears a mark. -/
def isMarkedAssignment (lines : List (List Char)) (markers : Markers) (site : Visit) : Bool :=
  (targets site).any fun t =>
    t.node.kind == .attribute && markers.isCommandText (t.node.text lines)

theorem guard_bind {α : Type} (p : Prop) [Decidable p] (x : Option α) :
    ((guard p : Option Unit).bind fun _ => x) = if p then x else none := by
  by_cases h : p <;> simp [guard, h]

theorem construction?_eq (lines : List (List Char)) (markers : Markers) (call : Visit) :
    construction? lines markers call =
      if isMarkedCall lines markers call then
        (firstArgument? call).map fun x => ⟨.construction, call, x, call.enclosingBlock?⟩
      else none := by
  unfold construction? isMarkedCall
  cases (call.field "func").head? with
  | none => rfl
  | some callee =>
    simp only [Option.bind_eq_bind, Option.bind_some, Option.any_some, guard_bind, Bool.and_eq_true,
      ite_and]
    cases firstArgument? call <;> rfl

theorem assignment?_eq (lines : List (List Char)) (markers : Markers) (site : Visit) :
    assignment? lines markers site =
      if isMarkedAssignment lines markers site then
        (site.field "value").head?.map fun x => ⟨.assignment, site, x, site.enclosingBlock?⟩
      else none := by
  unfold assignment? isMarkedAssignment
  simp only [Option.bind_eq_bind, guard_bind]
  cases (site.field "value").head? <;> rfl

section

variable {u m n : Markers} (h : Markers.IsUnion u m n) (lines : List (List Char)) (site : Visit)
include h

theorem isMarkedCall_of_isUnion :
    isMarkedCall lines u site = (isMarkedCall lines m site || isMarkedCall lines n site) := by
  unfold isMarkedCall
  cases (site.field "func").head? with
  | none => rfl
  | some callee => simp [h.isCommandType, Bool.and_or_distrib_left]

/-- Different targets may bear marks of different sets. -/
theorem isMarkedAssignment_of_isUnion :
    isMarkedAssignment lines u site =
      (isMarkedAssignment lines m site || isMarkedAssignment lines n site) := by
  rw [Bool.eq_iff_iff]
  simp [isMarkedAssignment, h.isCommandText, and_or_left, exists_or]

/-- For two sets of marks together a place is the candidate that it is for either of them. -/
theorem detect?_of_isUnion (c : Candidate) :
    detect? lines u site = some c ↔
      detect? lines m site = some c ∨ detect? lines n site = some c := by
  have hcall : construction? lines u site = some c ↔
      construction? lines m site = some c ∨ construction? lines n site = some c := by
    rw [construction?_eq, construction?_eq, construction?_eq, isMarkedCall_of_isUnion h]
    cases isMarkedCall lines m site <;> cases isMarkedCall lines n site <;> simp
  have hassignment : assignment? lines u site = some c ↔
      assignment? lines m site = some c ∨ assignment? lines n site = some c := by
    rw [assignment?_eq, assignment?_eq, assignment?_eq, isMarkedAssignment_of_isUnion h]
    cases isMarkedAssignment lines m site <;> cases isMarkedAssignment lines n site <;> simp
  unfold detect?
  cases site.node.kind with
  | call => exact hcall
  | assignment => exact hassignment
  | annotatedAssignment => exact hassignment
  | _ => simp

end

end Candidate

theorem filterMap_sublist_filterMap {α β : Type} {f g : α → Option β}
    (h : ∀ a b, f a = some b → g a = some b) (as : List α) :
    (as.filterMap f).Sublist (as.filterMap g) := by
  induction as with
  | nil => exact .slnil
  | cons a as ih =>
    cases hf : f a with
    | none =>
      rw [List.filterMap_cons_none hf]
      exact ih.trans ((List.sublist_cons_self a as).filterMap g)
    | some b =>
      rw [List.filterMap_cons_some hf, List.filterMap_cons_some (h a b hf)]
      exact ih.cons_cons b

namespace SqlRules

variable {m n : Markers}

theorem textAt?_of_subset (h : m ⊆ n) {context : Context} {lines : List (List Char)}
    {site : Visit} {text : ResolvedText} (ht : textAt? m context lines site = some text) :
    textAt? n context lines site = some text := by
  obtain ⟨candidate, hcandidate, ht⟩ := Option.bind_eq_some_iff.1 ht
  refine Option.bind_eq_some_iff.2 ⟨candidate, ?_, ht⟩
  exact (Candidate.detect?_of_isUnion (Markers.isUnion_of_subset h) lines site candidate).2
    (.inl hcandidate)

/-- With more marks a rule finds at least as much, and says the same about it. -/
theorem analyze_sublist (h : m ⊆ n) (origin : Origin) {validator : Validator}
    (hv : ∀ sql, validator.validate sql ≠ .interrupted) {context : Context} {d : Document}
    (hd : context.document = some d) :
    (analyze origin (settingsOf m) validator context).findings.Sublist
      (analyze origin (settingsOf n) validator context).findings := by
  rw [(analyze_of_total origin (settingsOf m) validator context d hd hv).1,
    (analyze_of_total origin (settingsOf n) validator context d hd hv).1]
  refine filterMap_sublist_filterMap (fun site f hf => ?_) _
  simp only [sightedTextAt?, isUndecided_settingsOf, ownTextAt?, Bool.false_eq_true, if_false]
    at hf ⊢
  obtain ⟨text, htext, hf⟩ := Option.bind_eq_some_iff.1 hf
  obtain ⟨htext, horigin⟩ := Option.filter_eq_some_iff.1 htext
  refine Option.bind_eq_some_iff.2 ⟨text, ?_, hf⟩
  exact Option.filter_eq_some_iff.2 ⟨textAt?_of_subset h htext, horigin⟩

end SqlRules

namespace Engine

open SqlRules

theorem runRules_sublist {m n : Markers} (h : m ⊆ n) (threshold : Severity)
    (origins : List Origin) {validator : Validator}
    (hv : ∀ sql, validator.validate sql ≠ .interrupted) {context : Context} {d : Document}
    (hd : context.document = some d) :
    (runRules threshold (origins.map fun o => rule o (settingsOf m) validator)
        context).findings.Sublist
      (runRules threshold (origins.map fun o => rule o (settingsOf n) validator)
        context).findings := by
  have hcollect : ∀ k : Markers,
      (collect threshold context (origins.map fun o => rule o (settingsOf k) validator)).findings =
        (origins.filter fun o => (descriptor o).supports context.language).flatMap fun o =>
          reported threshold context (rule o (settingsOf k) validator) := by
    intro k
    have hends : ∀ r ∈ origins.map fun o => rule o (settingsOf k) validator,
        (r.analyze context).ending ≠ .interrupted := by
      intro r hr
      obtain ⟨o, -, rfl⟩ := List.mem_map.1 hr
      have hdone := (analyze_of_total o (settingsOf k) validator context d hd hv).2
      exact ne_of_eq_of_ne hdone (by simp)
    rw [(collect_eq threshold context _ hends).1, List.filter_map, List.flatMap_map]
    rfl
  refine Finding.sort_sublist ?_
  rw [hcollect, hcollect]
  refine List.Sublist.flatMap_right _ fun o _ => ?_
  exact ((analyze_sublist h o hv hd).filter _).map _

/-- An engine with rules about SQL, in some order, that look for the given marks. -/
def lookingFor (e : Engine) (origins : List Origin) (validator : Validator) (m : Markers) :
    Engine :=
  { e with rules := origins.map fun o => rule o (settingsOf m) validator }

theorem scanContent_lookingFor {m n : Markers} (h : m ⊆ n) (e : Engine) (origins : List Origin)
    {validator : Validator} (hv : ∀ sql, validator.validate sql ≠ .interrupted)
    (language path source : String) :
    ((e.lookingFor origins validator m).scanContent language path source).findings.Sublist
      ((e.lookingFor origins validator n).scanContent language path source).findings :=
  scanContent_related (P := fun o o' => o.findings.Sublist o'.findings)
    (e.lookingFor origins validator m) (e.lookingFor origins validator n) rfl
    (fun _ _ => List.Sublist.refl _) fun _ => runRules_sublist h e.threshold origins hv rfl

end Engine

namespace Markers

/-- The section of the settings that lists the marks. -/
def toDatum (m : Markers) : Datum :=
  .ofEntries [("constructors", .texts m.constructors), ("properties", .texts m.properties)]

/-- The marks that are looked for. A list without marks stands for the one of the default. -/
def inForce (m : Markers) : Markers where
  constructors := if m.constructors = [] then default.constructors else m.constructors
  properties := if m.properties = [] then default.properties else m.properties

theorem inForce_eq_self {m : Markers} (hconstructors : m.constructors ≠ [])
    (hproperties : m.properties ≠ []) : m.inForce = m := by
  rw [inForce, if_neg hconstructors, if_neg hproperties]

end Markers

namespace SqlRules

theorem marksOf_texts (marks default : List String) :
    marksOf (.texts marks) default = .ok ⟨if marks = [] then default else marks, []⟩ := by
  have htexts : ∀ marks : List String, MarkList.ofItems (marks.map .text) = ⟨marks, []⟩ := by
    intro marks
    induction marks with
    | nil => rfl
    | cons mark marks ih => rw [List.map_cons, MarkList.ofItems, ih]
  cases marks with
  | nil => rfl
  | cons mark marks =>
    have hitems : marksOf (.texts (mark :: marks)) default =
        .ok (MarkList.ofItems ((mark :: marks).map .text)) := rfl
    rw [hitems, htexts, if_neg (List.cons_ne_nil mark marks)]

theorem markersOf_setKey (m : Markers) (entries : List (String × Datum)) :
    markersOf (.ofEntries (Json.setKey "markers" m.toDatum entries)) =
      .ok (settingsOf m.inForce) := by
  have hsection : (Datum.ofEntries (Json.setKey "markers" m.toDatum entries)).member "markers" =
      .ok m.toDatum := by
    rw [Datum.member, Datum.memberOr_ofEntries, Json.lookup_setKey_self]
    rfl
  have hfilled : m.toDatum.orElse (.mapping []) = m.toDatum := Datum.orElse_empty _
  have hconstructors : m.toDatum.member "constructors" = .ok (.texts m.constructors) := rfl
  have hproperties : m.toDatum.member "properties" = .ok (.texts m.properties) := rfl
  unfold markersOf
  simp only [Datum.orElse_empty, hsection, hfilled, hconstructors, hproperties, marksOf_texts, bind,
    Except.bind]
  rfl

/-- Whatever marks they look for, the same rules are made, with the same validator. -/
theorem create_of_marks {judge : Judge} (hanswers : judge.Answers)
    {entries : List (String × Datum)} {enabled disabled : Selection} {m : Markers}
    {rules : List Rule} (h : (registry judge).create
      (.ofEntries (Json.setKey "markers" m.toDatum entries)) enabled disabled = .ok rules) :
    ∃ (origins : List Origin) (validator : Validator),
      (∀ sql, validator.validate sql ≠ .interrupted) ∧ ∀ n : Markers, (registry judge).create
        (.ofEntries (Json.setKey "markers" n.toDatum entries)) enabled disabled =
          .ok (origins.map fun o => rule o (settingsOf n.inForce) validator) := by
  have hvalidator : ∀ n : Markers,
      judge.validator (.ofEntries (Json.setKey "markers" n.toDatum entries)) =
        judge.validator (.ofEntries entries) := by
    intro n
    exact validator_congr judge (Json.lookup_setKey_of_ne _ _ (by simp))
  rw [Engine.create_registry] at h
  obtain ⟨⟨⟩, horder, hmake⟩ := Engine.bind_eq_ok_iff.1 h
  cases hv : judge.validator (.ofEntries entries) with
  | ok validator =>
    refine ⟨activeOrigins enabled.ids disabled.ids, validator, hanswers _ validator hv, fun n => ?_⟩
    rw [Engine.create_registry, horder]
    exact mapM_make_of_ok judge _ (markersOf_setKey n entries) ((hvalidator n).trans hv) _
  | error failure =>
    -- without a validator no rule can be made, and so none was asked for
    have hfails : ∀ o, (ruleClass judge o).make
        (.ofEntries (Json.setKey "markers" m.toDatum entries)) = .error failure := by
      intro o
      rw [make_ruleClass, markersOf_setKey, hvalidator, hv]
      rfl
    rw [mapM_make_of_error judge _ hfails] at hmake
    split at hmake
    next hnone =>
      refine ⟨[], ⟨fun _ => .messages [], fun _ => []⟩, by simp, fun n => ?_⟩
      rw [Engine.create_registry, horder, hnone]
      rfl
    next => cases hmake

end SqlRules

namespace Engine

open SqlRules

/-- The settings with other marks. -/
def withMarks (m : Markers) (settings : Datum) : Except Failure Datum := do
  let entries ← (settings.orElse (.mapping [])).toEntries
  return .ofEntries (Json.setKey "markers" m.toDatum entries)

theorem ofSettings_withMarks {judge : Judge} (hanswers : judge.Answers) {settings : Datum}
    {limits : Document.Limits} {e : Engine} {m : Markers}
    (hmade : withMarks m settings >>= (ofSettings (SqlRules.registry judge) · limits) = .ok e) :
    ∃ (origins : List Origin) (validator : Validator),
      (∀ sql, validator.validate sql ≠ .interrupted) ∧ ∀ n : Markers,
        withMarks n settings >>= (ofSettings (SqlRules.registry judge) · limits) =
          .ok (e.lookingFor origins validator n.inForce) := by
  obtain ⟨marked, hmarked, hmade⟩ := bind_eq_ok_iff.1 hmade
  obtain ⟨entries, hentries, hmarked⟩ := bind_eq_ok_iff.1 hmarked
  cases hmarked
  obtain ⟨entries', threshold, enabled, disabled, rules, hentries', hthreshold, henabled, hdisabled,
    hrules, rfl⟩ := ofSettings_eq_ok_iff.1 hmade
  rw [Datum.toEntries_orElse] at hentries'
  cases hentries'
  obtain ⟨origins, validator, hv, hcreate⟩ := create_of_marks hanswers hrules
  refine ⟨origins, validator, hv, fun n => ?_⟩
  have hn : withMarks n settings = .ok (.ofEntries (Json.setKey "markers" n.toDatum entries)) := by
    rw [withMarks, hentries]
    rfl
  -- all else is read from other entries
  have hframe : frameOf (Json.setKey "markers" n.toDatum entries) threshold limits =
      frameOf (Json.setKey "markers" m.toDatum entries) threshold limits := by
    simp [frameOf, Json.lookup_setKey_of_ne]
  have hselection : ∀ key, selectionAt key (Json.setKey "markers" n.toDatum entries) =
      selectionAt key (Json.setKey "markers" m.toDatum entries) := by
    intro key
    simp [selectionAt, Json.lookup_setKey_of_ne]
  rw [hn]
  refine ofSettings_eq_ok_iff.2 ⟨_, threshold, enabled, disabled, _, ?_, ?_,
    (hselection _).trans henabled, (hselection _).trans hdisabled, hcreate n, ?_⟩
  · exact Datum.toEntries_orElse _
  · rw [Json.lookup_setKey_of_ne _ _ (by simp)] at hthreshold ⊢
    exact hthreshold
  · rw [lookingFor, hframe]

/-- Settings that list marks and nothing else leave both rules in place. -/
theorem ofSettings_withMarks_null (v : Validator) (m : Markers) :
    withMarks m .null >>= ofSettings (SqlRules.registry (.given v)) =
      .ok ((frameOf [] .info).lookingFor [.literal, .traced] v m.inForce) := by
  have hframe : ∀ registry : Registry, withMarks m .null >>= ofSettings registry =
      (registry.create (.ofEntries (Json.setKey "markers" m.toDatum [])) .none .none).map
        fun rules => { frameOf [] .info with rules } := fun _ => rfl
  have hrules := mapM_make_of_ok (.given v) _ (markersOf_setKey m []) rfl [.literal, .traced]
  rw [hframe, create_registry]
  simp only [Selection.none, activeOrigins_nil, hrules]
  rfl

/-- More marks lose nothing. If an engine can be made with some marks, it can be made with any
others; and if those in force are then more, the findings are among the new ones, unchanged and in
the same order. A place is a candidate for two sets of marks together exactly if it is one for
either, and then the same candidate. -/
theorem scanContent_with_more_marks (m n : Markers) :
    (∀ {judge : Judge} {settings : Datum} {limits : Document.Limits} {e : Engine}, judge.Answers →
      withMarks m settings >>= (ofSettings (SqlRules.registry judge) · limits) = .ok e →
        ∃ e', withMarks n settings >>= (ofSettings (SqlRules.registry judge) · limits) = .ok e' ∧
          (m.inForce ⊆ n.inForce → ∀ language path source : String,
            (e.scanContent language path source).findings.Sublist
              (e'.scanContent language path source).findings)) ∧
      ∀ u : Markers, u.IsUnion m n → ∀ lines site candidate,
        Candidate.detect? lines u site = some candidate ↔
          Candidate.detect? lines m site = some candidate ∨
            Candidate.detect? lines n site = some candidate := by
  refine ⟨fun {judge settings limits e} hanswers hmade => ?_,
    fun u hunion lines site candidate => ?_⟩
  · obtain ⟨origins, validator, hv, hlooking⟩ := ofSettings_withMarks hanswers hmade
    have he : e = e.lookingFor origins validator m.inForce :=
      Except.ok.inj (hmade.symm.trans (hlooking m))
    refine ⟨_, hlooking n, fun hmore language path source => ?_⟩
    rw [he]
    exact scanContent_lookingFor hmore e origins hv language path source
  · exact Candidate.detect?_of_isUnion hunion lines site candidate

/-- Of the two targets of an assignment one bears an old mark, the other a new one. -/
theorem scanContent_with_marks_of_both_targets :
    let objecting : Validator := ⟨fun _ => .messages ["no such statement"], fun _ => []⟩
    let m : Markers := ⟨["SqlCommand"], ["CommandText"]⟩
    let k : Markers := ⟨["Query"], ["Body"]⟩
    let n : Markers := ⟨["Query", "SqlCommand"], ["CommandText", "Body"]⟩
    let source := "a.Body = b.CommandText = \"SELEKT 1\"\nQuery(\"SELEKT 2\")\n"
    ∃ e e', (Judge.given objecting).Answers ∧ m.inForce ⊆ n.inForce ∧ n.IsUnion m k ∧
      withMarks m .null >>= ofSettings (SqlRules.registry (.given objecting)) = .ok e ∧
      withMarks n .null >>= ofSettings (SqlRules.registry (.given objecting)) = .ok e' ∧
      (e.scanContent "python" "a.py" source).findings.Sublist
        (e'.scanContent "python" "a.py" source).findings ∧
      (e.scanContent "python" "a.py" source).findings.length = 1 ∧
      (e'.scanContent "python" "a.py" source).findings.length = 2 ∧
      ∀ lines site candidate, Candidate.detect? lines n site = some candidate ↔
        Candidate.detect? lines m site = some candidate ∨
          Candidate.detect? lines k site = some candidate := by
  intro objecting m k n source
  have hanswers : (Judge.given objecting).Answers := Judge.answers_given (by simp [objecting])
  have hmore : m.inForce ⊆ n.inForce := by
    rw [Markers.inForce_eq_self (by simp [m]) (by simp [m]),
      Markers.inForce_eq_self (by simp [n]) (by simp [n])]
    constructor <;> simp [m, n]
  have hunion : n.IsUnion m k := by
    constructor <;> simp [m, k, n, or_comm]
  have hmade := ofSettings_withMarks_null objecting m
  obtain ⟨e', hmade', hsub⟩ := (scanContent_with_more_marks m n).1 hanswers hmade
  refine ⟨_, e', hanswers, hmore, hunion, hmade, hmade', hsub hmore "python" "a.py" source,
    length_findings (by decide +kernel), ?_, (scanContent_with_more_marks m k).2 n hunion⟩
  cases hmade'.symm.trans (ofSettings_withMarks_null objecting n)
  exact length_findings (by decide +kernel)

end Engine

end QueryLint
