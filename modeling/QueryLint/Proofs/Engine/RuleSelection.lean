import QueryLint.Proofs.Engine.LanguageNames
import QueryLint.Proofs.Engine.Threshold
import QueryLint.Proofs.Settings

/-!
# Which rules are run, and what is reported of them

Settings may raise the threshold and list rules that are not to be run. Both only take findings
away: what is left is what an engine that runs these rules and reports everything would find, less
the findings that do not reach the threshold or that a rule on the list has made. For the two rules
about SQL look at the same places of a file, but neither can tell whether the other is run.
-/

namespace QueryLint

namespace Registry

theorem distinct_filter (p : String → Bool) (ids : List String) :
    distinct (ids.filter p) = (distinct ids).filter p := by
  induction ids with
  | nil => rfl
  | cons id ids ih =>
    by_cases hp : p id = true
    · have hmem : (ids.filter p).contains id = ids.contains id := by
        simp [List.mem_filter, hp]
      rw [List.filter_cons_of_pos hp, distinct, distinct, hmem, ih]
      split
      · rfl
      · rw [List.filter_cons_of_pos hp]
    · rw [List.filter_cons_of_neg hp, ih, distinct]
      split
      · rfl
      · rw [List.filter_cons_of_neg hp]

theorem sortIds_perm (ids : List String) : (sortIds ids).Perm (distinct ids) :=
  List.mergeSort_perm _ _

theorem pairwise_sortIds (ids : List String) :
    (sortIds ids).Pairwise fun a b => Text.comesNoLater a b = true :=
  Text.pairwise_mergeSort_comesNoLater id (distinct ids)

/-- It makes no difference whether names are picked out before or after they are sorted. -/
theorem sortIds_filter (p : String → Bool) (ids : List String) :
    sortIds (ids.filter p) = (sortIds ids).filter p := by
  have hperm : (sortIds (ids.filter p)).Perm ((sortIds ids).filter p) := by
    refine (sortIds_perm _).trans ?_
    rw [distinct_filter]
    exact ((sortIds_perm ids).filter p).symm
  exact hperm.eq_of_pairwise (fun a b _ _ => Text.comesNoLater_antisymm) (pairwise_sortIds _)
    ((pairwise_sortIds ids).filter p)

/-- Fewer names are no harder to put in order. -/
theorem checkOrder_filter {ids : List String} {others : List Datum}
    (h : checkOrder ids others = .ok ()) (p : String → Bool) :
    checkOrder (ids.filter p) others = .ok () := by
  cases others with
  | nil => rfl
  | cons d rest =>
    cases ids with
    | nil => exact h
    | cons id ids => simp [checkOrder] at h

end Registry

namespace SqlRules

theorem ruleId_of_originOf? {id : String} {origin : Origin} (h : originOf? id = some origin) :
    (descriptor origin).ruleId = id := by
  unfold originOf? at h
  split at h
  next hid => cases h; exact hid.symm
  next =>
    split at h
    next hid => cases h; exact hid.symm
    next => cases h

variable (enabled disabled ids : List String)

theorem activeNames_append :
    activeNames enabled (disabled ++ ids) =
      (activeNames enabled disabled).filter fun id => id ∉ ids := by
  rw [activeNames, activeNames, ← Registry.sortIds_filter, List.filter_filter]
  congr 2
  funext id
  simp [Bool.and_comm]

/-- To disable more rules is to leave them out. -/
theorem activeOrigins_append :
    activeOrigins enabled (disabled ++ ids) =
      (activeOrigins enabled disabled).filter fun o => (descriptor o).ruleId ∉ ids := by
  rw [activeOrigins, activeOrigins, activeNames_append, List.filterMap_filter,
    List.filter_filterMap]
  congr 1
  funext id
  cases ho : originOf? id with
  | none => simp
  | some origin => simp [ruleId_of_originOf? ho, Option.filter]

end SqlRules

/-- A list that can be made can be made in part. -/
theorem mapM_filter_of_ok {α β : Type} {make : α → Except Failure β} {p : α → Bool}
    {q : β → Bool} (hpq : ∀ a b, make a = .ok b → q b = p a) {as : List α} {bs : List β}
    (h : as.mapM make = .ok bs) : (as.filter p).mapM make = .ok (bs.filter q) := by
  induction as generalizing bs with
  | nil =>
    cases h
    rfl
  | cons a as ih =>
    rw [List.mapM_cons, Engine.bind_eq_ok_iff] at h
    obtain ⟨b, hb, h⟩ := h
    obtain ⟨rest, hrest, h⟩ := Engine.bind_eq_ok_iff.1 h
    cases h
    have hq := hpq a b hb
    by_cases hp : p a = true
    · rw [List.filter_cons_of_pos hp, List.filter_cons_of_pos (hq.trans hp), List.mapM_cons, hb,
        ih hrest]
      rfl
    · rw [List.filter_cons_of_neg hp, List.filter_cons_of_neg (hq ▸ hp), ih hrest]

namespace SqlRules

theorem descriptor_of_make {judge : Judge} {settings : Datum} {origin : Origin} {r : Rule}
    (h : (ruleClass judge origin).make settings = .ok r) : r.descriptor = descriptor origin := by
  rw [make_ruleClass] at h
  obtain ⟨markers, -, h⟩ := Engine.bind_eq_ok_iff.1 h
  obtain ⟨validator, -, h⟩ := Engine.bind_eq_ok_iff.1 h
  cases h
  rfl

theorem create_disabling {judge : Judge} {settings : Datum} {enabled disabled : Selection}
    {rules : List Rule} (h : (registry judge).create settings enabled disabled = .ok rules)
    (ids : List String) :
    (registry judge).create settings enabled ⟨disabled.ids ++ ids, disabled.others⟩ =
      .ok (rules.filter fun r => r.descriptor.ruleId ∉ ids) := by
  rw [Engine.create_registry] at h ⊢
  obtain ⟨⟨⟩, horder, hmake⟩ := Engine.bind_eq_ok_iff.1 h
  simp only [activeNames_append, activeOrigins_append, List.mapM_map] at hmake ⊢
  rw [Registry.checkOrder_filter horder]
  refine mapM_filter_of_ok (fun origin r hr => ?_) hmake
  rw [descriptor_of_make hr]

end SqlRules

namespace Json

variable {α : Type} {key other : String} (value : α) (entries : List (String × α))

theorem lookup_setKey_self : (setKey key value entries).lookup key = some value := by
  induction entries with
  | nil => simp [setKey]
  | cons entry entries ih =>
    obtain ⟨k, v⟩ := entry
    rw [setKey]
    by_cases hk : k = key
    · simp [hk]
    · have hne : (key == k) = false := by simpa using Ne.symm hk
      simp [hk, List.lookup_cons, hne, ih]

theorem lookup_setKey_of_ne (h : other ≠ key) :
    (setKey key value entries).lookup other = entries.lookup other := by
  have hother : (other == key) = false := by simpa using h
  induction entries with
  | nil => simp [setKey, List.lookup_cons, hother]
  | cons entry entries ih =>
    obtain ⟨k, v⟩ := entry
    rw [setKey]
    by_cases hk : k = key
    · simp [hk, List.lookup_cons, hother]
    · simp [hk, List.lookup_cons, ih]

end Json

theorem Selection.ofItems_append {items : List Datum} {listed : Selection}
    (h : ofItems items = .ok listed) (ids : List String) :
    ofItems (items ++ ids.map .text) = .ok ⟨listed.ids ++ ids, listed.others⟩ := by
  have hids : ofItems (ids.map .text) = .ok ⟨ids, []⟩ := by
    induction ids with
    | nil => rfl
    | cons id ids ih =>
      rw [List.map_cons, ofItems, ih]
      rfl
  fun_induction ofItems items generalizing listed with
  | case1 =>
    cases h
    exact hids
  | case2 s rest ih =>
    obtain ⟨tail, htail, h⟩ := Engine.bind_eq_ok_iff.1 h
    cases h
    rw [List.cons_append, ofItems, ih htail]
    rfl
  | case3 d rest hd hhash => cases h
  | case4 d rest hd hhash ih =>
    obtain ⟨tail, htail, h⟩ := Engine.bind_eq_ok_iff.1 h
    cases h
    rw [List.cons_append, ofItems, if_neg hhash, ih htail]
    · rfl
    · exact hd

namespace Engine

open SqlRules

/-- The entries of settings with another threshold and another choice of rules. -/
def choosing (threshold : Severity) (enabled disabled : Datum) (entries : List (String × Datum)) :
    List (String × Datum) :=
  Json.setKey "rules" (.ofEntries [("enabled", enabled), ("disabled", disabled)])
    (Json.setKey "severity_threshold" (.text threshold.label) entries)

/-- The settings with another threshold, and with some rules added to those that they disable. -/
def narrowed (threshold : Severity) (ids : List String) (settings : Datum) :
    Except Failure Datum := do
  let entries ← (settings.orElse (.mapping [])).toEntries
  let selection := ((entries.lookup "rules").getD .null).orElse (.mapping [])
  let enabled ← selection.memberOr "enabled" (.list [])
  let disabled ← selection.memberOr "disabled" (.list [])
  let listed ← disabled.items
  return .ofEntries (choosing threshold enabled (.list (listed ++ ids.map .text)) entries)

section

variable (threshold : Severity) (enabled disabled : Datum) (entries : List (String × Datum))

theorem lookup_choosing {key : String} (hrules : key ≠ "rules")
    (hthreshold : key ≠ "severity_threshold") :
    (choosing threshold enabled disabled entries).lookup key = entries.lookup key := by
  rw [choosing, Json.lookup_setKey_of_ne _ _ hrules, Json.lookup_setKey_of_ne _ _ hthreshold]

theorem frameOf_choosing (old : Severity) (limits : Document.Limits) :
    frameOf (choosing threshold enabled disabled entries) threshold limits =
      { frameOf entries old limits with threshold } := by
  unfold frameOf
  simp [lookup_choosing]

theorem threshold_choosing :
    severityOf (((choosing threshold enabled disabled entries).lookup "severity_threshold").getD
      (.text "info")) = .ok threshold := by
  rw [choosing, Json.lookup_setKey_of_ne _ _ (by simp), Json.lookup_setKey_self]
  cases threshold <;> rfl

theorem selectionAt_choosing :
    selectionAt "enabled" (choosing threshold enabled disabled entries) =
        Selection.ofDatum enabled ∧
      selectionAt "disabled" (choosing threshold enabled disabled entries) =
        Selection.ofDatum disabled := by
  rw [selectionAt, selectionAt, choosing, Json.lookup_setKey_self]
  exact ⟨rfl, rfl⟩

end

variable {judge : Judge} {settings : Datum} {limits : Document.Limits} {e : Engine}

/-- Narrowed settings make the engine that they made before, with the other threshold and
without the rules that are now disabled. -/
theorem ofSettings_narrowed (hmade : ofSettings (SqlRules.registry judge) settings limits = .ok e)
    (threshold : Severity) (ids : List String) :
    narrowed threshold ids settings >>= (ofSettings (SqlRules.registry judge) · limits) =
      .ok { e with threshold, rules := e.rules.filter fun r => r.descriptor.ruleId ∉ ids } := by
  obtain ⟨entries, old, enabledIds, disabledIds, rules, hentries, -, henabled, hdisabled, hrules,
    rfl⟩ := ofSettings_eq_ok_iff.1 hmade
  obtain ⟨enabled, hmember, henabled⟩ := bind_eq_ok_iff.1 henabled
  obtain ⟨disabled, hmember', hdisabled⟩ := bind_eq_ok_iff.1 hdisabled
  obtain ⟨listed, hlisted, hdisabled⟩ := bind_eq_ok_iff.1 hdisabled
  have hnarrowed : narrowed threshold ids settings =
      .ok (.ofEntries (choosing threshold enabled (.list (listed ++ ids.map .text)) entries)) := by
    simp only [narrowed, hentries, hmember, hmember', hlisted, bind, Except.bind, pure, Except.pure]
  obtain ⟨hsame, hmore⟩ :=
    selectionAt_choosing threshold enabled (.list (listed ++ ids.map .text)) entries
  have hcreate : (SqlRules.registry judge).create
      (.ofEntries (choosing threshold enabled (.list (listed ++ ids.map .text)) entries)) enabledIds
      ⟨disabledIds.ids ++ ids, disabledIds.others⟩ =
      .ok (rules.filter fun r => r.descriptor.ruleId ∉ ids) := by
    rw [← create_disabling hrules ids]
    apply create_congr judge
    · exact lookup_choosing _ _ _ _ (by simp) (by simp)
    · exact lookup_choosing _ _ _ _ (by simp) (by simp)
  rw [hnarrowed]
  refine ofSettings_eq_ok_iff.2 ⟨_, threshold, enabledIds, _, _, ?_, threshold_choosing ..,
    hsame.trans henabled, hmore.trans (Selection.ofItems_append hdisabled ids), hcreate, ?_⟩
  · exact Datum.toEntries_orElse _
  · rw [frameOf_choosing threshold enabled _ entries old limits]

theorem ruleId_of_mem_analyze {origin : Origin} {markers : MarkerSettings} {validator : Validator}
    {context : Context} {f : Finding}
    (hf : f ∈ (analyze origin markers validator context).findings) :
    f.ruleId = (descriptor origin).ruleId := by
  rw [analyze_eq] at hf
  obtain ⟨c, hc, hf⟩ := Analysis.exists_of_mem_ofChecks hf
  obtain ⟨site, -, rfl⟩ := List.mem_map.1 hc
  rw [(checkSite_outcome ..).1] at hf
  obtain ⟨text, htext, hf⟩ := Option.bind_eq_some_iff.1 hf
  obtain ⟨errors, rfl⟩ := exists_of_findingOf? hf
  unfold sightedTextAt? at htext
  split at htext
  · cases htext
  · -- a rule looks only into texts of its own origin
    have horigin := (Option.filter_eq_some_iff.1 htext).2
    rw [← of_decide_eq_true horigin]
    rfl

/-- Without some of its rules an engine finds the same less what these rules would find. -/
theorem runRules_selecting (hmade : ofSettings (SqlRules.registry judge) settings limits = .ok e)
    (hanswers : judge.Answers) (threshold : Severity) (p : String → Bool) {context : Context}
    {d : Document} (hd : context.document = some d) :
    let all := runRules threshold e.rules context
    let part := runRules threshold (e.rules.filter fun r => p r.descriptor.ruleId) context
    part.findings = all.findings.filter (fun f => p f.ruleId) ∧ part.errors = all.errors ∧
      part.stopped = all.stopped := by
  have hsql := rules_ofSettings hmade
  have hends : ∀ r ∈ e.rules, (r.analyze context).ending ≠ .interrupted := fun r hr =>
    ending_of_mem_rules hmade hanswers hr hd
  have hown : ∀ r ∈ e.rules.filter (·.descriptor.supports context.language),
      ∀ f ∈ reported threshold context r, f.ruleId = r.descriptor.ruleId := by
    intro r hr f hf
    obtain ⟨origin, markers, validator, rfl⟩ := hsql r (List.mem_filter.1 hr).1
    exact ruleId_of_mem_reported (fun g hg => ruleId_of_mem_analyze hg) hf
  obtain ⟨hall, -, hstopped⟩ := collect_eq threshold context e.rules hends
  obtain ⟨hpart, -, hstopped'⟩ := collect_eq threshold context
    (e.rules.filter fun r => p r.descriptor.ruleId) fun r hr => hends r (List.mem_filter.1 hr).1
  simp only [runRules]
  refine ⟨?_, ?_, hstopped'.trans hstopped.symm⟩
  · rw [hall, hpart, Finding.filter_sort, Finding.filter_flatMap_by_label hown p, List.filter_comm]
  · rw [errors_collect hsql, errors_collect fun r hr => hsql r (List.mem_filter.1 hr).1]

theorem scanContent_selecting (hmade : ofSettings (SqlRules.registry judge) settings limits = .ok e)
    (hanswers : judge.Answers) (threshold : Severity) (p : String → Bool)
    (language path source : String) :
    let all := { e with threshold }.scanContent language path source
    let chosen := e.rules.filter fun r => p r.descriptor.ruleId
    let part := { e with threshold, rules := chosen }.scanContent language path source
    part.findings = all.findings.filter (fun f => p f.ruleId) ∧ part.errors = all.errors ∧
      part.stopped = all.stopped := by
  intro all chosen part
  refine scanContent_related (P := fun part all => part.findings =
      all.findings.filter (fun f => p f.ruleId) ∧ part.errors = all.errors ∧
        part.stopped = all.stopped) { e with threshold, rules := chosen } { e with threshold } rfl
    (fun o ho => ?_) fun d => ?_
  · rw [ho]
    exact ⟨rfl, rfl, rfl⟩
  · exact runRules_selecting hmade hanswers threshold p rfl

/-- Threshold and choice of rules only take findings away. Whatever settings an engine can be made
from, it can be made with any threshold and with any further rules disabled. It then finds what the
engine that reports everything and disables none of these rules finds, in the same order, less what
is below the threshold or was found by one of these rules; the errors are the same. -/
theorem scanContent_of_narrowed
    (hmade : ofSettings (SqlRules.registry judge) settings limits = .ok e)
    (hanswers : judge.Answers) (threshold : Severity) (ids : List String) :
    narrowed .info [] settings >>= (ofSettings (SqlRules.registry judge) · limits) =
        .ok e.lenient ∧
      ∃ e', narrowed threshold ids settings >>= (ofSettings (SqlRules.registry judge) · limits) =
          .ok e' ∧
        ∀ language path source : String,
          let all := e.lenient.scanContent language path source
          let outcome := e'.scanContent language path source
          outcome.findings =
              all.findings.filter (fun f => threshold ≤ f.severity ∧ f.ruleId ∉ ids) ∧
            outcome.errors = all.errors ∧ outcome.stopped = all.stopped := by
  refine ⟨?_, _, ofSettings_narrowed hmade threshold ids, fun language path source => ?_⟩
  · rw [ofSettings_narrowed hmade]
    simp [lenient]
  · obtain ⟨hfindings, herrors, hstopped⟩ := scanContent_selecting hmade hanswers threshold
      (fun id => id ∉ ids) language path source
    have habove := scanContent_eq_above { e with threshold } language path source
    refine ⟨?_, ?_, ?_⟩
    · rw [hfindings, habove, Outcome.above, List.filter_filter]
      simp [lenient, Bool.and_comm]
    · rw [herrors, habove]
      rfl
    · rw [hstopped, habove]
      rfl

/-- Of two findings in a file, the one with a traced text is left out. -/
theorem scanContent_of_narrowed_to_literals :
    let objecting : Validator := ⟨fun _ => .messages ["no such statement"], fun _ => []⟩
    let source := "q = \"SELEKT 1\"\nSqlCommand(q)\nSqlCommand(\"SELEKT 2\")\n"
    ∃ e e', ofSettings (SqlRules.registry (.given objecting)) .null = .ok e ∧
      (Judge.given objecting).Answers ∧
      narrowed .info [] .null >>= ofSettings (SqlRules.registry (.given objecting)) =
        .ok e.lenient ∧
      narrowed .warning ["SQL-SYNTAX-002"] .null >>=
        ofSettings (SqlRules.registry (.given objecting)) = .ok e' ∧
      (e.lenient.scanContent "python" "a.py" source).findings.length = 2 ∧
      (e'.scanContent "python" "a.py" source).findings.map (·.ruleId) = ["SQL-SYNTAX-001"] := by
  intro objecting source
  have hmade := ofSettings_null objecting
  have hanswers : (Judge.given objecting).Answers := Judge.answers_given (by simp [objecting])
  obtain ⟨hlenient, e', hmade', hscan⟩ :=
    scanContent_of_narrowed hmade hanswers .warning ["SQL-SYNTAX-002"]
  generalize he : Engine.mk _ _ _ _ _ _ _ = e at hmade hlenient hscan
  refine ⟨e, e', hmade, hanswers, hlenient, hmade', length_findings ?_, ?_⟩
  · subst he
    decide +kernel
  · have hread : (read "python" "a.py" source).toOption.join.map (fun d =>
        ((collect .info (contextOf "python" "a.py" d) e.lenient.rules).findings.filter
          fun f => .warning ≤ f.severity ∧ f.ruleId ∉ ["SQL-SYNTAX-002"]).map (·.ruleId)) =
        some ["SQL-SYNTAX-001"] := by
      subst he
      decide +kernel
    obtain ⟨d, hd, hids⟩ := read_eq_of_map hread
    rw [(hscan "python" "a.py" source).1]
    have hlimits : e.lenient.limits = .usual := he ▸ rfl
    have hperm := findings_perm_collect (e := e.lenient) (hlimits.symm ▸ hd)
    exact List.perm_singleton.1 (hids ▸ (hperm.filter _).map (·.ruleId))

end Engine

end QueryLint
