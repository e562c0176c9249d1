import Mathlib.Data.List.Basic
import QueryLint.Engine.Basic
import QueryLint.Proofs.Document
import QueryLint.Proofs.Finding.Order
import QueryLint.Proofs.Resolution
import QueryLint.Proofs.SqlRules.Analysis

/-!
# The findings of a scan

A scan with both rules about SQL goes over the tree twice, once for each origin of a
text, and sorts what it has found. The result is what one walk over the tree would find:
one finding for each place whose text the validator objects to, in the order of findings,
and in the order of the walk where that order does not decide.
-/

namespace QueryLint

namespace SqlRules

/-- The finding about a text with the given messages, as a scan hands it out. -/
def reportOf (context : Context) (text : ResolvedText) (messages : List String) : Finding where
  ruleId := match text.origin with
    | .literal => "SQL-SYNTAX-001"
    | .traced => "SQL-SYNTAX-002"
  title := match text.origin with
    | .literal => "Illegal SQL"
    | .traced => "Illegal SQL (traced)"
  description := Text.joinWith "\n" messages
  severity := .error
  confidence := match text.origin with
    | .literal => .high
    | .traced => .medium
  category := .sqlSyntax
  location := ⟨context.path, text.anchor⟩
  snippet := some (context.snippet text.anchor.startLine Context.snippetSize)
  language := context.language
  tags := match text.origin with
    | .literal => ["sql", "syntax"]
    | .traced => ["sql", "syntax", "traced"]
  metadata := [("sql", .string text.sql), ("origin", .string text.origin.label),
    ("errors", .strings messages)] ++
    match text.origin with
    | .literal => []
    | .traced => [("identifier", .string (text.identifier.getD ""))]
  suppressed := context.isSuppressed text.anchor.startLine
  suppressionReason :=
    if context.isSuppressed text.anchor.startLine then some "Inline suppression comment" else none

/-- What is found at a place: a report about the text behind the candidate there, if the
validator has messages about the text. -/
def findingAt? (validate : String → List String) (markers : Markers) (context : Context)
    (lines : List (List Char)) (site : Visit) : Option Finding := do
  let text ← textAt? markers context lines site
  let messages := validate text.sql
  if messages.isEmpty then none else some (reportOf context text messages)

/-- Settings that list the given marks and nothing else. -/
def settingsOf (markers : Markers) : MarkerSettings :=
  ⟨⟨markers.constructors, []⟩, ⟨markers.properties, []⟩⟩

/-- A validator that has an answer to every text. -/
def answering (validate : String → List String) (log : String → List LogEntry) : Validator :=
  ⟨fun sql => .messages (validate sql), log⟩

theorem info_le (s : Severity) : Severity.info ≤ s := Nat.zero_le s.rank

theorem ruleId_injective {o p : Origin} (h : (descriptor o).ruleId = (descriptor p).ruleId) :
    o = p := by
  cases o <;> cases p <;> first | rfl | exact absurd h (by decide)

theorem isUndecided_settingsOf (lines : List (List Char)) (markers : Markers) (site : Visit) :
    Candidate.isUndecided lines (settingsOf markers) site = false := by
  unfold Candidate.isUndecided MarkList.fails settingsOf
  split <;> simp

theorem settle_draftOf (context : Context) (text : ResolvedText) (messages : List String)
    (h : text.origin = .literal ∧ text.identifier = none ∨
      text.origin = .traced ∧ ∃ name, text.identifier = some name ∧ name ≠ "") :
    Engine.settle context (draftOf context text messages) = reportOf context text messages := by
  have hmetadata : metadata text messages = (reportOf context text messages).metadata := by
    obtain ⟨ho, hi⟩ | ⟨ho, name, hi, hname⟩ := h
    · simp [metadata, reportOf, ho, hi]
    · simp [metadata, reportOf, ho, hi, hname]
  cases hs : context.isSuppressed text.anchor.startLine <;> cases ho : text.origin <;>
    simp [Engine.settle, draftOf, hmetadata, hs, ho, reportOf, descriptor, literalDescriptor,
      tracedDescriptor, Context.locate, Engine.suppressionReason]

theorem textAt?_identifier {markers : Markers} {context : Context} {lines : List (List Char)}
    {site : Visit} {text : ResolvedText} (h : textAt? markers context lines site = some text) :
    text.origin = .literal ∧ text.identifier = none ∨
      text.origin = .traced ∧ ∃ name, text.identifier = some name ∧ name ≠ "" := by
  obtain ⟨candidate, -, hresolved⟩ := exists_of_textAt? h
  exact Resolution.resolve_found_identifier hresolved

/-- A rule reports, of all that one walk finds, the findings that bear its name. -/
theorem keep_analyze (origin : Origin) (markers : Markers) (validate : String → List String)
    (log : String → List LogEntry) (context : Context) (d : Document)
    (hd : context.document = some d) :
    Engine.keep .info context (analyze origin
        (settingsOf markers) (answering validate log) context).findings =
      (d.root.visits.filterMap (findingAt? validate markers context d.lines)).filter
        (·.ruleId = (descriptor origin).ruleId) := by
  have hmarkers : (settingsOf markers).markers = markers := rfl
  have htotal := analyze_of_total origin (settingsOf markers) (answering validate log) context d hd
    (by simp [answering])
  rw [htotal.1, Engine.keep, List.filter_eq_self.2 fun f _ => by simp [info_le],
    List.map_filterMap, List.filter_filterMap]
  congr 1
  funext site
  rw [sightedTextAt?, isUndecided_settingsOf, ownTextAt?, hmarkers, findingAt?]
  cases ht : textAt? markers context d.lines site with
  | none => simp
  | some text =>
    have hid : (reportOf context text (validate text.sql)).ruleId =
        (descriptor text.origin).ruleId := by
      cases ho : text.origin <;>
        simp [reportOf, ho, descriptor, literalDescriptor, tracedDescriptor]
    have hsettled := settle_draftOf context text (validate text.sql) (textAt?_identifier ht)
    by_cases hempty : validate text.sql = []
    · by_cases ho : text.origin = origin <;>
        simp [answering, Option.filter, findingOf?, hempty, ho]
    · by_cases ho : text.origin = origin
      · simp [answering, Option.filter, findingOf?, hempty, ho, hsettled, hid]
      · have hne := mt ruleId_injective ho
        simp [answering, Option.filter, hempty, ho, hid, hne]

theorem supports_python (origin : Origin) : (descriptor origin).supports "python" = true := by
  cases origin <;> rfl

end SqlRules

namespace Engine

open SqlRules

/-- A rule whose analysis is done adds its findings and nothing else. -/
theorem collect_cons_of_done (threshold : Severity) (context : Context) (r : Rule)
    (rest : List Rule) (hs : r.descriptor.supports context.language = true)
    (hdone : (r.analyze context).ending = .done) :
    (collect threshold context (r :: rest)).findings =
        keep threshold context (r.analyze context).findings ++
          (collect threshold context rest).findings ∧
      (collect threshold context (r :: rest)).errors = (collect threshold context rest).errors ∧
      (collect threshold context (r :: rest)).stopped =
        (collect threshold context rest).stopped := by
  simp [collect, hs, hdone]

/-- The rules of some origins report, origin by origin, what one walk finds for it. -/
theorem collect_rules (markers : Markers) (validate : String → List String)
    (log : String → List LogEntry) (context : Context) (d : Document)
    (hd : context.document = some d) (hl : context.language = "python") (origins : List Origin) :
    let found := d.root.visits.filterMap (findingAt? validate markers context d.lines)
    let all := collect .info context
      (origins.map fun o => rule o (settingsOf markers) (answering validate log))
    all.findings = origins.flatMap (fun o => found.filter (·.ruleId = (descriptor o).ruleId)) ∧
      all.errors = [] ∧ all.stopped = none := by
  intro found
  induction origins with
  | nil => exact ⟨rfl, rfl, rfl⟩
  | cons o origins ih =>
    obtain ⟨hfindings, herrors, hstopped⟩ := ih
    have hsupports : (descriptor o).supports context.language = true := hl ▸ supports_python o
    have hdone := (analyze_of_total o (settingsOf markers) (answering validate log) context d hd
      (by simp [answering])).2
    obtain ⟨hf, he, hs⟩ := collect_cons_of_done .info context
      (rule o (settingsOf markers) (answering validate log))
      (origins.map fun o => rule o (settingsOf markers) (answering validate log)) hsupports hdone
    refine ⟨?_, he.trans herrors, hs.trans hstopped⟩
    rw [List.map_cons, hf, hfindings, List.flatMap_cons]
    congr 1
    exact keep_analyze o markers validate log context d hd

theorem ruleId_of_findingAt? {validate : String → List String} {markers : Markers}
    {context : Context} {lines : List (List Char)} {site : Visit} {f : Finding}
    (h : findingAt? validate markers context lines site = some f) :
    f.ruleId = "SQL-SYNTAX-001" ∨ f.ruleId = "SQL-SYNTAX-002" := by
  unfold findingAt? at h
  obtain ⟨text, -, hreport⟩ := Option.bind_eq_some_iff.1 h
  dsimp only at hreport
  split at hreport
  · cases hreport
  · cases hreport
    cases ho : text.origin <;> simp [reportOf, ho]

/-- Findings sorted out by their two rules are still all there, and those with one key
still stand together in their order. -/
theorem split_by_rule (found : List Finding)
    (h : ∀ f ∈ found, f.ruleId = "SQL-SYNTAX-001" ∨ f.ruleId = "SQL-SYNTAX-002") :
    (found.filter (·.ruleId = "SQL-SYNTAX-001") ++
        found.filter (·.ruleId = "SQL-SYNTAX-002")).Perm found ∧
      ∀ k : Finding.Key, (found.filter (·.ruleId = "SQL-SYNTAX-001") ++
        found.filter (·.ruleId = "SQL-SYNTAX-002")).filter (·.key = k) =
          found.filter (·.key = k) := by
  have hsecond : found.filter (·.ruleId = "SQL-SYNTAX-002") =
      found.filter (fun f => !decide (f.ruleId = "SQL-SYNTAX-001")) := by
    apply List.filter_congr
    intro f hf
    obtain hid | hid := h f hf <;> simp [hid]
  rw [hsecond]
  refine ⟨List.filter_append_perm _ found, ?_⟩
  intro k
  -- the rule is part of the key, so one of the two parts has nothing under this key
  have hrule : ∀ f : Finding, f.key = k → f.ruleId = k.ruleId := by
    rintro f rfl
    rfl
  rw [List.filter_append, List.filter_filter, List.filter_filter]
  by_cases hk : k.ruleId = "SQL-SYNTAX-001"
  · have hall : ∀ f : Finding, f.key = k → f.ruleId = "SQL-SYNTAX-001" := fun f hf =>
      (hrule f hf).trans hk
    have hempty : found.filter (fun f => decide (f.key = k) &&
        !decide (f.ruleId = "SQL-SYNTAX-001")) = [] := by
      rw [List.filter_eq_nil_iff]
      intro f _
      simpa using hall f
    rw [hempty, List.append_nil]
    apply List.filter_congr
    intro f _
    simpa using hall f
  · have hnone : ∀ f : Finding, f.key = k → f.ruleId ≠ "SQL-SYNTAX-001" := fun f hf hid =>
      hk ((hrule f hf).symm.trans hid)
    have hempty : found.filter (fun f => decide (f.key = k) &&
        decide (f.ruleId = "SQL-SYNTAX-001")) = [] := by
      rw [List.filter_eq_nil_iff]
      intro f _
      simpa using hnone f
    rw [hempty, List.nil_append]
    apply List.filter_congr
    intro f _
    simpa using hnone f

/-- A scan with both rules finds exactly what one walk over the tree finds: for each place
whose candidate has a text that the validator objects to there is one finding, and for no
other place. Findings are in the order of path, line, column and rule, and in the order of
the walk where these agree. Nothing is reported as an error. -/
theorem scanContent_finds_each_site (e : Engine) (markers : Markers)
    (validate : String → List String) (log : String → List LogEntry) (path source : String)
    (d : Document)
    (hrules : e.rules = [rule .literal (settingsOf markers) (answering validate log),
      rule .traced (settingsOf markers) (answering validate log)])
    (hthreshold : e.threshold = .info)
    (hread : read "python" path source e.limits = .ok (some d)) :
    let outcome := e.scanContent "python" path source
    let found := d.root.visits.filterMap
      (findingAt? validate markers (contextOf "python" path d) d.lines)
    outcome.findings.Perm found ∧
      outcome.findings.Pairwise (fun f g => f.key ≤ g.key) ∧
      (∀ k, outcome.findings.filter (·.key = k) = found.filter (·.key = k)) ∧
      outcome.errors = [] ∧ outcome.stopped = none := by
  intro outcome found
  have hscan : outcome = runRules .info e.rules (contextOf "python" path d) := by
    simp only [outcome, scanContent, scanText, hread, hthreshold, scanParsed]
  obtain ⟨hfindings, herrors, hstopped⟩ := collect_rules markers validate log
    (contextOf "python" path d) d rfl rfl [.literal, .traced]
  have hboth : outcome.findings = Finding.sort (found.filter (·.ruleId = "SQL-SYNTAX-001") ++
      found.filter (·.ruleId = "SQL-SYNTAX-002")) := by
    rw [hscan, runRules, hrules]
    simp only [List.map_cons, List.map_nil] at hfindings
    rw [hfindings]
    simp only [List.flatMap_cons, List.flatMap_nil, List.append_nil]
    rfl
  have hids : ∀ f ∈ found, f.ruleId = "SQL-SYNTAX-001" ∨ f.ruleId = "SQL-SYNTAX-002" := by
    intro f hf
    obtain ⟨site, -, hsite⟩ := List.mem_filterMap.1 hf
    exact ruleId_of_findingAt? hsite
  obtain ⟨hperm, hkeys⟩ := split_by_rule found hids
  rw [hboth]
  refine ⟨(Finding.sort_perm _).trans hperm, Finding.pairwise_sort _, ?_, ?_, ?_⟩
  · intro k
    rw [Finding.filter_key_sort, hkeys]
  · rw [hscan, runRules, hrules]
    exact herrors
  · rw [hscan, runRules, hrules]
    exact hstopped

theorem scanContent_finds_two_sites :
    let source := "q = \"SELEKT 2\"\nSqlCommand(\"SELEKT 1\")\nSqlCommand(q)\n"
    let markers : Markers := ⟨["SqlCommand"], []⟩
    let validate := fun sql : String => ["no such statement: " ++ sql]
    let rules := [Origin.literal, .traced].map fun o =>
      rule o (settingsOf markers) (answering validate fun _ => [])
    let outcome :=
      (Engine.mk .null .null .null .null .info rules .usual).scanContent "python" "a.py" source
    ∃ d, read "python" "a.py" source = .ok (some d) ∧
      let found := d.root.visits.filterMap
        (findingAt? validate markers (contextOf "python" "a.py" d) d.lines)
      found.map (fun f => (f.ruleId, f.location.span.startLine)) =
          [("SQL-SYNTAX-001", 2), ("SQL-SYNTAX-002", 1)] ∧
        outcome.findings.Perm found ∧
        outcome.findings.Pairwise (fun f g => f.key ≤ g.key) ∧
        (∀ k, outcome.findings.filter (·.key = k) = found.filter (·.key = k)) ∧
        outcome.errors = [] ∧ outcome.stopped = none := by
  intro source markers validate rules outcome
  have hread : (read "python" "a.py" source).toOption.join.map (fun d =>
      (d.root.visits.filterMap (findingAt? validate markers (contextOf "python" "a.py" d)
        d.lines)).map fun f => (f.ruleId, f.location.span.startLine)) =
      some [("SQL-SYNTAX-001", 2), ("SQL-SYNTAX-002", 1)] := by decide +kernel
  obtain ⟨d, hd, hfound⟩ := read_eq_of_map hread
  exact ⟨d, hd, hfound, scanContent_finds_each_site _ markers validate (fun _ => []) "a.py"
    source d rfl rfl hd⟩

end Engine

end QueryLint
