import QueryLint.Proofs.Engine.RuleSelection
import QueryLint.Proofs.Tree.SiteExpressions

/-!
# No literal is validated twice

A scan runs rules with different names, each over the places of the tree in order. What a rule puts
to the validator comes from its checks, at most one text from each place. The rule about literals
takes the text of a candidate's own expression, and since no expression has two sites, each text
belongs to a literal of its own.
-/

namespace QueryLint

open Source

/-- The texts that an analysis asks about are those of the first checks, up to an interruption. -/
theorem Analysis.exists_asked_ofChecks {α : Type} (check : α → Check) (as : List α) :
    ∃ made, made <+: as ∧
      (ofChecks (as.map check)).asked = made.flatMap fun a => (check a).asked := by
  induction as with
  | nil => exact ⟨[], List.prefix_rfl, rfl⟩
  | cons a as ih =>
    obtain ⟨made, hmade, hasked⟩ := ih
    rw [List.map_cons, ofChecks]
    split
    · exact ⟨[a], List.cons_prefix_cons.2 ⟨rfl, List.nil_prefix⟩, by simp⟩
    · exact ⟨a :: made, List.cons_prefix_cons.2 ⟨rfl, hmade⟩, by simp [hasked]⟩

namespace SqlRules

section

variable (origin : Origin) (validator : Validator) (context : Context) (site : Visit)

theorem checkText_asked (text : ResolvedText) :
    (checkText origin validator context site text).asked = [text.sql] := by
  unfold checkText
  cases validator.validate text.sql with
  | messages errors => simp only [report_eq]
  | crashed message => rfl
  | interrupted => rfl

/-- A check asks about the text that it looks into, and about nothing else. -/
theorem checkSite_asked (settings : MarkerSettings) (lines : List (List Char)) :
    (checkSite origin settings validator context lines site).asked =
      (sightedTextAt? origin settings context lines site).toList.map (·.sql) := by
  unfold checkSite sightedTextAt?
  split
  · rfl
  · unfold checkNode ownTextAt? textAt?
    cases Candidate.detect? lines settings.markers site with
    | none => rfl
    | some candidate =>
      simp only [Option.bind_eq_bind, Option.bind_some]
      cases Resolution.resolve lines candidate.expression.node
          (context.tokensIn candidate.block) with
      | declined why => rfl
      | failed why => rfl
      | found text =>
        by_cases ho : text.origin = origin
        · simp [textOf?, ho, Option.filter, checkText_asked]
        · simp [textOf?, ho, Option.filter]

end

/-- The rule about literals looks into the text of a literal that is a candidate's expression. -/
theorem exists_literal_of_sightedTextAt? {settings : MarkerSettings} {context : Context}
    {lines : List (List Char)} {site : Visit} {text : ResolvedText}
    (h : sightedTextAt? .literal settings context lines site = some text) :
    ∃ candidate, Candidate.detect? lines settings.markers site = some candidate ∧
      candidate.expression.node.kind = .stringLiteral ∧
      candidate.expression.node.value = .text text.sql := by
  unfold sightedTextAt? at h
  split at h
  · cases h
  · obtain ⟨htext, horigin⟩ := Option.filter_eq_some_iff.1 h
    obtain ⟨candidate, hcandidate, hfound⟩ := exists_of_textAt? htext
    refine ⟨candidate, hcandidate, ?_⟩
    obtain ⟨sql, hkind, hvalue, -, rfl⟩ | ⟨-, -, -, stream, -, htrace⟩ :=
      Resolution.resolve_eq_found_iff.1 hfound
    · exact ⟨hkind, hvalue⟩
    · obtain ⟨i, value, sql, -, -, -, -, -, rfl⟩ := Resolution.trace_eq_found_iff.1 htrace
      cases of_decide_eq_true horigin

/-- A check of the rule about literals asks nothing, or it asks about the text of the literal that
is the expression of its candidate. -/
theorem checkSite_literal_asked (settings : MarkerSettings) (validator : Validator)
    (context : Context) (lines : List (List Char)) (site : Visit) :
    (checkSite .literal settings validator context lines site).asked = [] ∨
      ∃ candidate sql, Candidate.detect? lines settings.markers site = some candidate ∧
        candidate.expression.node.kind = .stringLiteral ∧
        candidate.expression.node.value = .text sql ∧
        (checkSite .literal settings validator context lines site).asked = [sql] := by
  rw [checkSite_asked]
  cases htext : sightedTextAt? .literal settings context lines site with
  | none => exact .inl rfl
  | some text =>
    obtain ⟨candidate, hcandidate, hkind, hvalue⟩ := exists_literal_of_sightedTextAt? htext
    exact .inr ⟨candidate, text.sql, hcandidate, hkind, hvalue, rfl⟩

/-- The candidates at those of the places where the rule about literals asks. -/
def validatedAmong (settings : MarkerSettings) (validator : Validator) (context : Context)
    (lines : List (List Char)) (places : List Visit) : List Candidate :=
  (places.filter fun site =>
    !(checkSite .literal settings validator context lines site).asked.isEmpty).filterMap
      (Candidate.detect? lines settings.markers)

/-- Texts are asked about literal by literal: they are, in order, those of the literals that are
the expressions of some candidates, and no two of these literals are the same. -/
structure LiteralByLiteral (asked : List String) (validated : List Candidate) : Prop where
  literal : ∀ c ∈ validated, c.expression.node.kind = .stringLiteral
  once : (validated.map (·.expression.path)).Nodup
  texts : validated.map (·.expression.node.value) = asked.map .text

section

variable (settings : MarkerSettings) (validator : Validator) (context : Context)

theorem validatedAmong_texts (lines : List (List Char)) (places : List Visit) :
    let validated := validatedAmong settings validator context lines places
    (∀ c ∈ validated, Candidate.detect? lines settings.markers c.site = some c ∧
        c.expression.node.kind = .stringLiteral) ∧
      (validated.map (·.site)).Sublist places ∧
      validated.map (·.expression.node.value) = (places.flatMap fun site =>
        (checkSite .literal settings validator context lines site).asked).map .text := by
  induction places with
  | nil => exact ⟨by simp [validatedAmong], List.Sublist.slnil, rfl⟩
  | cons site places ih =>
    obtain ⟨hdetected, hsites, hvalues⟩ := ih
    obtain hnone | ⟨candidate, sql, hcandidate, hkind, hvalue, hasked⟩ :=
      checkSite_literal_asked settings validator context lines site
    · have hrest : validatedAmong settings validator context lines (site :: places) =
          validatedAmong settings validator context lines places := by
        simp [validatedAmong, hnone]
      rw [hrest, List.flatMap_cons, hnone]
      exact ⟨hdetected, hsites.cons site, hvalues⟩
    · have hfirst : validatedAmong settings validator context lines (site :: places) =
          candidate :: validatedAmong settings validator context lines places := by
        simp [validatedAmong, hasked, hcandidate]
      obtain ⟨-, hsite, -⟩ := Candidate.exists_of_detect? hcandidate
      rw [hfirst, List.flatMap_cons, hasked]
      refine ⟨List.forall_mem_cons.2 ⟨⟨hsite ▸ hcandidate, hkind⟩, hdetected⟩, ?_, ?_⟩
      · rw [List.map_cons, hsite]
        exact hsites.cons_cons site
      · rw [List.map_cons, hvalue, hvalues]
        rfl

variable {d : Document} {a : Ast}

/-- At different places of a tree there are different expressions. -/
theorem literalByLiteral_validatedAmong (hroot : d.root = Node.ofAst d.lines a)
    {places : List Visit} (hplaces : places.Sublist d.root.visits) :
    LiteralByLiteral
      (places.flatMap fun site =>
        (checkSite .literal settings validator context d.lines site).asked)
      (validatedAmong settings validator context d.lines places) := by
  obtain ⟨hdetected, hsites, hvalues⟩ :=
    validatedAmong_texts settings validator context d.lines places
  refine ⟨fun c hc => (hdetected c hc).2, ?_, hvalues⟩
  have hvisits : d.root.visits.Nodup := List.Nodup.of_map _ (Visit.nodup_path_visits d.root)
  have hnodup := List.Nodup.of_map _ (hvisits.sublist (hsites.trans hplaces))
  refine hnodup.map_on fun c hc c' hc' hpath => ?_
  have hsite := hplaces.mem (hsites.mem (List.mem_map_of_mem hc))
  have hsite' := hplaces.mem (hsites.mem (List.mem_map_of_mem hc'))
  have hexpression := Visit.eq_of_path_eq
    (Candidate.expression_mem_visits hsite (hdetected c hc).1)
    (Candidate.expression_mem_visits hsite' (hdetected c' hc').1) hpath
  have heq := Candidate.site_eq_of_expression_eq (hroot ▸ hsite) (hroot ▸ hsite')
    (hdetected c hc).1 (hdetected c' hc').1 hexpression
  have hsame := (hdetected c hc).1
  rw [heq, (hdetected c' hc').1] at hsame
  exact (Option.some.inj hsame).symm

/-- What the rule about literals puts to the validator, it takes from the tree literal by
literal, at the first of the places that it goes through. -/
theorem analyze_literalByLiteral (hd : context.document = some d)
    (hroot : d.root = Node.ofAst d.lines a) :
    let asked := (analyze .literal settings validator context).asked
    ∃ made, made <+: context.traverse (some Candidate.siteKinds) ∧
      asked = (made.flatMap fun site =>
        (checkSite .literal settings validator context d.lines site).asked) ∧
      LiteralByLiteral asked (validatedAmong settings validator context d.lines made) := by
  have hlines : linesOf context = d.lines := by simp only [linesOf, hd]
  have hplaces : (context.traverse (some Candidate.siteKinds)).Sublist d.root.visits := by
    simp only [Context.traverse, hd]
    exact List.filter_sublist
  obtain ⟨made, hmade, hasked⟩ := Analysis.exists_asked_ofChecks
    (checkSite .literal settings validator context d.lines)
    (context.traverse (some Candidate.siteKinds))
  rw [analyze_eq, hlines, hasked]
  exact ⟨made, hmade, rfl, literalByLiteral_validatedAmong settings validator context hroot
    (hmade.sublist.trans hplaces)⟩

end

end SqlRules

namespace Registry

theorem mem_distinct_iff {id : String} (ids : List String) : id ∈ distinct ids ↔ id ∈ ids := by
  induction ids with
  | nil => rfl
  | cons i ids ih =>
    rw [distinct]
    split
    next hmem =>
      rw [ih, List.mem_cons]
      exact ⟨.inr, fun h => h.elim (fun heq => heq ▸ by simpa using hmem) fun h => h⟩
    next => rw [List.mem_cons, List.mem_cons, ih]

theorem nodup_distinct (ids : List String) : (distinct ids).Nodup := by
  induction ids with
  | nil => exact List.nodup_nil
  | cons id ids ih =>
    rw [distinct]
    split
    · exact ih
    next hmem => exact List.nodup_cons.2 ⟨by simpa [mem_distinct_iff] using hmem, ih⟩

end Registry

theorem map_of_mapM_ok {α β γ : Type} {make : α → Except Failure β} {f : α → γ} {g : β → γ}
    (h : ∀ a b, make a = .ok b → g b = f a) {as : List α} {bs : List β}
    (hmade : as.mapM make = .ok bs) : bs.map g = as.map f := by
  induction as generalizing bs with
  | nil =>
    cases hmade
    rfl
  | cons a as ih =>
    rw [List.mapM_cons, Engine.bind_eq_ok_iff] at hmade
    obtain ⟨b, hb, hmade⟩ := hmade
    obtain ⟨rest, hrest, hmade⟩ := Engine.bind_eq_ok_iff.1 hmade
    cases hmade
    rw [List.map_cons, List.map_cons, h a b hb, ih hrest]

theorem SqlRules.nodup_activeOrigins (enabled disabled : List String) :
    (activeOrigins enabled disabled).Nodup := by
  have hnames : (activeNames enabled disabled).Nodup :=
    (Registry.sortIds_perm _).nodup_iff.2 (Registry.nodup_distinct _)
  refine hnames.filterMap fun id id' origin h h' => ?_
  rw [← ruleId_of_originOf? h, ← ruleId_of_originOf? h']

namespace Engine

open SqlRules

/-- The rules of an engine have different names. -/
theorem nodup_ruleId_of_ofSettings {judge : Judge} {settings : Datum} {limits : Document.Limits}
    {e : Engine} (h : ofSettings (SqlRules.registry judge) settings limits = .ok e) :
    (e.rules.map (·.descriptor.ruleId)).Nodup := by
  obtain ⟨entries, threshold, enabled, disabled, rules, -, -, -, -, hrules, rfl⟩ :=
    ofSettings_eq_ok_iff.1 h
  rw [create_registry] at hrules
  obtain ⟨-, -, hmade⟩ := bind_eq_ok_iff.1 hrules
  rw [List.mapM_map] at hmade
  have hnames : rules.map (·.descriptor.ruleId) =
      (activeOrigins enabled.ids disabled.ids).map fun o => (descriptor o).ruleId :=
    map_of_mapM_ok (fun origin r hr => congrArg (·.ruleId) (descriptor_of_make hr)) hmade
  rw [hnames]
  exact (nodup_activeOrigins _ _).map fun _ _ => ruleId_injective

/-- A run asks what the rules ask that are run, one after another. -/
theorem exists_asked_collect (threshold : Severity) (context : Context) (rules : List Rule) :
    ∃ ran : List Rule, ran.Sublist rules ∧
      (collect threshold context rules).asked = ran.flatMap fun r => (r.analyze context).asked := by
  induction rules with
  | nil => exact ⟨[], List.Sublist.slnil, rfl⟩
  | cons r rules ih =>
    obtain ⟨ran, hran, hasked⟩ := ih
    rw [collect]
    split
    · exact ⟨ran, hran.cons r, hasked⟩
    · dsimp only
      split
      · exact ⟨[r], (List.nil_sublist rules).cons_cons r, (List.append_nil _).symm⟩
      · refine ⟨r :: ran, hran.cons_cons r, ?_⟩
        rw [List.flatMap_cons, ← hasked]

theorem asked_scanContent {language path source : String} {d : Document} (e : Engine)
    (h : read language path source e.limits = .ok (some d)) :
    (e.scanContent language path source).asked =
      (collect e.threshold (contextOf language path d) e.rules).asked := by
  rw [scanContent, scanText, h]
  rfl

/-- No expression has two sites. In the tree of any syntax, the expression of a candidate is a
place below its site, and candidates at different sites have expressions at different places. So
no literal is validated twice by the rule about literals. A scan runs rules with different names,
and this one goes through the places once, up to an interruption. It asks only what its checks
ask, and these ask about the texts of literals, each a literal of its own. -/
theorem no_literal_validated_twice :
    (∀ (lines : List (List Char)) (a : Ast) (markers : Markers),
      ∀ site ∈ (Node.ofAst lines a).visits, ∀ c,
        Candidate.detect? lines markers site = some c →
        c.expression ∈ (Node.ofAst lines a).visits ∧ site ∈ c.expression.ancestors ∧
          site ≠ c.expression ∧
          ∀ site' ∈ (Node.ofAst lines a).visits, ∀ c',
            Candidate.detect? lines markers site' = some c' → site ≠ site' →
            c.expression.path ≠ c'.expression.path) ∧
    ∀ (judge : Judge) (settings : Datum) (limits : Document.Limits) (e : Engine),
      ofSettings (SqlRules.registry judge) settings limits = .ok e →
      ∀ (language path source : String) (d : Document),
        read language path source e.limits = .ok (some d) →
        let context := contextOf language path d
        ∃ ran : List Rule, ran.Sublist e.rules ∧ (ran.map (·.descriptor.ruleId)).Nodup ∧
          ((e.scanContent language path source).asked =
            ran.flatMap fun r => (r.analyze context).asked) ∧
          ∀ r ∈ ran, r.descriptor.ruleId = "SQL-SYNTAX-001" → ∃ markers validator,
            r = rule .literal markers validator ∧
            ∃ made, made <+: context.traverse (some Candidate.siteKinds) ∧
              (r.analyze context).asked = (made.flatMap fun site =>
                (checkSite .literal markers validator context d.lines site).asked) ∧
              LiteralByLiteral (r.analyze context).asked
                (validatedAmong markers validator context d.lines made) := by
  refine ⟨fun lines a markers site hsite c hc => ?_, ?_⟩
  · have habove := Candidate.site_mem_ancestors hc
    have hmem := Candidate.expression_mem_visits hsite hc
    refine ⟨hmem, habove, Visit.ne_of_mem_ancestors habove, ?_⟩
    intro site' hsite' c' hc' hne hpath
    have hmem' := Candidate.expression_mem_visits hsite' hc'
    exact hne (Candidate.site_eq_of_expression_eq hsite hsite' hc hc'
      (Visit.eq_of_path_eq hmem hmem' hpath))
  · intro judge settings limits e he language path source d hread context
    obtain ⟨a, hroot, -, -⟩ := exists_tree_of_read hread
    obtain ⟨ran, hran, hasked⟩ := exists_asked_collect e.threshold context e.rules
    refine ⟨ran, hran, (nodup_ruleId_of_ofSettings he).sublist (hran.map _), ?_, ?_⟩
    · rw [asked_scanContent e hread, hasked]
    · intro r hr hid
      obtain ⟨origin, markers, validator, rfl⟩ := rules_ofSettings he r (hran.mem hr)
      cases origin with
      | literal =>
        exact ⟨markers, validator, rfl,
          analyze_literalByLiteral markers validator context rfl hroot⟩
      | traced => exact absurd hid (by decide : tracedDescriptor.ruleId ≠ "SQL-SYNTAX-001")

/-- Three sites are nested in the first line. The expression of one is the next, and the literal
belongs to the innermost of them only. The literal of the second line has the same text, so that
this text is asked about once for each of the two. -/
theorem no_literal_validated_twice_in_nested_sites :
    let source :=
      "cmd.CommandText = SqlCommand(SqlCommand(text=\"SELEKT 1\"))\nSqlCommand(\"SELEKT 1\")\n"
    let accepting : Validator := ⟨fun _ => .messages [], fun _ => []⟩
    ∃ e d, ofSettings (SqlRules.registry (.given accepting)) .null = .ok e ∧
      read "python" "a.py" source = .ok (some d) ∧
      (∃ outer ∈ d.root.visits, ∃ inner ∈ d.root.visits, ∃ c c',
        Candidate.detect? d.lines .default outer = some c ∧
        Candidate.detect? d.lines .default inner = some c' ∧
        outer.path = [1, 0] ∧ inner.path = [1, 1, 0] ∧
        c.expression.path ≠ c'.expression.path) ∧
      (e.scanContent "python" "a.py" source).asked = ["SELEKT 1", "SELEKT 1"] ∧
      ∃ validated, LiteralByLiteral ["SELEKT 1", "SELEKT 1"] validated := by
  intro source accepting
  let marks : MarkerSettings := ⟨⟨["SqlCommand"], []⟩, ⟨["CommandText"], []⟩⟩
  obtain ⟨hsites, hscan⟩ := no_literal_validated_twice
  let rules := [rule .literal marks accepting, rule .traced marks accepting]
  obtain ⟨e, hmade, hthreshold, hrules, hlimits⟩ : ∃ e : Engine,
      ofSettings (SqlRules.registry (.given accepting)) .null = .ok e ∧ e.threshold = .info ∧
        e.rules = rules ∧ e.limits = .usual :=
    ⟨_, ofSettings_null accepting, rfl, rfl, rfl⟩
  have hread : (read "python" "a.py" source).toOption.join.map (fun d =>
      (d.root.visits.filterMap fun site =>
          (Candidate.detect? d.lines .default site).map fun _ => site.path,
        (collect .info (contextOf "python" "a.py" d) rules).asked,
        rules.map fun r => (r.analyze (contextOf "python" "a.py" d)).asked)) =
      some ([[0], [1, 0], [1, 1, 0], [0, 1]], ["SELEKT 1", "SELEKT 1"],
        [["SELEKT 1", "SELEKT 1"], []]) := by
    decide +kernel
  obtain ⟨d, hd, hfound⟩ := read_eq_of_map hread
  obtain ⟨hpaths, hfound⟩ := Prod.mk.inj hfound
  obtain ⟨hall, heach⟩ := Prod.mk.inj hfound
  obtain ⟨hliteral, htraced⟩ := List.cons.inj heach
  have hat : ∀ p ∈ [[0], [1, 0], [1, 1, 0], [0, 1]], ∃ site ∈ d.root.visits, ∃ c,
      Candidate.detect? d.lines .default site = some c ∧ site.path = p := by
    intro p hp
    rw [← hpaths] at hp
    obtain ⟨site, hsite, hp⟩ := List.mem_filterMap.1 hp
    obtain ⟨c, hc, hpath⟩ := Option.map_eq_some_iff.1 hp
    exact ⟨site, hsite, c, hc, hpath⟩
  have hasked : (e.scanContent "python" "a.py" source).asked = ["SELEKT 1", "SELEKT 1"] := by
    rw [asked_scanContent e (hlimits.symm ▸ hd), hthreshold, hrules, hall]
  refine ⟨e, d, hmade, hd, ?_, hasked, ?_⟩
  · obtain ⟨outer, houter, c, hc, hpath⟩ := hat [1, 0] (by decide)
    obtain ⟨inner, hinner, c', hc', hpath'⟩ := hat [1, 1, 0] (by decide)
    obtain ⟨a, hroot, -⟩ := exists_tree_of_read hd
    have hne : outer ≠ inner := by
      rintro rfl
      cases hpath.symm.trans hpath'
    obtain ⟨-, -, -, hother⟩ := hsites d.lines a .default outer (hroot ▸ houter) c hc
    exact ⟨outer, houter, inner, hinner, c, c', hc, hc', hpath, hpath',
      hother inner (hroot ▸ hinner) c' hc' hne⟩
  · obtain ⟨ran, hran, -, hflat, hchecked⟩ := hscan _ _ _ e hmade _ _ _ d (hlimits.symm ▸ hd)
    -- the texts come from the first rule, since the second asks nothing
    have hmem : rule .literal marks accepting ∈ ran := by
      by_contra hnot
      have hnone : ∀ r ∈ ran, (r.analyze (contextOf "python" "a.py" d)).asked = [] := by
        intro r hr
        obtain rfl | hr' := List.mem_cons.1 (hrules ▸ hran.mem hr)
        · exact absurd hr hnot
        · obtain rfl := List.mem_singleton.1 hr'
          exact (List.cons.inj htraced).1
      rw [hasked, List.flatMap_eq_nil_iff.2 hnone] at hflat
      cases hflat
    obtain ⟨markers, validator, -, made, -, -, hby⟩ := hchecked _ hmem rfl
    have hfirst : ((rule .literal marks accepting).analyze (contextOf "python" "a.py" d)).asked =
        ["SELEKT 1", "SELEKT 1"] := hliteral
    rw [hfirst] at hby
    exact ⟨_, hby⟩

end Engine

end QueryLint
