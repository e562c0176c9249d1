import QueryLint.Proofs.SqlRules.Check

/-!
# What the analysis of a file comes to

The analysis of a file strings the checks of its nodes together. Its findings and its
ending depend on the checks only through their findings and their interruptions, so two
validators that cannot be told apart by ear lead to the same analysis, and a validator
that always answers leads to one that is done.
-/

namespace QueryLint

namespace Analysis

theorem ofChecks_map_congr {α : Type} (f g : α → Check)
    (hfinding : ∀ a, (f a).finding = (g a).finding)
    (hinterrupted : ∀ a, (f a).interrupted = (g a).interrupted) (as : List α) :
    (ofChecks (as.map f)).findings = (ofChecks (as.map g)).findings ∧
      (ofChecks (as.map f)).ending = (ofChecks (as.map g)).ending := by
  induction as with
  | nil => exact ⟨rfl, rfl⟩
  | cons a as ih =>
    simp only [List.map_cons, ofChecks, hinterrupted a]
    split
    · simp only [hfinding a, and_self]
    · simp only [hfinding a, ih.1, ih.2, and_self]

theorem ofChecks_of_uninterrupted (cs : List Check) (h : ∀ c ∈ cs, c.interrupted = false) :
    (ofChecks cs).findings = cs.filterMap (·.finding) ∧ (ofChecks cs).ending = .done := by
  induction cs with
  | nil => exact ⟨rfl, rfl⟩
  | cons c cs ih =>
    obtain ⟨hfindings, hending⟩ := ih fun c' hc => h c' (List.mem_cons_of_mem c hc)
    have hc := h c List.mem_cons_self
    simp only [ofChecks, hc, Bool.false_eq_true, ↓reduceIte, hfindings, hending, and_true]
    cases hf : c.finding <;> simp [hf]

theorem exists_of_mem_ofChecks {cs : List Check} {f : Finding}
    (h : f ∈ (ofChecks cs).findings) : ∃ c ∈ cs, c.finding = some f := by
  induction cs with
  | nil => cases h
  | cons c cs ih =>
    unfold ofChecks at h
    split at h
    · exact ⟨c, List.mem_cons_self, Option.mem_toList.1 h⟩
    · obtain h | h := List.mem_append.1 h
      · exact ⟨c, List.mem_cons_self, Option.mem_toList.1 h⟩
      · obtain ⟨c', hc', hf⟩ := ih h
        exact ⟨c', List.mem_cons_of_mem c hc', hf⟩

end Analysis

namespace SqlRules

/-- The text that a rule looks into at a place. Where looking for marks fails there is none. -/
def sightedTextAt? (origin : Origin) (settings : MarkerSettings) (context : Context)
    (lines : List (List Char)) (site : Visit) : Option ResolvedText :=
  if Candidate.isUndecided lines settings site then none
  else ownTextAt? origin settings.markers context lines site

theorem checkSite_outcome (origin : Origin) (settings : MarkerSettings) (validator : Validator)
    (context : Context) (lines : List (List Char)) (site : Visit) :
    (checkSite origin settings validator context lines site).finding =
        (sightedTextAt? origin settings context lines site).bind
          (fun text => findingOf? context text (validator.validate text.sql)) ∧
      (checkSite origin settings validator context lines site).interrupted =
        (sightedTextAt? origin settings context lines site).any
          (fun text => validator.validate text.sql = .interrupted) := by
  unfold checkSite sightedTextAt?
  split
  · exact ⟨rfl, rfl⟩
  · exact checkNode_outcome origin settings.markers validator context lines site

/-- The lines that the nodes of a file are read from. -/
def linesOf (context : Context) : List (List Char) :=
  match context.document with
  | some d => d.lines
  | none => []

theorem analyze_eq (origin : Origin) (settings : MarkerSettings) (validator : Validator)
    (context : Context) :
    analyze origin settings validator context =
      .ofChecks ((context.traverse (some Candidate.siteKinds)).map
        (checkSite origin settings validator context (linesOf context))) := rfl

/-- What is found in a file is a draft about the text at a place of the tree. -/
theorem exists_of_mem_analyze {origin : Origin} {settings : MarkerSettings}
    {validator : Validator} {context : Context} {d : Document} {f : Finding}
    (hd : context.document = some d)
    (h : f ∈ (analyze origin settings validator context).findings) :
    ∃ site ∈ d.root.visits, ∃ text errors,
      textAt? settings.markers context d.lines site = some text ∧
        f = draftOf context text errors := by
  rw [analyze_eq] at h
  obtain ⟨c, hc, hf⟩ := Analysis.exists_of_mem_ofChecks h
  obtain ⟨site, hsite, rfl⟩ := List.mem_map.1 hc
  simp only [Context.traverse, hd] at hsite
  simp only [linesOf, hd] at hf
  rw [(checkSite_outcome origin settings validator context d.lines site).1] at hf
  obtain ⟨text, htext, hf⟩ := Option.bind_eq_some_iff.1 hf
  obtain ⟨errors, rfl⟩ := exists_of_findingOf? hf
  refine ⟨site, (List.mem_filter.1 hsite).1, text, errors, ?_, rfl⟩
  unfold sightedTextAt? at htext
  split at htext
  · cases htext
  · exact (Option.filter_eq_some_iff.1 htext).1

/-- Two validators whose verdicts differ at most between a crash and silence lead to
analyses with the same findings and the same ending. -/
theorem analyze_congr_of_audible (origin : Origin) (settings : MarkerSettings)
    (v w : Validator) (context : Context)
    (h : ∀ sql, audible (v.validate sql) = audible (w.validate sql)) :
    (analyze origin settings v context).findings = (analyze origin settings w context).findings ∧
      (analyze origin settings v context).ending =
        (analyze origin settings w context).ending := by
  rw [analyze_eq, analyze_eq]
  apply Analysis.ofChecks_map_congr
  · intro site
    rw [(checkSite_outcome origin settings v context (linesOf context) site).1,
      (checkSite_outcome origin settings w context (linesOf context) site).1]
    congr 1
    funext text
    rw [← findingOf?_audible, h, findingOf?_audible]
  · intro site
    rw [(checkSite_outcome origin settings v context (linesOf context) site).2,
      (checkSite_outcome origin settings w context (linesOf context) site).2]
    congr 1
    funext text
    have hi : v.validate text.sql = .interrupted ↔ w.validate text.sql = .interrupted := by
      rw [← audible_eq_interrupted, h, audible_eq_interrupted]
    simp only [hi]

theorem detect?_eq_none_of_kind (lines : List (List Char)) (markers : Markers) (site : Visit)
    (h : Candidate.siteKinds.contains site.node.kind = false) :
    Candidate.detect? lines markers site = none := by
  unfold Candidate.detect?
  cases hk : site.node.kind <;> simp_all [Candidate.siteKinds]

theorem sightedTextAt?_of_kind (origin : Origin) (settings : MarkerSettings) (context : Context)
    (lines : List (List Char)) (site : Visit)
    (h : Candidate.siteKinds.contains site.node.kind = false) :
    sightedTextAt? origin settings context lines site = none := by
  unfold sightedTextAt? ownTextAt? textAt?
  rw [detect?_eq_none_of_kind lines settings.markers site h]
  split <;> rfl

/-- With a validator that always answers, the findings of an analysis are those of all
places of the tree in order, and the analysis is done. -/
theorem analyze_of_total (origin : Origin) (settings : MarkerSettings) (validator : Validator)
    (context : Context) (d : Document) (hd : context.document = some d)
    (hv : ∀ sql, validator.validate sql ≠ .interrupted) :
    (analyze origin settings validator context).findings =
        d.root.visits.filterMap (fun site =>
          (sightedTextAt? origin settings context d.lines site).bind
            (fun text => findingOf? context text (validator.validate text.sql))) ∧
      (analyze origin settings validator context).ending = .done := by
  have hlines : linesOf context = d.lines := by simp only [linesOf, hd]
  have hplaces : context.traverse (some Candidate.siteKinds) =
      d.root.visits.filter fun v => Candidate.siteKinds.contains v.node.kind := by
    simp only [Context.traverse, hd]
  have huninterrupted : ∀ c ∈ (context.traverse (some Candidate.siteKinds)).map
      (checkSite origin settings validator context d.lines), c.interrupted = false := by
    intro c hc
    obtain ⟨site, -, rfl⟩ := List.mem_map.1 hc
    rw [(checkSite_outcome origin settings validator context d.lines site).2]
    simp [hv]
  rw [analyze_eq, hlines]
  obtain ⟨hfindings, hending⟩ := Analysis.ofChecks_of_uninterrupted _ huninterrupted
  refine ⟨?_, hending⟩
  rw [hfindings, hplaces, List.filterMap_map, List.filterMap_filter]
  congr 1
  funext site
  -- places of other kinds are not looked at, and would have no text if they were
  cases hk : Candidate.siteKinds.contains site.node.kind with
  | true => simp only [↓reduceIte, Function.comp_apply, (checkSite_outcome ..).1]
  | false =>
    rw [sightedTextAt?_of_kind origin settings context d.lines site hk]
    rfl

end SqlRules

end QueryLint
