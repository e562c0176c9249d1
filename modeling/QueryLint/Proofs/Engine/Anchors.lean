import QueryLint.Proofs.Engine.LineNumbers
import QueryLint.Proofs.Tree.Blocks

/-!
# Findings are anchored in the source

A finding is placed where the text of its candidate is: at a literal of the tree, or at a token
that was traced in a block. So it lies in the lines of the source, and in the span of the block
that the token is from, unless this block is the whole module.
-/

namespace QueryLint

open Text Source

namespace Finding

open Engine (contextOf settle)

/-- A finding stands for the text that a candidate of a document has: it is the draft about this
text, settled. -/
def StandsFor (language path : String) (d : Document) (candidate : Candidate)
    (text : ResolvedText) (f : Finding) : Prop :=
  ∃ site ∈ d.root.visits, ∃ markers errors,
    Candidate.detect? d.lines markers site = some candidate ∧
    Resolution.resolve d.lines candidate.expression.node
      ((contextOf language path d).tokensIn candidate.block) = .found text ∧
    f = settle (contextOf language path d)
      (SqlRules.draftOf (contextOf language path d) text errors)

/-- Where a finding stands for a traced text, it lies in the span of the block around its
candidate, unless this is the module. -/
def TracedInside (language path : String) (d : Document) (f : Finding) : Prop :=
  ∀ candidate text, f.StandsFor language path d candidate text → text.origin = .traced →
    ∃ block, candidate.block = some block ∧ candidate.site.EnclosedBy block ∧
      (block.node.kind ≠ .module → block.node.span.contains f.location.span = true)

section

variable {language path : String} {d : Document} {a : Ast} {f : Finding}

theorem StandsFor.span_eq {candidate : Candidate} {text : ResolvedText}
    (h : f.StandsFor language path d candidate text) : f.location.span = text.anchor := by
  obtain ⟨site, -, markers, errors, -, -, rfl⟩ := h
  rw [Engine.settle_location]
  rfl

theorem StandsFor.snippet_eq {candidate : Candidate} {text : ResolvedText}
    (h : f.StandsFor language path d candidate text) :
    f.snippet = some ((contextOf language path d).snippet f.location.span.startLine
      Context.snippetSize) := by
  rw [h.span_eq]
  obtain ⟨site, -, markers, errors, -, -, rfl⟩ := h
  rw [Engine.settle_snippet]
  rfl

theorem StandsFor.inLines {candidate : Candidate} {text : ResolvedText}
    (hroot : d.root = Node.ofAst d.lines a) (htexts : a.PlacesTexts d.lines.length)
    (htokens : ∀ t ∈ d.tokens, t.span.InLines d.lines)
    (h : f.StandsFor language path d candidate text) : f.location.span.InLines d.lines := by
  rw [h.span_eq]
  obtain ⟨site, hsite, markers, errors, hcandidate, hfound, -⟩ := h
  exact Resolution.inLines_of_found hroot htexts htokens hsite hcandidate hfound

theorem tracedInside_of_definitions (hroot : d.root = Node.ofAst d.lines a)
    (hdefinitions : a.PlacesDefinitions) : f.TracedInside language path d := by
  intro candidate text h htraced
  rw [h.span_eq]
  obtain ⟨site, hsite, markers, errors, hcandidate, hfound, -⟩ := h
  obtain ⟨sql, -, -, -, rfl⟩ | ⟨-, -, -, stream, hstream, htrace⟩ :=
    Resolution.resolve_eq_found_iff.1 hfound
  · cases htraced
  obtain ⟨i, value, sql, -, hvalue, -, -, -, rfl⟩ := Resolution.trace_eq_found_iff.1 htrace
  obtain ⟨block, hblock, rfl⟩ := Engine.exists_of_tokensIn hstream
  obtain ⟨haround, rfl, -⟩ := Candidate.exists_of_detect? hcandidate
  have hencloses := Visit.enclosedBy_of_enclosingBlock? (haround.symm.trans hblock)
  refine ⟨block, hblock, hencloses, fun hmodule => ?_⟩
  have hmem : block.node ∈ d.root.walk :=
    Visit.node_mem_walk (Visit.mem_visits_of_mem_ancestors hsite
      (List.mem_of_find?_eq_some hencloses.found))
  rw [hroot] at hmem
  have hopens := NodeKind.isBlock_iff.2 hencloses.opens
  have hposition := Node.hasPosition_of_isBlock hdefinitions hmem hopens hmodule
  exact Document.contains_of_mem_tokensIn (List.mem_of_getElem? hvalue) hmodule hposition

end

end Finding

namespace Engine

variable {judge : SqlRules.Judge} {settings : Datum} {limits : Document.Limits} {e : Engine}
  {language path source : String} {d : Document}

theorem exists_standsFor_of_mem (he : ofSettings (SqlRules.registry judge) settings limits = .ok e)
    {f : Finding} (hf : f ∈ (scanParsed e.threshold e.rules language path (some d)).findings) :
    ∃ candidate text, f.StandsFor language path d candidate text := by
  obtain ⟨site, hsite, markers, text, errors, htext, rfl⟩ := exists_of_mem_scanParsed he hf
  obtain ⟨candidate, hcandidate, hfound⟩ := SqlRules.exists_of_textAt? htext
  exact ⟨candidate, text, site, hsite, markers, errors, hcandidate, hfound, rfl⟩

/-- There are findings only in a source that is read. -/
theorem exists_read_of_mem {f : Finding} (hf : f ∈ (e.scanContent language path source).findings) :
    ∃ d, read language path source e.limits = .ok (some d) ∧
      f ∈ (scanParsed e.threshold e.rules language path (some d)).findings := by
  rw [scanContent, scanText] at hf
  split at hf
  next parsed hread =>
    cases parsed with
    | none => cases hf
    | some d => exact ⟨d, hread, hf⟩
  next => cases hf

/-- Findings are anchored in the source. Let the string constants of a tree be on lines of a
text, not ending before they start, and let the spans of tokens lie in the text. Then a finding
in the document that consists of these lies in the text, whatever the byte offsets are: its lines
are lines of the text, in order, and its columns count characters within these lines. A finding
stands for the text of a candidate, and if this was traced, the finding lies in the span of the
function or class that the candidate is in; for this, functions and classes need a position. In a
source that is read, all this is so. -/
theorem findings_are_anchored (he : ofSettings (SqlRules.registry judge) settings limits = .ok e)
    (language path : String) :
    (∀ (d : Document) (a : Ast), d.root = Node.ofAst d.lines a →
      a.PlacesTexts d.lines.length → (∀ t ∈ d.tokens, t.span.InLines d.lines) →
      ∀ f ∈ (scanParsed e.threshold e.rules language path (some d)).findings,
        f.location.span.InLines d.lines ∧
        (∃ candidate text, f.StandsFor language path d candidate text) ∧
        (a.PlacesDefinitions → f.TracedInside language path d)) ∧
    ∀ source, ∀ f ∈ (e.scanContent language path source).findings,
      ∃ d, read language path source e.limits = .ok (some d) ∧
        f.location.span.InLines (newlineLines (Document.normalize source)) ∧
        (∃ candidate text, f.StandsFor language path d candidate text) ∧
        f.TracedInside language path d := by
  constructor
  · intro d a hroot htexts htokens f hf
    obtain ⟨candidate, text, hstands⟩ := exists_standsFor_of_mem he hf
    exact ⟨hstands.inLines hroot htexts htokens, ⟨candidate, text, hstands⟩,
      Finding.tracedInside_of_definitions hroot⟩
  · intro source f hf
    obtain ⟨d, hread, hf⟩ := exists_read_of_mem hf
    obtain ⟨a, hroot, htexts, hdefinitions, htokens⟩ := placed_of_read hread
    obtain ⟨candidate, text, hstands⟩ := exists_standsFor_of_mem he hf
    have hinside := hstands.inLines hroot htexts htokens
    rw [lines_of_read hread] at hinside
    exact ⟨d, hread, hinside, ⟨candidate, text, hstands⟩,
      Finding.tracedInside_of_definitions hroot hdefinitions⟩

/-- A letter that takes two bytes stands before each of the two texts. The first one is traced in
a function, the second one is a literal; both are placed by characters. -/
theorem findings_are_anchored_behind_wide_letters :
    let source :=
      "def f():\n    x = 'é'; q = 'SELEKT é'; SqlCommand(q)\n'é', SqlCommand('SELEKT 1')\n"
    let objecting : Validator := ⟨fun _ => .messages ["no such statement"], fun _ => []⟩
    ∃ e d, ofSettings (SqlRules.registry (.given objecting)) .null = .ok e ∧
      read "python" "a.py" source = .ok (some d) ∧
      ∀ s ∈ [Span.mk 2 17 2 27, Span.mk 3 16 3 26],
        ∃ f ∈ (e.scanContent "python" "a.py" source).findings, f.location.span = s ∧
          f.location.span.InLines (newlineLines (Document.normalize source)) ∧
          f.TracedInside "python" "a.py" d := by
  intro source objecting
  obtain ⟨e, hmade, hthreshold, hlimits, hrules⟩ : ∃ e : Engine,
      ofSettings (SqlRules.registry (.given objecting)) .null = .ok e ∧ e.threshold = .info ∧
        e.limits = .usual ∧ e.rules = [Origin.literal, .traced].map fun o =>
          SqlRules.rule o ⟨⟨["SqlCommand"], []⟩, ⟨["CommandText"], []⟩⟩ objecting :=
    ⟨_, ofSettings_null objecting, rfl, rfl, rfl⟩
  have hread : (read "python" "a.py" source).toOption.join.map (fun d =>
      (collect .info (contextOf "python" "a.py" d) ([Origin.literal, .traced].map fun o =>
        SqlRules.rule o ⟨⟨["SqlCommand"], []⟩, ⟨["CommandText"], []⟩⟩ objecting)).findings.map
          (·.location.span)) = some [Span.mk 3 16 3 26, Span.mk 2 17 2 27] := by decide +kernel
  obtain ⟨d, hd, hfound⟩ := read_eq_of_map hread
  rw [← hthreshold, ← hrules] at hfound
  refine ⟨e, d, hmade, hd, fun s hs => ?_⟩
  have hmem : s ∈ [Span.mk 3 16 3 26, Span.mk 2 17 2 27] := by
    rw [List.mem_pair] at hs ⊢
    exact hs.symm
  rw [← hfound] at hmem
  obtain ⟨f, hf, rfl⟩ := List.mem_map.1 hmem
  rw [← hlimits] at hd
  have hreported := (findings_perm_collect hd).mem_iff.2 hf
  obtain ⟨d', hd', hinside, -, htraced⟩ :=
    (findings_are_anchored hmade "python" "a.py").2 source f hreported
  obtain rfl : d' = d := by
    rw [hd] at hd'
    cases hd'
    rfl
  exact ⟨f, hreported, rfl, hinside, htraced⟩

end Engine

end QueryLint
