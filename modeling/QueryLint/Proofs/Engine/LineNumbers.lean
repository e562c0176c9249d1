import QueryLint.Proofs.Document.Placement
import QueryLint.Proofs.Finding.Order
import QueryLint.Proofs.SqlRules.Analysis
import QueryLint.Proofs.SqlRules.Registry

/-!
# The line that a finding shows

A finding is placed by the numbering of syntax, which counts newlines. Its snippet and its
suppression are taken from a view of the text, which counts every kind of line break. Both
name the same line as long as no other break has come before.
-/

namespace QueryLint

open Text

/-- A line or, unless it is the first, the one before holds a suppression comment. -/
def Suppression.Covered (lines : List (List Char)) (n : Nat) : Prop :=
  marks (lineAt lines n) = true ∨ 1 < n ∧ marks (lineAt lines (n - 1)) = true

/-- A finding shows a line of a text: its snippet is that line, and it is suppressed exactly
if the line is covered. -/
def Finding.ShowsLine (lines : List (List Char)) (n : Nat) (f : Finding) : Prop :=
  f.snippet.map (·.code) = some (String.ofList (lineAt lines n)) ∧
    (f.suppressed = true ↔ Suppression.Covered lines n)

theorem Suppression.marksLine_natCast (lines : List (List Char)) (n : Nat) :
    marksLine (lines.map String.ofList) n = (0 < n && marks (lineAt lines n)) := by
  have hindex : ((n : Int) - 1).toNat = n - 1 := by omega
  unfold marksLine lineAt
  rw [hindex, List.getElem?_map]
  cases lines[n - 1]? <;> simp [marks]

theorem Suppression.covers_natCast {lines : List (List Char)} {n : Nat} (hn : 1 ≤ n) :
    covers (lines.map String.ofList) n = true ↔ Covered lines n := by
  have hbefore : (n : Int) - 1 = (n - 1 : Nat) := by omega
  have hpositive : 0 < n - 1 ↔ 1 < n := by omega
  rw [covers, hbefore, marksLine_natCast, marksLine_natCast, Covered]
  simp [hpositive, Nat.lt_of_lt_of_le Nat.zero_lt_one hn]

theorem Context.code_snippetOf {lines : List (List Char)} {n : Nat} (hn : 1 ≤ n) (size : Int) :
    (snippetOf (lines.map String.ofList) n size).code = String.ofList (lineAt lines n) := by
  have hindex : ((n : Int) - 1).toNat = n - 1 := by omega
  unfold snippetOf lineAt
  dsimp only
  rw [hindex, List.getElem?_map, List.length_map]
  by_cases hinside : n ≤ lines.length
  · rw [if_pos (by omega), List.getElem?_eq_getElem (by omega)]
    rfl
  · rw [if_neg (by omega), List.getElem?_eq_none (by omega)]
    rfl

theorem Engine.settle_snippet (context : Context) (f : Finding) :
    (settle context f).snippet = f.snippet := by
  unfold settle
  dsimp only
  split <;> rfl

namespace SqlRules

open Engine (read contextOf)

/-- The anchor of a text is on a line of the source. -/
theorem startLine_of_textAt? {language path source : String} {limits : Document.Limits}
    {d : Document} {markers : Markers} {site : Visit} {text : ResolvedText}
    (hread : read language path source limits = .ok (some d))
    (hsite : site ∈ d.root.visits)
    (h : textAt? markers (contextOf language path d) d.lines site = some text) :
    ∃ n : Nat, text.anchor.startLine = n ∧ 1 ≤ n ∧
      n ≤ (newlineLines (Document.normalize source)).length := by
  obtain ⟨candidate, hcandidate, hfound⟩ := exists_of_textAt? h
  obtain ⟨a, hroot, htexts, -, htokens⟩ := Engine.placed_of_read hread
  have hinside := Resolution.inLines_of_found hroot htexts htokens hsite hcandidate hfound
  rw [Engine.lines_of_read hread] at hinside
  have hfirst := hinside.startLine_pos
  have hlast := hinside.startLine_le.trans hinside.endLine_le
  exact ⟨text.anchor.startLine.toNat, by omega, by omega, by omega⟩

/-- A finding shows its line as a view of the text counts it. -/
theorem showsLine_settle_draftOf (context : Context) (errors : List String) {text : ResolvedText}
    {n : Nat} (hline : text.anchor.startLine = n) (hn : 1 ≤ n) :
    (Engine.settle context (draftOf context text errors)).ShowsLine
      (viewLinesFrom [] context.content.toList) n := by
  have hsnippet : (Engine.settle context (draftOf context text errors)).snippet =
      some (context.snippet n Context.snippetSize) := by
    rw [Engine.settle_snippet, draftOf, hline]
  have hsuppressed : (Engine.settle context (draftOf context text errors)).suppressed =
      context.isSuppressed n := by
    have hspan : (draftOf context text errors).location.span.startLine = n := hline
    unfold Engine.settle
    dsimp only
    rw [hspan]
    split <;> simp_all [draftOf]
  constructor
  · rw [hsnippet]
    exact congrArg some (Context.code_snippetOf hn Context.snippetSize)
  · rw [hsuppressed]
    exact Suppression.covers_natCast hn

end SqlRules

theorem Suppression.covered_congr {lines lines' : List (List Char)} {n : Nat} (hn : 1 ≤ n)
    (hagree : ∀ i < n, lineAt lines (i + 1) = lineAt lines' (i + 1)) :
    Covered lines n ↔ Covered lines' n := by
  have hown : lineAt lines n = lineAt lines' n := by
    simpa [Nat.sub_add_cancel hn] using hagree (n - 1) (by omega)
  have hbefore : 1 < n → lineAt lines (n - 1) = lineAt lines' (n - 1) := by
    intro hlast
    have hstep := hagree (n - 2) (by omega)
    rwa [show n - 2 + 1 = n - 1 by omega] at hstep
  rw [Covered, Covered, hown]
  refine or_congr_right (and_congr_right fun hlast => ?_)
  rw [hbefore hlast]

/-- A finding that shows a line of one text shows a line of another exactly if the two cannot
be told apart there. -/
theorem Finding.ShowsLine.iff_agree {lines : List (List Char)} {n : Nat} {f : Finding}
    (h : f.ShowsLine lines n) (lines' : List (List Char)) :
    f.ShowsLine lines' n ↔ lineAt lines n = lineAt lines' n ∧
      (Suppression.Covered lines n ↔ Suppression.Covered lines' n) := by
  rw [ShowsLine, h.1, h.2, Option.some_inj, String.ofList_inj]

/-- The lines of a view hold no breaks. -/
theorem isLineBreak_of_mem_lineAt {cs : List Char} {n : Nat} {c : Char}
    (h : c ∈ lineAt (viewLinesFrom [] cs) n) : isLineBreak c = false := by
  unfold lineAt at h
  cases hline : (viewLinesFrom [] cs)[n - 1]? with
  | none => rw [hline] at h; cases h
  | some l =>
    rw [hline] at h
    exact not_isLineBreak_of_mem_viewLinesFrom (by simp) l (List.mem_of_getElem? hline) c h

namespace Engine

open SqlRules

theorem settle_location (context : Context) (f : Finding) :
    (settle context f).location = f.location := by
  unfold settle
  dsimp only
  split <;> rfl

theorem exists_of_mem_keep {threshold : Severity} {context : Context} {fs : List Finding}
    {f : Finding} (h : f ∈ keep threshold context fs) : ∃ g ∈ fs, settle context g = f := by
  rw [keep, List.mem_filter, List.mem_map] at h
  exact h.1

theorem exists_of_mem_collect {threshold : Severity} {context : Context} {rules : List Rule}
    {f : Finding} (h : f ∈ (collect threshold context rules).findings) :
    ∃ r ∈ rules, ∃ g ∈ (r.analyze context).findings, settle context g = f := by
  induction rules with
  | nil => cases h
  | cons r rules ih =>
    have hrest : f ∈ (collect threshold context rules).findings →
        ∃ r' ∈ r :: rules, ∃ g ∈ (r'.analyze context).findings, settle context g = f := by
      intro h
      obtain ⟨r', hr', hg⟩ := ih h
      exact ⟨r', List.mem_cons_of_mem r hr', hg⟩
    unfold collect at h
    split at h
    · exact hrest h
    · dsimp only at h
      split at h
      · exact ⟨r, List.mem_cons_self, exists_of_mem_keep h⟩
      · obtain h | h := List.mem_append.1 h
        · exact ⟨r, List.mem_cons_self, exists_of_mem_keep h⟩
        · exact hrest h

section

variable {judge : Judge} {settings : Datum} {limits : Document.Limits} {e : Engine}
  {language path source : String} {d : Document}

theorem findings_perm_collect (hread : read language path source e.limits = .ok (some d)) :
    (e.scanContent language path source).findings.Perm
      (collect e.threshold (contextOf language path d) e.rules).findings := by
  simp only [scanContent, scanText, hread, scanParsed, runRules]
  exact Finding.sort_perm _

/-- Findings can be counted before they are sorted. -/
theorem length_findings {n : Nat}
    (h : (read language path source e.limits).toOption.join.map (fun d =>
    (collect e.threshold (contextOf language path d) e.rules).findings.length) = some n) :
    (e.scanContent language path source).findings.length = n := by
  obtain ⟨d, hd, hlength⟩ := read_eq_of_map h
  rw [(findings_perm_collect hd).length_eq, hlength]

/-- A finding in a document is about the text at a place of the tree. -/
theorem exists_of_mem_scanParsed (he : ofSettings (SqlRules.registry judge) settings limits = .ok e)
    {f : Finding}
    (hf : f ∈ (scanParsed e.threshold e.rules language path (some d)).findings) :
    ∃ site ∈ d.root.visits, ∃ markers text errors,
      textAt? markers (contextOf language path d) d.lines site = some text ∧
        f = settle (contextOf language path d)
          (draftOf (contextOf language path d) text errors) := by
  obtain ⟨r, hr, g, hg, rfl⟩ := exists_of_mem_collect ((Finding.sort_perm _).mem_iff.1 hf)
  obtain ⟨origin, markers, validator, rfl⟩ := rules_ofSettings he r hr
  obtain ⟨site, hsite, text, errors, htext, rfl⟩ := exists_of_mem_analyze rfl hg
  exact ⟨site, hsite, markers.markers, text, errors, htext, rfl⟩

theorem exists_of_mem_findings (he : ofSettings (SqlRules.registry judge) settings limits = .ok e)
    (hread : read language path source e.limits = .ok (some d)) {f : Finding}
    (hf : f ∈ (e.scanContent language path source).findings) :
    ∃ site ∈ d.root.visits, ∃ markers text errors,
      textAt? markers (contextOf language path d) d.lines site = some text ∧
        f = settle (contextOf language path d)
          (draftOf (contextOf language path d) text errors) := by
  rw [scanContent, scanText, hread] at hf
  exact exists_of_mem_scanParsed he hf

/-- A finding is placed on a line of the source, counted in newlines, and it shows the line of
that number in the view of the text. It shows the line that it is placed on exactly if the two
lists cannot be told apart there. They agree up to that line exactly if there is no line break
of another kind up to its end, and if there is one in the line itself, the finding does not
show it. -/
theorem scanContent_shows_lines (he : ofSettings (SqlRules.registry judge) settings limits = .ok e)
    (hread : read language path source e.limits = .ok (some d)) :
    let lines := newlineLines (Document.normalize source)
    let view := viewLinesFrom [] (Document.normalize source)
    ∀ f ∈ (e.scanContent language path source).findings,
      ∃ n : Nat, f.location.span.startLine = n ∧ 1 ≤ n ∧ n ≤ lines.length ∧
        f.ShowsLine view n ∧
        (f.ShowsLine lines n ↔ lineAt view n = lineAt lines n ∧
          (Suppression.Covered view n ↔ Suppression.Covered lines n)) ∧
        ((∀ i < n, lineAt view (i + 1) = lineAt lines (i + 1)) ↔
          ∀ l ∈ lines.take n, ∀ c ∈ l, isLineBreak c = false) ∧
        ((∀ l ∈ lines.take n, ∀ c ∈ l, isLineBreak c = false) → f.ShowsLine lines n) ∧
        ((∃ c ∈ lineAt lines n, isLineBreak c = true) → ¬ f.ShowsLine lines n) := by
  intro lines view f hf
  obtain ⟨site, hsite, markers, text, errors, htext, rfl⟩ := exists_of_mem_findings he hread hf
  obtain ⟨n, hline, hfirst, hlast⟩ := startLine_of_textAt? hread hsite htext
  have hcontent : (contextOf language path d).content.toList = Document.normalize source := by
    simp [contextOf, source_of_read hread]
  have hshows := showsLine_settle_draftOf (contextOf language path d) errors hline hfirst
  rw [hcontent] at hshows
  have hexact := hshows.iff_agree lines
  have hagree : (∀ i < n, lineAt view (i + 1) = lineAt lines (i + 1)) ↔
      ∀ l ∈ lines.take n, ∀ c ∈ l, isLineBreak c = false :=
    viewLinesFrom_agrees_iff (Document.normalize source) hlast
  refine ⟨n, ?_, hfirst, hlast, hshows, hexact, hagree, ?_, ?_⟩
  · rw [settle_location]
    exact hline
  · intro hplain
    have hlines := hagree.2 hplain
    have hown : lineAt view n = lineAt lines n := by
      simpa [Nat.sub_add_cancel hfirst] using hlines (n - 1) (by omega)
    exact hexact.2 ⟨hown, Suppression.covered_congr hfirst hlines⟩
  · rintro ⟨c, hc, hbreak⟩ hshown
    have hview : c ∈ lineAt view n := (hexact.1 hshown).1 ▸ hc
    exact Bool.noConfusion (hbreak.symm.trans (isLineBreak_of_mem_lineAt hview))

end

/-- The form feed ends a line of the view, so that the second finding shows the line behind
it, which is empty, and its comment does not suppress it. -/
theorem scanContent_shows_line_before_form_feed :
    let source := "SqlCommand(\"SELEKT 0\")  # noqa\n\x0c\nSqlCommand(\"SELEKT 1\")  # noqa\n"
    let lines := newlineLines (Document.normalize source)
    let objecting : Validator := ⟨fun _ => .messages ["no such statement"], fun _ => []⟩
    ∃ e d, ofSettings (SqlRules.registry (.given objecting)) .null = .ok e ∧
      read "python" "a.py" source = .ok (some d) ∧
      (∃ f ∈ (e.scanContent "python" "a.py" source).findings,
        f.location.span.startLine = 1 ∧ f.suppressed = true ∧ f.ShowsLine lines 1) ∧
      ∃ f ∈ (e.scanContent "python" "a.py" source).findings,
        f.location.span.startLine = 3 ∧ f.suppressed = false ∧ ¬ f.ShowsLine lines 3 := by
  intro source lines objecting
  obtain ⟨e, hmade, hthreshold, hlimits, hrules⟩ : ∃ e : Engine,
      ofSettings (SqlRules.registry (.given objecting)) .null = .ok e ∧ e.threshold = .info ∧
        e.limits = .usual ∧ e.rules = [Origin.literal, .traced].map fun o =>
          rule o ⟨⟨["SqlCommand"], []⟩, ⟨["CommandText"], []⟩⟩ objecting :=
    ⟨_, ofSettings_null objecting, rfl, rfl, rfl⟩
  have hread : (read "python" "a.py" source).toOption.join.map (fun d =>
      (collect .info (contextOf "python" "a.py" d) ([Origin.literal, .traced].map fun o =>
        rule o ⟨⟨["SqlCommand"], []⟩, ⟨["CommandText"], []⟩⟩ objecting)).findings.map
          (·.location.span.startLine)) = some [1, 3] := by decide +kernel
  obtain ⟨d, hd, hfound⟩ := read_eq_of_map hread
  rw [← hthreshold, ← hrules] at hfound
  have hd' : read "python" "a.py" source e.limits = .ok (some d) := hlimits.symm ▸ hd
  have hat : ∀ k ∈ [(1 : Int), 3], ∃ f ∈ (e.scanContent "python" "a.py" source).findings,
      f.location.span.startLine = k := by
    intro k hk
    rw [← hfound] at hk
    obtain ⟨f, hf, hline⟩ := List.mem_map.1 hk
    exact ⟨f, (findings_perm_collect hd').mem_iff.2 hf, hline⟩
  refine ⟨e, d, hmade, hd, ?_, ?_⟩
  · obtain ⟨f, hf, hline⟩ := hat 1 (by simp)
    obtain ⟨n, hn, -, -, -, -, -, hplain, -⟩ := scanContent_shows_lines hmade hd' f hf
    obtain rfl : n = 1 := by omega
    have hall : ((newlineLines (Document.normalize source)).take 1).all
        (fun l => l.all fun c => !isLineBreak c) = true := by decide +kernel
    have hshows := hplain (by simpa using hall)
    exact ⟨f, hf, hline, hshows.2.2 (.inl (by decide +kernel)), hshows⟩
  · obtain ⟨f, hf, hline⟩ := hat 3 (by simp)
    obtain ⟨n, hn, -, -, hshows, hexact, -⟩ := scanContent_shows_lines hmade hd' f hf
    obtain rfl : n = 3 := by omega
    have hview : viewLinesFrom [] (Document.normalize source) =
        ["SqlCommand(\"SELEKT 0\")  # noqa".toList, [], [],
          "SqlCommand(\"SELEKT 1\")  # noqa".toList] := by decide +kernel
    have hbare : ¬ Suppression.Covered (viewLinesFrom [] (Document.normalize source)) 3 := by
      rw [hview]
      rintro (h | ⟨-, h⟩) <;> cases h
    have hother : lineAt (viewLinesFrom [] (Document.normalize source)) 3 ≠
        lineAt (newlineLines (Document.normalize source)) 3 := by decide +kernel
    exact ⟨f, hf, hline, Bool.eq_false_iff.2 (mt hshows.2.1 hbare),
      fun hshown => hother (hexact.1 hshown).1⟩

end Engine

end QueryLint
