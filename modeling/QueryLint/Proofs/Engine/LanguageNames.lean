import QueryLint.Proofs.Engine.Findings
import QueryLint.Proofs.Engine.LineNumbers

/-!
# Scans under the names of a language

A name of a language is looked up twice: to find out how a source is read, and to find out
which rules are meant for it. The first takes any spelling of the full name and of the short
one. The second knows the full name only, so under the short name a source is read and then
left alone.
-/

namespace QueryLint

theorem Language.ofName?_isSome_iff (name : String) :
    (ofName? name).isSome ↔ Text.lower name = "python" ∨ Text.lower name = "py" := by
  unfold ofName?
  by_cases hfull : Text.lower name = "python"
  · simp [hfull, all, Language.name]
  · by_cases hshort : Text.lower name = "py"
    · simp [hshort, all, Language.name, aliases]
    · have hother : (Text.lower name == "py") = false := beq_eq_false_iff_ne.2 hshort
      have hnamed : ("python" == Text.lower name) = false := beq_eq_false_iff_ne.2 (Ne.symm hfull)
      simp [hfull, hshort, all, Language.name, aliases, List.lookup_cons, hother, hnamed]

namespace Finding

/-- A finding with another language put down. -/
def renamed (language : String) (f : Finding) : Finding := { f with language }

/-- Findings that differ in their language at most. -/
def Alike (fs gs : List Finding) : Prop := fs.map (renamed "") = gs.map (renamed "")

theorem alike_map_renamed (language : String) (fs : List Finding) :
    Alike (fs.map (renamed language)) fs := by
  rw [Alike, List.map_map]
  rfl

theorem nil_alike_iff {fs : List Finding} : Alike [] fs ↔ fs = [] := by
  simp [Alike]

theorem sort_map_renamed (language : String) (fs : List Finding) :
    sort (fs.map (renamed language)) = (sort fs).map (renamed language) := by
  have hsame : ∀ a ∈ fs, ∀ b ∈ fs, comesBefore a b =
      comesBefore (renamed language a) (renamed language b) := fun _ _ _ _ => rfl
  exact (List.map_mergeSort hsame).symm

end Finding

theorem Analysis.ofChecks_ending (cs : List Check) :
    (ofChecks cs).ending = .done ∨ (ofChecks cs).ending = .interrupted := by
  induction cs with
  | nil => exact .inl rfl
  | cons c cs ih =>
    unfold ofChecks
    split
    · exact .inr rfl
    · exact ih

theorem SqlRules.supports_iff (origin : Origin) (language : String) :
    (descriptor origin).supports language = true ↔ Text.lower language = "python" := by
  have hlower : Text.lower "python" = "python" := rfl
  cases origin <;>
    simp [Descriptor.supports, descriptor, literalDescriptor, tracedDescriptor, hlower]

namespace Engine

open SqlRules

theorem settle_language (context : Context) (language : String) (f : Finding) :
    settle { context with language } f = (settle context f).renamed language := by
  have hsame : ({ context with language } : Context).isSuppressed f.location.span.startLine =
      context.isSuppressed f.location.span.startLine := rfl
  unfold settle Finding.renamed
  cases hs : context.isSuppressed f.location.span.startLine <;> simp [hs, hsame]

theorem keep_language (threshold : Severity) (context : Context) (language : String)
    (fs : List Finding) :
    keep threshold { context with language } fs =
      (keep threshold context fs).map (Finding.renamed language) := by
  have hsettle : settle { context with language } =
      Finding.renamed language ∘ settle context := funext (settle_language context language)
  rw [keep, keep, hsettle, ← List.map_map, List.filter_map]
  rfl

section

variable {rules : List Rule}

/-- The rules about SQL do not fail: where they cannot go on, they pass over a node. -/
theorem errors_collect
    (hrules : ∀ r ∈ rules, ∃ origin markers validator, r = rule origin markers validator)
    (threshold : Severity) (context : Context) :
    (collect threshold context rules).errors = [] := by
  induction rules with
  | nil => rfl
  | cons r rules ih =>
    have hrest := ih fun r' hr => hrules r' (List.mem_cons_of_mem r hr)
    obtain ⟨origin, markers, validator, rfl⟩ := hrules r List.mem_cons_self
    have hending : ((rule origin markers validator).analyze context).ending = .done ∨
        ((rule origin markers validator).analyze context).ending = .interrupted :=
      Analysis.ofChecks_ending _
    unfold collect
    split
    · exact hrest
    · obtain hend | hend := hending <;> simp [hend, hrest]

/-- Under any spelling of the full name the rules about SQL find the same. -/
theorem collect_of_full_name
    (hrules : ∀ r ∈ rules, ∃ origin markers validator, r = rule origin markers validator)
    (threshold : Severity) (context : Context) {language : String}
    (hplain : context.language = "python") (hfull : Text.lower language = "python") :
    (collect threshold { context with language } rules).findings =
        (collect threshold context rules).findings.map (Finding.renamed language) ∧
      (collect threshold { context with language } rules).stopped =
        (collect threshold context rules).stopped := by
  induction rules with
  | nil => exact ⟨rfl, rfl⟩
  | cons r rules ih =>
    obtain ⟨hfindings, hstopped⟩ := ih fun r' hr => hrules r' (List.mem_cons_of_mem r hr)
    obtain ⟨origin, markers, validator, rfl⟩ := hrules r List.mem_cons_self
    have hd : (rule origin markers validator).descriptor = descriptor origin := rfl
    have hs : (descriptor origin).supports context.language = true :=
      hplain ▸ supports_python origin
    have hs' : (descriptor origin).supports language = true :=
      (supports_iff origin language).2 hfull
    -- the language is the one part of its context that a rule does not look at
    have hsame : (rule origin markers validator).analyze { context with language } =
        (rule origin markers validator).analyze context := rfl
    cases hend : ((rule origin markers validator).analyze context).ending <;>
      simp [collect, hd, hs, hs', hsame, hend, hfindings, hstopped, keep_language]

/-- Under another name the rules about SQL are not run. -/
theorem collect_of_other_name
    (hrules : ∀ r ∈ rules, ∃ origin markers validator, r = rule origin markers validator)
    (threshold : Severity) (context : Context)
    (hother : Text.lower context.language ≠ "python") :
    collect threshold context rules = {} := by
  induction rules with
  | nil => rfl
  | cons r rules ih =>
    have hrest := ih fun r' hr => hrules r' (List.mem_cons_of_mem r hr)
    obtain ⟨origin, markers, validator, rfl⟩ := hrules r List.mem_cons_self
    have hd : (rule origin markers validator).descriptor = descriptor origin := rfl
    have hs : (descriptor origin).supports context.language = false :=
      Bool.eq_false_iff.2 (mt (supports_iff origin context.language).1 hother)
    simp [collect, hd, hs, hrest]

end

/-- Every name that is known stands for the same reading of a source. -/
theorem read_of_name {language : String} (h : (Language.ofName? language).isSome)
    (path source : String) (limits : Document.Limits) :
    read language path source limits = read "python" path source limits := by
  obtain ⟨l, hl⟩ := Option.isSome_iff_exists.1 h
  cases l
  have hplain : Language.ofName? "python" = some .python := rfl
  simp only [read, hl, hplain]

section

variable {judge : Judge} {settings : Datum} {limits : Document.Limits} {e : Engine}
  {language : String}

theorem errors_scanContent_of_name
    (hmade : ofSettings (SqlRules.registry judge) settings limits = .ok e)
    (hknown : (Language.ofName? language).isSome) (path source : String) :
    (e.scanContent language path source).errors =
      (e.scanContent "python" path source).errors := by
  simp only [scanContent, scanText, read_of_name hknown]
  cases read "python" path source e.limits with
  | error failure => rfl
  | ok parsed =>
    cases parsed with
    | none => rfl
    | some d => simp only [scanParsed, runRules, errors_collect (rules_ofSettings hmade)]

theorem scanContent_of_full_name
    (hmade : ofSettings (SqlRules.registry judge) settings limits = .ok e)
    (hknown : (Language.ofName? language).isSome) (hfull : Text.lower language = "python")
    (path source : String) :
    (e.scanContent language path source).findings =
        (e.scanContent "python" path source).findings.map (Finding.renamed language) ∧
      (e.scanContent language path source).stopped =
        (e.scanContent "python" path source).stopped := by
  simp only [scanContent, scanText, read_of_name hknown]
  cases read "python" path source e.limits with
  | error failure => exact ⟨rfl, rfl⟩
  | ok parsed =>
    cases parsed with
    | none => exact ⟨rfl, rfl⟩
    | some d =>
      obtain ⟨hfindings, hstopped⟩ := collect_of_full_name (rules_ofSettings hmade) e.threshold
        (contextOf "python" path d) rfl hfull
      refine ⟨?_, hstopped⟩
      simp only [scanParsed, runRules]
      rw [← Finding.sort_map_renamed, ← hfindings]
      rfl

theorem findings_scanContent_of_other_name
    (hmade : ofSettings (SqlRules.registry judge) settings limits = .ok e)
    (hother : Text.lower language ≠ "python") (path source : String) :
    (e.scanContent language path source).findings = [] := by
  simp only [scanContent, scanText]
  cases read language path source e.limits with
  | error failure => rfl
  | ok parsed =>
    cases parsed with
    | none => rfl
    | some d =>
      have hnone := collect_of_other_name (rules_ofSettings hmade) e.threshold
        (contextOf language path d) hother
      simp only [scanParsed, runRules, hnone]
      exact List.mergeSort_nil

/-- Names of a language are not treated alike. Under the full name, in any spelling, a scan
finds the same, up to the language that it puts down. Under the short name the source is read
but no rule takes it for its own, so nothing is found, and no error says so. -/
theorem scanContent_of_language_name
    (hmade : ofSettings (SqlRules.registry judge) settings limits = .ok e)
    (hknown : (Language.ofName? language).isSome) (path source : String) :
    let named := e.scanContent language path source
    let plain := e.scanContent "python" path source
    (Text.lower language = "python" ∨ Text.lower language = "py") ∧
      named.errors = plain.errors ∧
      (Text.lower language = "python" →
        named.findings = plain.findings.map (Finding.renamed language) ∧
          named.stopped = plain.stopped) ∧
      (Text.lower language = "py" → named.findings = []) ∧
      (Finding.Alike named.findings plain.findings ↔
        Text.lower language = "python" ∨ plain.findings = []) := by
  intro named plain
  refine ⟨(Language.ofName?_isSome_iff language).1 hknown,
    errors_scanContent_of_name hmade hknown path source,
    fun hfull => scanContent_of_full_name hmade hknown hfull path source, ?_, ?_⟩
  · intro hshort
    exact findings_scanContent_of_other_name hmade (by simp [hshort]) path source
  · by_cases hname : Text.lower language = "python"
    · have hsame := (scanContent_of_full_name hmade hknown hname path source).1
      simp only [named, hname, true_or, iff_true, hsame]
      exact Finding.alike_map_renamed language plain.findings
    · have hnone := findings_scanContent_of_other_name hmade hname path source
      simp only [named, hname, false_or, hnone]
      exact Finding.nil_alike_iff

end

theorem scanContent_misses_under_short_name :
    let source := "SqlCommand(\"SELEKT 1\")\n"
    let objecting : Validator := ⟨fun _ => .messages ["no such statement"], fun _ => []⟩
    ∃ e, ofSettings (SqlRules.registry (.given objecting)) .null = .ok e ∧
      (Language.ofName? "PY").isSome ∧ (Language.ofName? "Python").isSome ∧
      let plain := e.scanContent "python" "a.py" source
      plain.findings ≠ [] ∧
        (e.scanContent "Python" "a.py" source).findings =
          plain.findings.map (Finding.renamed "Python") ∧
        (e.scanContent "PY" "a.py" source).findings = [] ∧
        (e.scanContent "PY" "a.py" source).errors = plain.errors ∧
        ¬ Finding.Alike (e.scanContent "PY" "a.py" source).findings plain.findings := by
  intro source objecting
  have hmade := ofSettings_null objecting
  generalize he : Engine.mk _ _ _ _ _ _ _ = e at hmade
  have hsome : (e.scanContent "python" "a.py" source).findings ≠ [] := by
    refine List.length_pos_iff_ne_nil.1 (Nat.lt_of_lt_of_eq Nat.one_pos (length_findings ?_).symm)
    subst he
    decide +kernel
  have hshort : (Language.ofName? "PY").isSome := by decide +kernel
  have hfull : (Language.ofName? "Python").isSome := by decide +kernel
  have hlower : Text.lower "PY" = "py" := by decide +kernel
  obtain ⟨-, herrors, -, hnone, halike⟩ :=
    scanContent_of_language_name hmade hshort "a.py" source
  obtain ⟨-, -, hsame, -⟩ := scanContent_of_language_name hmade hfull "a.py" source
  refine ⟨e, hmade, hshort, hfull, hsome, (hsame (by decide +kernel)).1, hnone hlower,
    herrors, ?_⟩
  rw [halike, hlower]
  simp [hsome]

end Engine

end QueryLint
