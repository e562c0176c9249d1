import QueryLint.Proofs.Settings

/-!
# Settings as mappings

Settings are written as one flat mapping and read from one that may have sections. What is read from
the mapping of some settings is these settings again: no step of the reading takes one of their
entries for a section, renames it, replaces it or leaves it out.
-/

namespace QueryLint

open Engine (bind_eq_ok_iff)

namespace RuleSettings

/-- Lists of rules, or a value in their place that is no mapping. -/
def IsSection : RuleSettings → Prop
  | lists _ _ => True
  | other value => ∀ entries, value ≠ .mapping entries

theorem ofDatum_of_ne_mapping {d : Datum} (h : ∀ entries, d ≠ .mapping entries) :
    ofDatum d = .ok (other d) := by
  cases d with
  | mapping entries => exact absurd rfl (h entries)
  | _ => rfl

/-- A mapping is read as two lists, whatever it holds. -/
theorem isSection_of_ofDatum {d : Datum} {r : RuleSettings} (h : ofDatum d = .ok r) :
    r.IsSection := by
  by_cases hmapping : ∃ entries, d = .mapping entries
  · obtain ⟨entries, rfl⟩ := hmapping
    simp only [ofDatum, bind_eq_ok_iff] at h
    obtain ⟨_, -, enabled, -, _, -, disabled, -, hr⟩ := h
    cases hr
    trivial
  · have hne : ∀ entries, d ≠ .mapping entries := fun entries he => hmapping ⟨entries, he⟩
    rw [ofDatum_of_ne_mapping hne] at h
    cases h
    exact hne

theorem ofDatum_toDatum {r : RuleSettings} (h : r.IsSection) : ofDatum r.toDatum = .ok r := by
  cases r with
  | other value => exact ofDatum_of_ne_mapping h
  | lists enabled disabled =>
    -- an empty list counts as missing and is read as an empty list all the same
    cases enabled <;> cases disabled <;> rfl

end RuleSettings

namespace OutputOptions

/-- The entries of some options set every option, so that nothing is left of others. -/
theorem ofEntries_entries (o before : OutputOptions) : before.ofEntries o.entries = .ok o := rfl

end OutputOptions

namespace OutputSettings

/-- Options, or a value in their place that is no mapping. -/
def IsSection : OutputSettings → Prop
  | options _ => True
  | other value => ∀ entries, value ≠ .mapping entries

theorem ofDatum_of_ne_mapping {d : Datum} (h : ∀ entries, d ≠ .mapping entries) :
    ofDatum d = .ok (other d) := by
  cases d with
  | mapping entries => exact absurd rfl (h entries)
  | _ => rfl

theorem ofDatum_mapping (entries : List (Datum × Datum)) :
    ofDatum (.mapping entries) =
      if hasNames entries then
        options <$> OutputOptions.ofEntries {} (Datum.textEntries entries)
      else .error .optionNotText := by
  rw [ofDatum]
  cases hasNames entries with
  | false => rfl
  | true => cases OutputOptions.ofEntries {} (Datum.textEntries entries) <;> rfl

theorem isSection_of_ofDatum {d : Datum} {o : OutputSettings} (h : ofDatum d = .ok o) :
    o.IsSection := by
  by_cases hmapping : ∃ entries, d = .mapping entries
  · obtain ⟨entries, rfl⟩ := hmapping
    rw [ofDatum_mapping] at h
    split at h
    · cases hmade : OutputOptions.ofEntries {} (Datum.textEntries entries) with
      | error failure =>
        rw [hmade] at h
        cases h
      | ok made =>
        rw [hmade] at h
        cases h
        trivial
    · cases h
  · have hne : ∀ entries, d ≠ .mapping entries := fun entries he => hmapping ⟨entries, he⟩
    rw [ofDatum_of_ne_mapping hne] at h
    cases h
    exact hne

theorem ofDatum_toDatum {o : OutputSettings} (h : o.IsSection) : ofDatum o.toDatum = .ok o := by
  cases o with
  | other value => exact ofDatum_of_ne_mapping h
  | options o =>
    rw [toDatum, Datum.ofEntries, ofDatum_mapping, if_pos]
    · exact congrArg (options <$> ·) (OutputOptions.ofEntries_entries o {})
    · rfl

end OutputSettings

namespace Settings

theorem takeOut_of_lookup_eq_none {key : String} {entries : List (String × Datum)}
    (h : entries.lookup key = none) : takeOut key entries = (.null, entries) := by
  rw [takeOut, h]
  refine Prod.ext rfl (List.filter_eq_self.2 fun e he => ?_)
  have hne := bne_iff_ne.1 (List.lookup_eq_none_iff.1 h e he)
  exact bne_iff_ne.2 hne.symm

/-- Without sections there is nothing to lift. -/
theorem flatten_of_lookup_eq_none {entries : List (String × Datum)}
    (hscan : entries.lookup "scan" = none) (hsql : entries.lookup "sql" = none) :
    flatten entries = .ok entries := by
  have hadd : ((Datum.null.orElse (.mapping [])).addEntries entries) = .ok entries := rfl
  simp only [flatten, takeOut_of_lookup_eq_none hscan, hadd, bind, Except.bind,
    takeOut_of_lookup_eq_none hsql]
  rfl

/-- The settings of a flat mapping, given its sections. -/
theorem ofFlat_entries {s : Settings} {rules : RuleSettings} {output : OutputSettings}
    (hrules : RuleSettings.ofDatum s.rules.toDatum = .ok rules)
    (houtput : OutputSettings.ofDatum s.output.toDatum = .ok output) :
    ofFlat s.entries = .ok { s with rules, output } := by
  have hsection : s.entries.lookup "rules" = some s.rules.toDatum := rfl
  have hsection' : s.entries.lookup "output" = some s.output.toDatum := rfl
  simp only [ofFlat, hsection, hsection', hrules, houtput, bind, Except.bind]
  rfl

theorem ofDatum_toDatum_eq (s : Settings) :
    ofDatum s.toDatum = ofFlat s.entries := by
  have hflat : flatten s.entries = .ok s.entries := flatten_of_lookup_eq_none rfl rfl
  rw [ofDatum, toDatum, Datum.toEntries_ofEntries]
  simp only [bind, Except.bind, hflat]

/-- Each section is read from a value, or is the default one. -/
theorem sections_of_ofFlat {entries : List (String × Datum)} {s : Settings}
    (h : ofFlat entries = .ok s) :
    (s.rules = .lists [] [] ∨ ∃ d, RuleSettings.ofDatum d = .ok s.rules) ∧
      (s.output = .options {} ∨ ∃ d, OutputSettings.ofDatum d = .ok s.output) := by
  unfold ofFlat at h
  cases hr : entries.lookup "rules" with
  | none =>
    cases ho : entries.lookup "output" with
    | none =>
      simp only [hr, ho] at h
      cases h
      exact ⟨.inl rfl, .inl rfl⟩
    | some output =>
      simp only [hr, ho, bind_eq_ok_iff] at h
      obtain ⟨_, hrules, made, houtput, hs⟩ := h
      cases hrules
      cases hs
      exact ⟨.inl rfl, .inr ⟨output, houtput⟩⟩
  | some rules =>
    cases ho : entries.lookup "output" with
    | none =>
      simp only [hr, ho, bind_eq_ok_iff] at h
      obtain ⟨made, hrules, _, houtput, hs⟩ := h
      cases houtput
      cases hs
      exact ⟨.inr ⟨rules, hrules⟩, .inl rfl⟩
    | some output =>
      simp only [hr, ho, bind_eq_ok_iff] at h
      obtain ⟨made, hrules, made', houtput, hs⟩ := h
      cases hs
      exact ⟨.inr ⟨rules, hrules⟩, .inr ⟨output, houtput⟩⟩

theorem ofDatum_toDatum_of_isSection {s : Settings} (hrules : s.rules.IsSection)
    (houtput : s.output.IsSection) : ofDatum s.toDatum = .ok s := by
  rw [ofDatum_toDatum_eq]
  exact ofFlat_entries (RuleSettings.ofDatum_toDatum hrules)
    (OutputSettings.ofDatum_toDatum houtput)

theorem isSection_of_ofDatum {d : Datum} {s : Settings} (h : ofDatum d = .ok s) :
    s.rules.IsSection ∧ s.output.IsSection := by
  simp only [ofDatum, bind_eq_ok_iff] at h
  obtain ⟨entries, -, flat, -, hflat⟩ := h
  obtain ⟨hrules, houtput⟩ := sections_of_ofFlat hflat
  constructor
  · obtain hdefault | ⟨d, hd⟩ := hrules
    · rw [hdefault]
      trivial
    · exact RuleSettings.isSection_of_ofDatum hd
  · obtain hdefault | ⟨d, hd⟩ := houtput
    · rw [hdefault]
      trivial
    · exact OutputSettings.isSection_of_ofDatum hd

/-- Settings come back from their mapping, and make the same engine: those with lists of rules and
options for output, and whatever was read from any mapping. They do not come back only if a mapping
stands in place of the lists or the options, which never happens when settings are read. -/
theorem settings_come_back (s : Settings) :
    (∀ enabled disabled o, s.rules = .lists enabled disabled → s.output = .options o →
      ofDatum s.toDatum = .ok s ∧ (ofDatum s.toDatum >>= forEngine) = s.forEngine) ∧
    (∀ d, ofDatum d = .ok s →
      ofDatum s.toDatum = .ok s ∧ (ofDatum s.toDatum >>= forEngine) = s.forEngine) ∧
    (ofDatum s.toDatum = .ok s ↔ s.rules.IsSection ∧ s.output.IsSection) := by
  have hback : s.rules.IsSection → s.output.IsSection →
      ofDatum s.toDatum = .ok s ∧ (ofDatum s.toDatum >>= forEngine) = s.forEngine := by
    intro hrules houtput
    have hs := ofDatum_toDatum_of_isSection hrules houtput
    exact ⟨hs, by rw [hs]; rfl⟩
  refine ⟨fun enabled disabled o hrules houtput => ?_, fun d hd => ?_,
    isSection_of_ofDatum, fun h => (hback h.1 h.2).1⟩
  · exact hback (by rw [hrules]; trivial) (by rw [houtput]; trivial)
  · exact hback (isSection_of_ofDatum hd).1 (isSection_of_ofDatum hd).2

/-- Settings with patterns, without marks of one kind and with a rule that is disabled. -/
theorem settings_come_back_with_patterns :
    let s : Settings :=
      { target := .text "src", excludePatterns := .texts ["build/**"], includePatterns := .null,
        maxFileSize := .int (-1), constructorMarkers := .list [],
        propertyMarkers := .texts ["scan", "sql"],
        rules := .lists [] [.text "SQL-SYNTAX-002"], severityThreshold := .text "error",
        output := .options { format := .text "json", color := .bool false } }
    ofDatum s.toDatum = .ok s ∧ (ofDatum s.toDatum >>= forEngine) = s.forEngine := by
  intro s
  exact (settings_come_back s).1 _ _ _ rfl rfl

end Settings

end QueryLint
