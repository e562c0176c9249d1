import QueryLint.Finding.Record
import QueryLint.Proofs.Json.RoundTrip

/-!
# Findings come back from their text

A finding is read from its record, but for an empty reason for suppression, which the record leaves
out. From its text it is read as its texts settle, whatever the indentation. Hence it comes back
exactly if its text can be written at all and no halves of a pair stand side by side in it.

All texts are meant, of halves and of the characters that do not stand for a half.
-/

namespace QueryLint

theorem Choice.ofJson_label {α : Type} {enumeration : String} {ofLabel? : String → Option α}
    {label : String} {a : α} (h : ofLabel? label = some a) :
    ofJson enumeration ofLabel? (.string label) = .ok (member a) := by
  rw [ofJson, h]

theorem Severity.ofLabel?_label (s : Severity) : ofLabel? s.label = some s := by
  cases s <;> rfl

theorem Confidence.ofLabel?_label (c : Confidence) : ofLabel? c.label = some c := by
  cases c <;> rfl

theorem Category.ofLabel?_label (c : Category) : ofLabel? c.label = some c := by
  cases c
  rfl

theorem LocationDraft.ofJson_toJson (d : LocationDraft) : ofJson d.toJson = .ok d := by
  rw [ofJson, toJson, Record.fields, if_pos (by simp [List.lookup_cons])]
  simp [Record.get, Record.getOr, List.lookup_cons, bind, Except.bind, pure, Except.pure]

theorem SnippetDraft.ofJson_toJson (d : SnippetDraft) : ofJson d.toJson = .ok d := by
  rw [ofJson, toJson, Record.fields, if_pos (by simp [List.lookup_cons])]
  simp [Record.get, Record.getOr, List.lookup_cons, bind, Except.bind, pure, Except.pure]

theorem SnippetDraft.ofOptional_toJson (d : Option SnippetDraft) :
    ofOptional ((d.map toJson).getD .null) = .ok d := by
  cases d with
  | none => rfl
  | some d =>
    have hfilled : d.toJson.isFilled = true := rfl
    rw [Option.map_some, Option.getD_some, ofOptional, if_pos hfilled, ofJson_toJson]
    rfl

namespace FindingDraft

variable (d : FindingDraft) (severity : Severity) (confidence : Confidence) (category : Category)

/-- The entries of a record beside the location and the snippet. -/
def otherEntries : List (String × Json) :=
  [("rule_id", d.ruleId), ("title", d.title), ("description", d.description),
    ("severity", .string severity.label), ("confidence", .string confidence.label),
    ("category", .string category.label), ("language", d.language), ("tags", d.tags),
    ("metadata", d.metadata), ("suppressed", d.suppressed)] ++
    if d.suppressionReason.isFilled then [("suppression_reason", d.suppressionReason)] else []

theorem lookup_location :
    (d.entriesWith severity confidence category).lookup "location" = some d.location.toJson := by
  simp [entriesWith, List.lookup_cons]

theorem get_snippet :
    Record.get "snippet" (d.entriesWith severity confidence category) =
      (d.snippet.map SnippetDraft.toJson).getD .null := by
  unfold entriesWith
  cases d.snippet with
  | none => split_ifs <;> simp [Record.get, Record.getOr, List.lookup_cons]
  | some s => simp [Record.get, Record.getOr, List.lookup_cons]

theorem filter_entriesWith :
    (d.entriesWith severity confidence category).filter
        (fun (k, _) => k != "location" && k != "snippet") =
      d.otherEntries severity confidence category := by
  unfold entriesWith otherEntries
  cases d.snippet <;> split_ifs <;> simp

theorem fields_otherEntries :
    Record.fields "Finding"
        ["rule_id", "title", "description", "severity", "confidence", "category"]
        ["language", "tags", "metadata", "suppressed", "suppression_reason"]
        (.object (d.otherEntries severity confidence category)) =
      .ok (d.otherEntries severity confidence category) := by
  rw [Record.fields, if_pos]
  unfold otherEntries
  split_ifs <;> simp [List.lookup_cons]

theorem ofFields_otherEntries (location : LocationDraft) (snippet : Option SnippetDraft) :
    ofFields location snippet (d.otherEntries severity confidence category) =
      .ok { d with
        severity := .member severity
        confidence := .member confidence
        category := .member category
        location
        snippet
        suppressionReason := d.suppressionReason.orElse .null } := by
  unfold otherEntries Json.orElse
  split_ifs <;>
    simp [ofFields, Record.get, Record.getOr, List.lookup_cons, bind, Except.bind, pure,
      Except.pure, Choice.ofJson_label severity.ofLabel?_label,
      Choice.ofJson_label confidence.ofLabel?_label, Choice.ofJson_label category.ofLabel?_label]

/-- A draft is read from its record, but for an empty reason for suppression. -/
theorem ofJson_entriesWith :
    ofJson (.object (d.entriesWith severity confidence category)) =
      .ok { d with
        severity := .member severity
        confidence := .member confidence
        category := .member category
        suppressionReason := d.suppressionReason.orElse .null } := by
  rw [ofJson, Record.entries]
  dsimp only [bind, Except.bind]
  rw [lookup_location, get_snippet, filter_entriesWith, fields_otherEntries]
  dsimp only
  rw [LocationDraft.ofJson_toJson, SnippetDraft.ofOptional_toJson]
  exact ofFields_otherEntries d severity confidence category d.location d.snippet

end FindingDraft

theorem Json.texts?_strings (ss : List String) : (strings ss).texts? = some ss := by
  rw [strings, texts?]
  induction ss with
  | nil => rfl
  | cons s ss ih =>
    rw [List.map_cons, List.mapM_cons, ih]
    rfl

theorem Json.optionalText?_ofOption (s : Option String) : (ofOption s).optionalText? = some s := by
  cases s <;> rfl

theorem Json.orElse_ofOption (s : Option String) :
    (ofOption s).orElse null = ofOption (if s = some "" then none else s) := by
  cases s with
  | none => rfl
  | some s =>
    by_cases h : s = ""
    · rw [h]
      rfl
    · have hfilled : (string s).isFilled = !s.isEmpty := rfl
      rw [if_neg (by simpa using h), ofOption, orElse, if_pos (by simpa [hfilled] using h)]

theorem Location.location?_draft (l : Location) : l.draft.location? = some l := rfl

theorem Snippet.snippet?_draft (s : Snippet) : s.draft.snippet? = some s := by
  rw [SnippetDraft.snippet?, draft]
  dsimp only
  rw [Json.texts?_strings, Json.texts?_strings]
  rfl

namespace Finding

/-- A finding without an empty reason for suppression. -/
def restored (f : Finding) : Finding :=
  if f.suppressionReason = some "" then { f with suppressionReason := none } else f

theorem ofJson?_toJson (f : Finding) : ofJson? f.toJson = some f.restored := by
  have hrestored : f.restored = { f with
      suppressionReason :=
        if f.suppressionReason = some "" then none else f.suppressionReason } := by
    unfold restored
    split_ifs <;> rfl
  rw [ofJson?, toJson, toEntries, FindingDraft.ofJson_entriesWith, hrestored]
  obtain ⟨_, _, _, _, _, _, location, snippet, _, tags, _, _, reason⟩ := f
  dsimp only [draft, FindingDraft.finding?]
  rw [Location.location?_draft, Json.texts?_strings, Json.orElse_ofOption,
    Json.optionalText?_ofOption]
  cases snippet with
  | none => rfl
  | some s =>
    dsimp only [Option.map_some]
    rw [s.snippet?_draft]
    rfl

/-- An empty reason leaves no trace in a record. -/
theorem toJson_restored (f : Finding) : f.restored.toJson = f.toJson := by
  unfold restored
  split_ifs with h
  · obtain ⟨_, _, _, _, _, _, _, _, _, _, _, _, _⟩ := f
    subst h
    rfl
  · rfl

end Finding

theorem LocationDraft.areFixed_keys :
    Json.AreFixed ["file_path", "start_line", "end_line", "start_column", "end_column"] := by
  decide

theorem SnippetDraft.areFixed_keys :
    Json.AreFixed ["code", "highlighted_line", "context_before", "context_after"] := by
  decide

theorem FindingDraft.areFixed_keys (d : FindingDraft) (severity : Severity)
    (confidence : Confidence) (category : Category) :
    Json.AreFixed ((d.entriesWith severity confidence category).map Prod.fst) := by
  have hall : Json.AreFixed ["rule_id", "title", "description", "severity", "confidence",
      "category", "location", "language", "tags", "metadata", "suppressed", "snippet",
      "suppression_reason"] := by decide
  refine hall.sublist ?_
  unfold entriesWith
  cases d.snippet <;> split_ifs <;> simp

/-- A location as it is read. -/
def Location.settled (l : Location) : Location := { l with path := Json.settledText l.path }

/-- A snippet as it is read. -/
def Snippet.settled (s : Snippet) : Snippet where
  code := Json.settledText s.code
  line := s.line
  before := s.before.map Json.settledText
  after := s.after.map Json.settledText

/-- A finding as it is read. -/
def Finding.settled (f : Finding) : Finding :=
  { f with
    ruleId := Json.settledText f.ruleId
    title := Json.settledText f.title
    description := Json.settledText f.description
    location := f.location.settled
    snippet := f.snippet.map Snippet.settled
    language := Json.settledText f.language
    tags := f.tags.map Json.settledText
    metadata := Json.settledEntries [] f.metadata
    suppressionReason := f.suppressionReason.map Json.settledText }

theorem Location.settled_draft (l : Location) :
    l.draft.toJson.settled = l.settled.draft.toJson := by
  rw [LocationDraft.toJson, Json.settled_object_of_fixed (by exact LocationDraft.areFixed_keys)]
  rfl

theorem Snippet.settled_draft (s : Snippet) :
    s.draft.toJson.settled = s.settled.draft.toJson := by
  rw [SnippetDraft.toJson, Json.settled_object_of_fixed (by exact SnippetDraft.areFixed_keys)]
  simp only [draft, settled, SnippetDraft.toJson, List.map_cons, List.map_nil, Json.settled,
    Json.settled_strings]

theorem Severity.settledText_label (s : Severity) : Json.settledText s.label = s.label := by
  refine Json.settledText_eq_iff.mpr ?_
  cases s <;> decide

theorem Confidence.settledText_label (c : Confidence) : Json.settledText c.label = c.label := by
  refine Json.settledText_eq_iff.mpr ?_
  cases c <;> decide

theorem Category.settledText_label (c : Category) : Json.settledText c.label = c.label := by
  refine Json.settledText_eq_iff.mpr ?_
  cases c
  decide

theorem Finding.settled_reason (reason : Option String) :
    (if (Json.ofOption reason).isFilled then [("suppression_reason", Json.ofOption reason)]
        else []).map (fun e => (e.1, e.2.settled)) =
      if (Json.ofOption (reason.map Json.settledText)).isFilled then
        [("suppression_reason", Json.ofOption (reason.map Json.settledText))] else [] := by
  cases reason with
  | none => rfl
  | some s =>
    have hfilled : (Json.ofOption (some (Json.settledText s))).isFilled =
        (Json.ofOption (some s)).isFilled := congrArg (!·) (Json.isEmpty_settledText s)
    rw [Option.map_some, hfilled]
    split_ifs <;> rfl

theorem Finding.settled_toJson (f : Finding) : f.toJson.settled = f.settled.toJson := by
  rw [toJson, toEntries, Json.settled_object_of_fixed (FindingDraft.areFixed_keys _ _ _ _), toJson,
    toEntries]
  unfold FindingDraft.entriesWith
  rw [List.map_append, List.map_append]
  -- a record is what every finding has, then the snippet, then the reason
  congr 2
  · congr 1
    · simp only [draft, settled, List.map_cons, List.map_nil, Json.settled, Json.settled_strings,
        Severity.settledText_label, Confidence.settledText_label, Category.settledText_label,
        Location.settled_draft]
    · obtain ⟨_, _, _, _, _, _, _, snippet, _, _, _, _, _⟩ := f
      cases snippet with
      | none => rfl
      | some s => exact congrArg (fun j => [("snippet", j)]) s.settled_draft
  · exact settled_reason f.suppressionReason

theorem Location.isPlain_parts (l : Location) : ∀ p ∈ l.draft.toJson.parts, p.IsPlain := by
  refine Json.isPlain_parts_object LocationDraft.areFixed_keys ?_
  simp [draft, Json.parts, Json.IsPlain, Json.KeysDiffer]

theorem Snippet.isPlain_parts (s : Snippet) : ∀ p ∈ s.draft.toJson.parts, p.IsPlain := by
  refine Json.isPlain_parts_object SnippetDraft.areFixed_keys ?_
  simp only [draft, List.forall_mem_cons]
  refine ⟨?_, ?_, Json.isPlain_parts_strings _, Json.isPlain_parts_strings _, ?_⟩
  all_goals simp [Json.parts, Json.IsPlain, Json.KeysDiffer]

/-- Only the further data of a finding can hold fractions or keys that meet. -/
theorem Finding.isPlain_parts {f : Finding}
    (h : ∀ p ∈ (Json.object f.metadata).parts, p.IsPlain) : ∀ p ∈ f.toJson.parts, p.IsPlain := by
  refine Json.isPlain_parts_object (FindingDraft.areFixed_keys _ _ _ _) ?_
  unfold toEntries FindingDraft.entriesWith
  rw [List.forall_mem_append, List.forall_mem_append]
  refine ⟨⟨?_, ?_⟩, ?_⟩
  · simp only [draft, List.forall_mem_cons]
    refine ⟨?_, ?_, ?_, ?_, ?_, ?_, f.location.isPlain_parts, ?_, Json.isPlain_parts_strings _, h,
      ?_, ?_⟩
    all_goals simp [Json.parts, Json.IsPlain, Json.KeysDiffer]
  · obtain ⟨_, _, _, _, _, _, _, snippet, _, _, _, _, _⟩ := f
    cases snippet with
    | none => simp [draft]
    | some s => exact List.forall_mem_singleton.mpr s.isPlain_parts
  · split_ifs
    · exact List.forall_mem_singleton.mpr (Json.isPlain_parts_ofOption f.suppressionReason)
    · exact fun e he => absurd he List.not_mem_nil

namespace Finding

/-- What a finding is read as from its text with an indentation, where there is so much room for
blanks, and by a reader that goes no deeper than the given depth. -/
def ComesBackAs (room : Int) (depth : Nat) (indent : Option Int) (f g : Finding) : Prop :=
  ∃ text record, f.write indent room = .ok text ∧
    Json.readWithin depth text.toList = .ok record ∧ ofJson? record = some g

theorem write_eq_ok_iff {f : Finding} {room : Int} {indent : Option Int} {text : String} :
    f.write indent room = .ok text ↔ Json.IsIndent room indent ∧ f.toJson.isHuge = false ∧
      f.toJson.write indent = text := by
  rw [write, Json.writeUnder_eq_ok_iff]
  constructor
  · rintro ⟨l, hl, hhuge, htext⟩
    obtain ⟨hindent, rfl⟩ := Json.layout_eq_ok_iff.mp hl
    exact ⟨hindent, hhuge, htext⟩
  · rintro ⟨hindent, hhuge, htext⟩
    exact ⟨_, Json.layout_eq_ok_iff.mpr ⟨hindent, rfl⟩, hhuge, htext⟩

section

variable {f g : Finding} {room : Int} {depth : Nat} {indent : Option Int}
  (hplain : ∀ p ∈ (Json.object f.metadata).parts, p.IsPlain)

include hplain

theorem readWithin_write (hdepth : f.toJson.nesting ≤ depth) (hhuge : f.toJson.isHuge = false) :
    Json.readWithin depth (f.toJson.write indent).toList = .ok f.settled.toJson := by
  rw [← settled_toJson]
  exact Json.readWithin_writeIn (Json.isBlank_ofIndent indent)
    (Json.isReadable_of_isPlain (isPlain_parts hplain) hhuge) hdepth

theorem comesBackAs_iff (hdepth : f.toJson.nesting ≤ depth) :
    f.ComesBackAs room depth indent g ↔
      Json.IsIndent room indent ∧ f.toJson.isHuge = false ∧ g = f.settled.restored := by
  constructor
  · rintro ⟨text, record, htext, hrecord, hg⟩
    obtain ⟨hindent, hhuge, rfl⟩ := write_eq_ok_iff.mp htext
    rw [readWithin_write hplain hdepth hhuge] at hrecord
    cases hrecord
    rw [ofJson?_toJson] at hg
    exact ⟨hindent, hhuge, (Option.some.inj hg).symm⟩
  · rintro ⟨hindent, hhuge, rfl⟩
    exact ⟨_, _, write_eq_ok_iff.mpr ⟨hindent, hhuge, rfl⟩, readWithin_write hplain hdepth hhuge,
      ofJson?_toJson _⟩

theorem toJson_settled_restored_eq_iff :
    f.settled.restored.toJson = f.toJson ↔ ∀ p ∈ f.toJson.parts, p.IsUnsplit := by
  rw [toJson_restored, ← settled_toJson,
    Json.settled_eq_iff f.toJson fun p hp => (isPlain_parts hplain p hp).2]

end

/-- A finding whose further data holds no fraction comes back from its text, at every depth at least
its own and however much room there is, exactly if the indentation and all numbers can be written
and no halves of a pair stand side by side in a text or a key. What comes back is the finding,
without an empty reason. -/
theorem written_finding_comes_back (f : Finding)
    (hplain : ∀ p ∈ (Json.object f.metadata).parts, p.IsPlain) (room : Int) (depth : Nat)
    (hdepth : f.toJson.nesting ≤ depth) (indent : Option Int) :
    ((∃ g, f.ComesBackAs room depth indent g ∧ g.toJson = f.toJson) ↔
      Json.IsIndent room indent ∧ f.toJson.isHuge = false ∧
        ∀ p ∈ f.toJson.parts, p.IsUnsplit) ∧
    ∀ g, f.ComesBackAs room depth indent g → g.toJson = f.toJson →
      g = if f.suppressionReason = some "" then { f with suppressionReason := none } else f := by
  constructor
  · constructor
    · rintro ⟨g, hg, hsame⟩
      obtain ⟨hindent, hhuge, rfl⟩ := (comesBackAs_iff hplain hdepth).mp hg
      exact ⟨hindent, hhuge, (toJson_settled_restored_eq_iff hplain).mp hsame⟩
    · rintro ⟨hindent, hhuge, hunsplit⟩
      exact ⟨f.settled.restored, (comesBackAs_iff hplain hdepth).mpr ⟨hindent, hhuge, rfl⟩,
        (toJson_settled_restored_eq_iff hplain).mpr hunsplit⟩
  · intro g hg hsame
    obtain ⟨-, -, rfl⟩ := (comesBackAs_iff hplain hdepth).mp hg
    rw [toJson_restored] at hsame
    have hread := ofJson?_toJson f.settled
    rw [hsame, ofJson?_toJson] at hread
    exact (Option.some.inj hread).symm

/-- A finding with a snippet, nested data and an empty reason. -/
def suppressedSample : Finding :=
  { (default : Finding) with
    title := "\"😀\"\n"
    snippet := some ⟨"SELECT 1", 7, ["a"], []⟩
    metadata := [("k", .array [.int (-12), .null, .object [("x", .bool true)]])]
    suppressed := true
    suppressionReason := some "" }

theorem written_sample_comes_back :
    ∃ g, suppressedSample.ComesBackAs Text.usualRoom 4 (some (-3)) g ∧
      g.toJson = suppressedSample.toJson ∧
      g = { suppressedSample with suppressionReason := none } := by
  have hplain : ∀ p ∈ (Json.object suppressedSample.metadata).parts, p.IsPlain := by
    simp [suppressedSample, Json.parts, Json.partsOfEntries, Json.partsOfItems, Json.IsPlain,
      Json.KeysDiffer]
  have hdepth : suppressedSample.toJson.nesting ≤ 4 := by decide
  have hindent : Json.IsIndent Text.usualRoom (some (-3)) := by
    rintro n ⟨⟩
    decide
  have hhuge : suppressedSample.toJson.isHuge = false := by decide +kernel
  have hunsplit : ∀ p ∈ suppressedSample.toJson.parts, p.IsUnsplit := by decide +kernel
  have hback := written_finding_comes_back suppressedSample hplain Text.usualRoom 4 hdepth
    (some (-3))
  obtain ⟨g, hg, hsame⟩ := hback.1.mpr ⟨hindent, hhuge, hunsplit⟩
  exact ⟨g, hg, hsame, hback.2 g hg hsame⟩

/-- Not every finding comes back: one is not written with an indentation out of range, nor with a
number that has too many digits, and two halves side by side come back as one character. -/
theorem write_refuses_or_joins_halves :
    (∀ room, (default : Finding).write (some (-9223372036854775809)) room = .error .overflow) ∧
    ({ (default : Finding) with
      metadata := [("n", .int (Binary64.pow10 Text.maxDecimalDigits))] }).write none =
        .error .hugeNumber ∧
    ∃ g, ({ (default : Finding) with
        title := String.ofList [Char.ofNat 0x10D83D, Char.ofNat 0x10DE00] }).ComesBackAs
      Text.usualRoom 2 none g ∧ g.title = "😀" := by
  refine ⟨fun _ => rfl, ?_, ?_⟩
  · have hhuge : ({ (default : Finding) with
        metadata := [("n", .int (Binary64.pow10 Text.maxDecimalDigits))] }).toJson.isHuge =
          true := by decide +kernel
    rw [write, Json.writeUnder, hhuge]
    rfl
  · have hplain : ∀ p ∈ (Json.object []).parts, p.IsPlain := by
      simp [Json.parts, Json.partsOfEntries, Json.IsPlain, Json.KeysDiffer]
    refine ⟨_, (comesBackAs_iff hplain ?_).mpr ⟨Json.isIndent_none, ?_, rfl⟩, ?_⟩
    all_goals decide +kernel

end Finding

end QueryLint
