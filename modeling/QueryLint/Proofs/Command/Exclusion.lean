import QueryLint.Proofs.Command.Scan
import QueryLint.Proofs.Engine.Exclusion

/-!
# Patterns to exclude on the command line

Patterns that a request excludes come on top of those of the settings, or of the engine's own where
the settings have none. So they take files away and do nothing else.
-/

namespace QueryLint

theorem Datum.orElse_list {items : List Datum} (h : items ≠ []) (other : Datum) :
    (Datum.list items).orElse other = .list items := by
  refine if_pos ?_
  simpa [isFilled] using h

/-- The patterns that a request adds to are the ones that the engine would have without it. -/
theorem Settings.exists_items_of_ignored {s : Settings} {ignore : Datum}
    (h : s.ignored = .ok ignore) :
    ∃ known, ignore.items = .ok known ∧
      (s.excludePatterns.orElse (.texts Engine.defaultIgnorePatterns)).items = .ok known := by
  unfold ignored at h
  split at h
  next hnull =>
    cases h
    rw [hnull]
    exact ⟨_, rfl, rfl⟩
  next =>
    obtain ⟨items, hitems, h⟩ := Engine.bind_eq_ok_iff.1 h
    cases h
    have hfilled := Datum.isFilled_of_items hitems
    by_cases hnil : items = []
    · have hown : s.excludePatterns.orElse (.texts Engine.defaultIgnorePatterns) =
          .texts Engine.defaultIgnorePatterns := if_neg (by simp [hfilled, hnil])
      rw [hnil, hown]
      exact ⟨_, rfl, rfl⟩
    · have hown : s.excludePatterns.orElse (.texts Engine.defaultIgnorePatterns) =
          s.excludePatterns := if_pos (hfilled.2 hnil)
      rw [hown, Datum.orElse_list hnil]
      exact ⟨items, rfl, hitems⟩

namespace Command.Session

open Engine SqlRules Patterns QueryLint.Path

/-- The files that are scanned for a request. -/
def found (s : Session) (r : ScanRequest) : Except Failure (List String) := do
  (← s.setUp r).discover s.files r.target

section

variable {judge : Judge} {s : Session} {r : ScanRequest}

theorem setUp_excluding (hregistry : s.registry = SqlRules.registry judge) (hnone : r.exclude = [])
    {more : List String} (hmore : more ≠ []) {e : Engine} (h : s.setUp r = .ok e) :
    ∃ known, e.ignorePatterns.items = .ok known ∧
      s.setUp { r with exclude := more } = .ok (e.ignoring (.list (known ++ more.map .text))) := by
  obtain ⟨loaded, settings, ignore, threshold, rules, hload, hsettings, hignore, hthreshold, hrules,
    rfl⟩ := (setUp_eq_ok_iff hregistry).1 h
  obtain ⟨patterns, rules', output, hpatterns, hrules', houtput, rfl⟩ :=
    ScanRequest.settings_eq_ok_iff.1 hsettings
  have hown : patterns = loaded.excludePatterns := by
    rw [ScanRequest.excluding, hnone] at hpatterns
    cases hpatterns
    rfl
  subst hown
  obtain ⟨known, hknown, hitems⟩ := Settings.exists_items_of_ignored hignore
  have hexcluding : { r with exclude := more }.excluding loaded =
      .ok (.list (known ++ more.map .text)) := by
    rw [ScanRequest.excluding, if_neg (by simpa using hmore)]
    exact bind_eq_ok_iff.2 ⟨known, hitems, rfl⟩
  have hall : known ++ more.map Datum.text ≠ [] := by simp [hmore]
  have hsettings' : { r with exclude := more }.settings loaded =
      .ok ({ r with exclude := more }.apply loaded (.list (known ++ more.map Datum.text)) rules'
        output) :=
    ScanRequest.settings_eq_ok_iff.2 ⟨_, rules', output, hexcluding, hrules', houtput, rfl⟩
  refine ⟨known, hknown, (setUp_eq_ok_iff hregistry).2 ⟨loaded, _, _, threshold, rules, hload,
    hsettings', ?_, hthreshold, hrules, rfl⟩⟩
  exact congrArg Except.ok (Datum.orElse_list hall _)

/-- Patterns that a request excludes take files away and do nothing else: those files are left, in
the same order, of which neither the file nor a folder on the way from the target is hit. This holds
for all settings with which files are found at all, and files are found whenever the settings are
well-formed. -/
theorem found_excluding (hregistry : s.registry = SqlRules.registry judge)
    (htree : s.files.root.isProper = true) {entries : List (String × Entry)}
    (hfolder : s.files.find? (plain r.target) = some (.folder entries)) (hnone : r.exclude = []) :
    (∀ e c, s.setUp r = .ok e → e.Asks c → ∃ paths, s.found r = .ok paths) ∧
      ∀ paths, s.found r = .ok paths →
        ∃ ways : List (List String), paths = ways.map (joinAll (plain r.target)) ∧
          (∀ way ∈ ways, ∃ size, (Entry.folder entries).sizeAt? way = some size) ∧
          ∀ more, more ≠ [] → s.found { r with exclude := more } =
            .ok ((ways.filter (Spares more ·)).map (joinAll (plain r.target))) := by
  refine ⟨fun e c hsetUp hasks => ?_, fun paths hfound => ?_⟩
  · exact ⟨_, bind_eq_ok_iff.2 ⟨e, hsetUp, discover_of_asks hasks htree hfolder⟩⟩
  · obtain ⟨e, hsetUp, hdiscover⟩ := bind_eq_ok_iff.1 hfound
    obtain ⟨ways, hpaths, hfiles, hmore⟩ := discover_ignoring htree hfolder hdiscover
    refine ⟨ways, hpaths, hfiles, fun more hne => ?_⟩
    obtain ⟨known, hknown, hsetUp'⟩ := setUp_excluding hregistry hnone hne hsetUp
    refine bind_eq_ok_iff.2 ⟨_, hsetUp', hmore _ more ?_⟩
    have hown : ofDatum e.ignorePatterns = ofItems known := by
      rw [ofDatum, hknown]
    rw [hown]
    exact ofItems_append_extends known more

end

/-- With the pattern `gen` the file in that folder is no longer found, and the other one still
is. -/
theorem found_excluding_folder :
    let judge := Judge.given ⟨fun _ => .messages [], fun _ => []⟩
    let entries := [("gen", Entry.folder [("b.py", .file [])]),
      ("lib", .folder [("a.py", .file [])])]
    let s : Session :=
      { files := ⟨.folder entries, []⟩, registry := SqlRules.registry judge, finishedAt := "" }
    s.files.root.isProper = true ∧ s.files.find? (plain ".") = some (.folder entries) ∧
      ∃ paths paths', s.found {} = .ok paths ∧ s.found { exclude := ["gen"] } = .ok paths' ∧
        "./gen/b.py" ∈ paths ∧ "./lib/a.py" ∈ paths' ∧ "./gen/b.py" ∉ paths' := by
  intro judge entries s
  have htree : s.files.root.isProper = true := by decide +kernel
  have hplain : plain "." = "." := rfl
  have hfolder : s.files.find? (plain ".") = some (.folder entries) := by
    rw [hplain]
    rfl
  have hload : Settings.load s.files none "." = .ok {} := by
    have hnone : Settings.locate s.files "." = .ok none := eq_ok_of_toOption (by decide +kernel)
    rw [Settings.load, hnone]
    rfl
  let e := Settings.frame {} (.texts defaultIgnorePatterns) .info
    (Settings.defaultRules ⟨fun _ => .messages [], fun _ => []⟩)
  have hsetUp : s.setUp {} = .ok e := (setUp_eq_ok_iff rfl).2
    ⟨{}, {}, _, .info, _, hload, rfl, rfl, rfl, Settings.sqlRules_default _, rfl⟩
  have hasks : e.Asks ⟨defaultIgnorePatterns, [], .int defaultFileSize⟩ := ⟨rfl, rfl, rfl, rfl⟩
  have hfound := discover_of_asks hasks htree hfolder
  obtain ⟨-, hexcludes⟩ := found_excluding (r := {}) rfl htree hfolder rfl
  obtain ⟨ways, hways, hfiles, hmore⟩ := hexcludes _ (bind_eq_ok_iff.2 ⟨e, hsetUp, hfound⟩)
  have hnames := s.files.names_of_files htree hfolder hfiles
  have hmem : ∀ {way : List String}, (Entry.folder entries).find? way = some (.file []) →
      Spares defaultIgnorePatterns way →
      Text.lower (extension (way.getLastD "")) ∈ [".py", ".pyw"] →
      byteSize (joinAll (plain ".") way) ≤ maxPathSize → way ∈ ways := by
    intro way hfind hspares hsource hshort
    have hown := (Entry.isProper_of_find? htree hfind).2
    rw [← joinAll_mem_map_iff hnames hown, ← hways,
      mem_discover_iff hasks htree hfolder hfound hown]
    exact ⟨0, Entry.sizeAt?_eq_some_iff.2 ⟨_, hfind, rfl⟩, ⟨hspares, .inl rfl, rfl, hsource⟩,
      hshort⟩
  have hgen : ["gen", "b.py"] ∈ ways :=
    hmem rfl (by decide +kernel) (by decide +kernel) (by decide +kernel)
  have hlib : ["lib", "a.py"] ∈ ways :=
    hmem rfl (by decide +kernel) (by decide +kernel) (by decide +kernel)
  have hleft : ∀ way ∈ ways.filter (Spares ["gen"] ·), ∀ name ∈ way, isName name = true :=
    fun way hway => hnames way (List.mem_filter.1 hway).1
  have hpath : "./gen/b.py" = joinAll (plain ".") ["gen", "b.py"] := by decide +kernel
  have hpath' : "./lib/a.py" = joinAll (plain ".") ["lib", "a.py"] := by decide +kernel
  refine ⟨htree, hfolder, _, _, bind_eq_ok_iff.2 ⟨e, hsetUp, hfound⟩, hmore ["gen"] (by simp),
    ?_, ?_, ?_⟩
  · rw [hways, hpath]
    exact List.mem_map_of_mem hgen
  · rw [hpath']
    exact List.mem_map_of_mem (List.mem_filter.2 ⟨hlib, by decide +kernel⟩)
  · intro hstill
    rw [hpath, joinAll_mem_map_iff hleft (hnames _ hgen)] at hstill
    exact absurd (List.mem_filter.1 hstill).2 (by decide +kernel)

end Command.Session

end QueryLint
