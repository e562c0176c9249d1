import QueryLint.Proofs.Engine.Exclusion
import QueryLint.Proofs.Engine.FolderPatterns
import QueryLint.Proofs.Engine.Threshold
import QueryLint.Proofs.Settings
import QueryLint.Settings.File

/-!
# The settings of a new file

A new settings file holds the default settings, except that it names five patterns of what to
exclude where the engine has fifteen of its own. So a scan with a new settings file looks into
folders that it does not look into without one.
-/

namespace QueryLint

open Engine Patterns QueryLint.Path SqlRules

namespace Settings

/-- The folders whose content a new settings file excludes. -/
def newFileFolders : List String := [".git", "__pycache__", ".venv", "build", "dist"]

/-- The settings of a new file. -/
def ofNewFile : Settings := { excludePatterns := .texts (newFileFolders.map (· ++ "/**")) }

theorem ofDatum_defaultMapping :
    Settings.ofDatum (.ofJson (.object defaultMapping)) = .ok ofNewFile := rfl

/-- Folders whose content is ignored by default, and is not with a new settings file. -/
def reopenedFolders : List String :=
  [".hg", ".tox", ".nox", "venv", "env", ".mypy_cache", ".pytest_cache"]

/-- A file on this way is not looked into by default, and is with a new settings file. -/
def Overlooked (way : List String) : Prop :=
  ".git" ∈ way ∨ "__pycache__" ∈ way ∨ InFolder reopenedFolders way ∨
    ∃ folder ∈ way.dropLast, ".egg-info".toList <:+ folder.toList

instance (way : List String) : Decidable (Overlooked way) :=
  inferInstanceAs (Decidable (_ ∨ _ ∨ _ ∨ _))

/-- The default patterns spare what those of a new settings file spare, less what is overlooked. -/
theorem spares_default_iff {way : List String} (hne : way ≠ [])
    (hnames : ∀ name ∈ way, '/' ∉ name.toList) :
    Spares defaultIgnorePatterns way ↔
      Spares (newFileFolders.map (· ++ "/**")) way ∧ ¬ Overlooked way := by
  have hsort : defaultIgnorePatterns.Perm (".git" :: "__pycache__" :: "*.egg-info/**" ::
      (newFileFolders.map (· ++ "/**") ++ reopenedFolders.map (· ++ "/**"))) := by decide +kernel
  have hgit : Spares [".git"] way ↔ ".git" ∉ way :=
    spares_plain_iff (by decide +kernel) (by decide +kernel) hnames
  have hcache : Spares ["__pycache__"] way ↔ "__pycache__" ∉ way :=
    spares_plain_iff (by decide +kernel) (by decide +kernel) hnames
  have hegg : Spares ["*.egg-info/**"] way ↔
      ∀ folder ∈ way.dropLast, ¬ ".egg-info".toList <:+ folder.toList :=
    spares_star_below_iff (by decide +kernel) (by decide +kernel) hne hnames
  have hreopened : Spares (reopenedFolders.map (· ++ "/**")) way ↔
      ¬ InFolder reopenedFolders way := spares_folders_iff (by decide +kernel) hnames
  have hall : Spares defaultIgnorePatterns way ↔ Spares [".git"] way ∧ Spares ["__pycache__"] way ∧
      Spares ["*.egg-info/**"] way ∧ Spares (newFileFolders.map (· ++ "/**")) way ∧
      Spares (reopenedFolders.map (· ++ "/**")) way := by
    rw [spares_iff_forall defaultIgnorePatterns, spares_iff_forall (newFileFolders.map _),
      spares_iff_forall (reopenedFolders.map _)]
    simp only [hsort.mem_iff, List.forall_mem_cons, List.forall_mem_append]
  rw [hall, hgit, hcache, hegg, hreopened, Overlooked]
  simp only [not_or, not_exists, not_and]
  constructor
  · rintro ⟨hno, hnone, hplain, hspares, hclosed⟩
    exact ⟨hspares, hno, hnone, hclosed, hplain⟩
  · rintro ⟨hspares, hno, hnone, hclosed, hplain⟩
    exact ⟨hno, hnone, hplain, hspares, hclosed⟩

/-- The engines with a new settings file and without one differ in what they ignore. -/
theorem engine_ofNewFile {judge : Judge} {limits : Document.Limits} {e : Engine}
    (he : ({} : Settings).forEngine >>= (Engine.ofSettings (registry judge) · limits) = .ok e) :
    ∃ e', ofNewFile.forEngine >>= (Engine.ofSettings (registry judge) · limits) = .ok e' ∧
      e'.Asks ⟨newFileFolders.map (· ++ "/**"), [], .int defaultFileSize⟩ ∧
      e = e'.ignoring (.texts defaultIgnorePatterns) := by
  obtain ⟨ignore, threshold, rules, hignore, hthreshold, hrules, rfl⟩ := engine_eq_ok_iff.1 he
  cases hignore
  exact ⟨_, engine_eq_ok_iff.2 ⟨_, threshold, rules, rfl, hthreshold, hrules, rfl⟩,
    ⟨rfl, rfl, rfl, rfl⟩, rfl⟩

/-- Of the files that are found with the patterns of a new settings file, the default patterns leave
those that are not overlooked. -/
theorem exists_ways_of_newFile {e : Engine} {fs : FileSystem} {target : String}
    {entries : List (String × Entry)}
    (hasks : e.Asks ⟨newFileFolders.map (· ++ "/**"), [], .int defaultFileSize⟩)
    (htree : fs.root.isProper = true)
    (hfolder : fs.find? (plain target) = some (.folder entries)) :
    ∃ ways : List (List String),
      (∀ way ∈ ways, ∃ size, (Entry.folder entries).sizeAt? way = some size) ∧
      e.discover fs target = .ok (ways.map (joinAll (plain target))) ∧
      (e.ignoring (.texts defaultIgnorePatterns)).discover fs target =
        .ok ((ways.filter (¬ Overlooked ·)).map (joinAll (plain target))) := by
  have hfound := discover_of_asks hasks htree hfolder
  obtain ⟨ways, hways, hfiles, hmore⟩ := discover_ignoring htree hfolder hfound
  -- what is found with the file is spared by its patterns, so only the others make a difference
  have hleft : ways.filter (Spares defaultIgnorePatterns ·) = ways.filter (¬ Overlooked ·) := by
    refine List.filter_congr fun way hway => decide_eq_decide.2 ?_
    obtain ⟨size, hat⟩ := hfiles way hway
    have hnames := fs.names_of_files htree hfolder hfiles way hway
    obtain ⟨_, -, htakes, -⟩ := (mem_discover_iff hasks htree hfolder hfound hnames).1
      (hways ▸ List.mem_map_of_mem hway)
    rw [spares_default_iff (Discovery.ne_nil_of_sizeAt? rfl hat)
      fun name hname => slash_not_mem_of_isName (hnames name hname)]
    exact and_iff_right htakes.spared
  refine ⟨ways, hfiles, hways ▸ hfound, hleft ▸ hmore _ _ ?_⟩
  rw [ofDatum_of_lists hasks.ignore, ofDatum_of_lists (d := .texts defaultIgnorePatterns) rfl]
  exact extends_of_subset (by decide +kernel)

/-- With a new settings file a scan also looks into the files that are overlooked, and into no
others. So the two find the same files exactly if none is overlooked, and without the file a scan
completes whenever it does with it, and finds the same less what is in these files. -/
theorem newFile_reopens_folders {judge : Judge} {limits : Document.Limits} {e : Engine}
    {fs : FileSystem} {target : String} {entries : List (String × Entry)}
    (he : ({} : Settings).forEngine >>= (Engine.ofSettings (registry judge) · limits) = .ok e)
    (htree : fs.root.isProper = true)
    (hfolder : fs.find? (plain target) = some (.folder entries)) :
    ∃ (e' : Engine) (ways : List (List String)),
      (do (← Settings.ofDatum (.ofJson (.object defaultMapping))).forEngine) >>=
        (Engine.ofSettings (registry judge) · limits) = .ok e' ∧
      (∀ way ∈ ways, ∃ size, (Entry.folder entries).sizeAt? way = some size) ∧
      e'.discover fs target = .ok (ways.map (joinAll (plain target))) ∧
      e.discover fs target = .ok ((ways.filter (¬ Overlooked ·)).map (joinAll (plain target))) ∧
      (e.discover fs target = e'.discover fs target ↔ ∀ way ∈ ways, ¬ Overlooked way) ∧
      ∀ r', e'.scan fs target = .ok r' → ∃ r, e.scan fs target = .ok r ∧
        r.findings = r'.findings.filter fun f =>
          ¬ ∃ way ∈ ways, Overlooked way ∧ f.location.path = joinAll (plain target) way := by
  obtain ⟨e', he', hasks, rfl⟩ := engine_ofNewFile he
  obtain ⟨ways, hfiles, hfound, hdefault⟩ := exists_ways_of_newFile hasks htree hfolder
  refine ⟨e', ways, ?_, hfiles, hfound, hdefault, ?_, fun r' hscan => ?_⟩
  · rw [ofDatum_defaultMapping]
    exact he'
  · rw [hdefault, hfound, Except.ok.injEq]
    constructor
    · intro hsame
      have hlength := congrArg List.length hsame
      rw [List.length_map, List.length_map, List.length_filter_eq_length_iff] at hlength
      simpa using hlength
    · intro hnone
      rw [List.filter_eq_self.2 (by simpa using hnone)]
  · obtain ⟨settings, -, hmade⟩ := bind_eq_ok_iff.1 he'
    refine scan_of_fewer_files (p := fun path =>
      ¬ ∃ way ∈ ways, Overlooked way ∧ path = joinAll (plain target) way) hmade rfl rfl rfl rfl
      hfound ?_ hscan
    -- no two ways lead to the same path, so a path tells whether its way is overlooked
    have hnames := fs.names_of_files htree hfolder hfiles
    have hsame : ∀ way ∈ ways, (¬ Overlooked way) ↔
        ¬ ∃ other ∈ ways, Overlooked other ∧
          joinAll (plain target) way = joinAll (plain target) other := by
      intro way hway
      refine not_congr ⟨fun hover => ⟨way, hway, hover, rfl⟩, ?_⟩
      rintro ⟨other, hother, hover, hjoin⟩
      exact joinAll_inj (hnames way hway) (hnames other hother) hjoin ▸ hover
    rw [hdefault, List.filter_map, List.filter_congr fun way hway =>
      decide_eq_decide.2 (hsame way hway)]
    rfl

/-- A file below `venv` is found with a new settings file, and not without one. -/
theorem newFile_reopens_venv :
    let judge := Judge.given ⟨fun _ => .messages [], fun _ => []⟩
    let entries := [("venv", Entry.folder [("a.py", .file [])])]
    let fs : FileSystem := ⟨.folder entries, []⟩
    fs.root.isProper = true ∧ fs.find? (plain ".") = some (.folder entries) ∧
      ∃ e e' paths paths',
        ({} : Settings).forEngine >>= Engine.ofSettings (registry judge) = .ok e ∧
        (do (← Settings.ofDatum (.ofJson (.object defaultMapping))).forEngine) >>=
          Engine.ofSettings (registry judge) = .ok e' ∧
        e.discover fs "." = .ok paths ∧ e'.discover fs "." = .ok paths' ∧
        "./venv/a.py" ∉ paths ∧ "./venv/a.py" ∈ paths' := by
  intro judge entries fs
  have htree : fs.root.isProper = true := by decide +kernel
  have hplain : plain "." = "." := rfl
  have hfolder : fs.find? (plain ".") = some (.folder entries) := by
    rw [hplain]
    rfl
  have he : ({} : Settings).forEngine >>= Engine.ofSettings (registry judge) =
      .ok (frame {} (.texts defaultIgnorePatterns) .info (defaultRules _)) :=
    engine_eq_ok_iff.2 ⟨_, .info, _, rfl, rfl, sqlRules_default _, rfl⟩
  obtain ⟨e', ways, he', hfiles, hfound', hfound, -⟩ := newFile_reopens_folders he htree hfolder
  obtain ⟨made, hmade, hasks, -⟩ := engine_ofNewFile he
  cases (he'.symm.trans hmade : Except.ok e' = .ok made)
  have hpath : "./venv/a.py" = joinAll (plain ".") ["venv", "a.py"] := by decide +kernel
  have hown : ∀ name ∈ ["venv", "a.py"], isName name = true := by decide +kernel
  have htakes : joinAll (plain ".") ["venv", "a.py"] ∈ ways.map (joinAll (plain ".")) :=
    (mem_discover_iff hasks htree hfolder hfound' hown).2
      ⟨0, rfl, ⟨by decide +kernel, .inl rfl, rfl, by decide +kernel⟩, by decide +kernel⟩
  refine ⟨htree, hfolder, _, e', _, _, he, he', hfound, hfound', ?_, hpath ▸ htakes⟩
  have hleft : ∀ way ∈ ways.filter (¬ Overlooked ·), ∀ name ∈ way, isName name = true :=
    fun way hway => fs.names_of_files htree hfolder hfiles way (List.mem_filter.1 hway).1
  rw [hpath, joinAll_mem_map_iff hleft hown]
  intro hstill
  exact absurd (List.mem_filter.1 hstill).2 (by decide +kernel)

end Settings

end QueryLint
