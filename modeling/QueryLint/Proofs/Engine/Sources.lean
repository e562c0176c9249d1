import QueryLint.Proofs.Engine.FoundFiles
import QueryLint.Proofs.Engine.Threshold

/-!
# Trees with the same sources

What a scan finds depends on the files in known languages alone. So two trees in which these are
the same, and the folders too, lead to the same findings, whatever other files there are.
-/

namespace QueryLint

open Engine QueryLint.Path

namespace FileSystem

/-- Whether a way leads to a folder. -/
def leadsToFolder (root : Entry) (way : List String) : Bool :=
  (root.find? way).any Discovery.isFolder

theorem leadsToFolder_iff {root : Entry} {way : List String} :
    leadsToFolder root way = true ↔ ∃ entries, root.find? way = some (.folder entries) := by
  unfold leadsToFolder
  cases root.find? way with
  | none => simp
  | some e => cases e <;> simp [Discovery.isFolder, Entry.isFile, Entry.size?]

theorem follow_cons (root : Entry) (done : List String) (part : String) (rest : List String) :
    follow root done (part :: rest) =
      if leadsToFolder root done.reverse then follow root (step done part) rest else none := by
  rw [follow, leadsToFolder]
  cases root.find? done.reverse with
  | none => rfl
  | some e => cases e <;> rfl

theorem meetsLongName_cons (root : Entry) (done : List String) (part : String)
    (rest : List String) :
    meetsLongName root done (part :: rest) = (leadsToFolder root done.reverse &&
      (decide (maxNameSize < byteSize part) || meetsLongName root (step done part) rest)) := by
  rw [meetsLongName, leadsToFolder]
  cases root.find? done.reverse with
  | none => rfl
  | some e => cases e <;> rfl

/-- Where something lies below, there is a folder. -/
theorem leadsToFolder_of_below {root : Entry} {v way : List String} (hbefore : v <+: way)
    (hway : leadsToFolder root way = true) : leadsToFolder root v = true := by
  obtain ⟨rest, rfl⟩ := hbefore
  obtain ⟨entries, hfind⟩ := leadsToFolder_iff.1 hway
  rw [Entry.find?_append] at hfind
  obtain ⟨next, hnext, hrest⟩ := Option.bind_eq_some_iff.1 hfind
  cases next with
  | folder inner => exact leadsToFolder_iff.2 ⟨inner, hnext⟩
  | file bytes => cases rest <;> cases hrest
  | locked size => cases rest <;> cases hrest

/-- A path to a file ends in the name of that file. -/
theorem getLastD_of_follow {root : Entry} {parts done way : List String} (hne : parts ≠ [])
    (h : follow root done parts = some way) {found : Entry} (hfind : root.find? way = some found)
    (hfile : found.isFile = true) : way.getLastD "" = parts.getLastD "" := by
  have hnot : leadsToFolder root way = false := by
    simp [leadsToFolder, hfind, Discovery.isFolder, hfile]
  induction parts generalizing done with
  | nil => exact absurd rfl hne
  | cons part rest ih =>
    rw [follow_cons] at h
    split at h
    next hdone =>
      by_cases hrest : rest = []
      · subst hrest
        rw [follow] at h
        cases h
        -- a part that is no name leads from a folder to a folder
        unfold step at hnot ⊢
        split at hnot
        next => rw [hdone] at hnot; cases hnot
        next hname =>
          split at hnot
          next =>
            have hup : (done.drop 1).reverse <+: done.reverse := by
              rw [List.reverse_prefix]
              exact List.drop_suffix 1 done
            rw [leadsToFolder_of_below hup hdone] at hnot
            cases hnot
          next hup =>
            rw [if_neg hname, if_neg hup]
            simp
      · rw [ih hrest h]
        cases rest with
        | nil => exact absurd rfl hrest
        | cons next rest => rfl
    next => cases h

theorem languageOf?_of_way? {fs : FileSystem} {path : String} {way : List String}
    (hway : fs.way? path = some way) {found : Entry} (hfind : fs.root.find? way = some found)
    (hfile : found.isFile = true) :
    languageOf? (way.getLastD "") = languageOf? path := by
  unfold way? at hway
  split at hway
  next => cases hway
  next =>
    rw [getLastD_of_follow (parts_ne_nil path) hway hfind hfile, ← languageOf?_baseName path,
      baseName]

/-- Two trees with the same folders and with the same files in known languages. They may differ in
other files, so in those with settings. -/
structure SameSources (fs fs' : FileSystem) : Prop where
  isProper : fs.root.isProper = true
  isProper' : fs'.root.isProper = true
  current : fs.current = fs'.current
  folders : ∀ way, leadsToFolder fs.root way = leadsToFolder fs'.root way
  sources : ∀ way file, (languageOf? (way.getLastD "")).isSome = true → file.isFile = true →
    (fs.root.find? way = some file ↔ fs'.root.find? way = some file)

namespace SameSources

variable {fs fs' : FileSystem}

theorem refl (h : fs.root.isProper = true) : fs.SameSources fs :=
  ⟨h, h, rfl, fun _ => rfl, fun _ _ _ _ => Iff.rfl⟩

theorem symm (h : fs.SameSources fs') : fs'.SameSources fs :=
  ⟨h.isProper', h.isProper, h.current.symm, fun way => (h.folders way).symm,
    fun way file hknown hfile => (h.sources way file hknown hfile).symm⟩

theorem way?_eq (h : fs.SameSources fs') (path : String) : fs.way? path = fs'.way? path := by
  have hfollow : ∀ done parts, follow fs.root done parts = follow fs'.root done parts := by
    intro done parts
    induction parts generalizing done with
    | nil => rfl
    | cons part rest ih => rw [follow_cons, follow_cons, h.folders, ih]
  rw [way?, way?, h.current, hfollow]

theorem checkPath_eq (h : fs.SameSources fs') (path : String) :
    fs.checkPath path = fs'.checkPath path := by
  have hmeets : ∀ done parts,
      meetsLongName fs.root done parts = meetsLongName fs'.root done parts := by
    intro done parts
    induction parts generalizing done with
    | nil => rfl
    | cons part rest ih => rw [meetsLongName_cons, meetsLongName_cons, h.folders, ih]
  rw [checkPath, checkPath, isTooLong, isTooLong, h.current, hmeets]

theorem find?_folder (h : fs.SameSources fs') {path : String} {entries : List (String × Entry)}
    (hfolder : fs.find? path = some (.folder entries)) :
    ∃ entries', fs'.find? path = some (.folder entries') := by
  obtain ⟨way, hway, hfind⟩ := Option.bind_eq_some_iff.1 hfolder
  have hleads := leadsToFolder_iff.2 ⟨entries, hfind⟩
  rw [h.folders] at hleads
  obtain ⟨entries', hfind'⟩ := leadsToFolder_iff.1 hleads
  exact ⟨entries', Option.bind_eq_some_iff.2 ⟨way, h.way?_eq path ▸ hway, hfind'⟩⟩

theorem find?_file (h : fs.SameSources fs') {path : String}
    (hknown : (languageOf? path).isSome = true) {file : Entry} (hfile : file.isFile = true)
    (hfind : fs.find? path = some file) : fs'.find? path = some file := by
  obtain ⟨way, hway, hroot⟩ := Option.bind_eq_some_iff.1 hfind
  rw [← languageOf?_of_way? hway hroot hfile] at hknown
  exact Option.bind_eq_some_iff.2
    ⟨way, h.way?_eq path ▸ hway, (h.sources way file hknown hfile).1 hroot⟩

end SameSources

end FileSystem

namespace Engine

open FileSystem

variable {e : Engine} {fs fs' : FileSystem} {target : String}

/-- Where there is no file, nothing is found. -/
theorem findings_scanFile_of_no_file {path : String}
    (hnone : ∀ file, file.isFile = true → fs.find? path ≠ some file) :
    (e.scanFile fs path).findings = [] := by
  have herror : ∃ failure, contentOf fs path = .error failure := by
    unfold contentOf readBytes
    cases fs.checkPath path with
    | error failure => exact ⟨failure, rfl⟩
    | ok =>
      cases hfind : fs.find? path with
      | none => exact ⟨_, rfl⟩
      | some found =>
        cases found with
        | folder entries => exact ⟨_, rfl⟩
        | file bytes => exact absurd hfind (hnone _ rfl)
        | locked size => exact absurd hfind (hnone _ rfl)
  obtain ⟨failure, herror⟩ := herror
  unfold scanFile
  rw [herror]
  cases languageOf? path with
  | none => rfl
  | some language => cases failure <;> rfl

theorem findings_scanFile_of_sameSources (h : fs.SameSources fs') (path : String) :
    (e.scanFile fs path).findings = (e.scanFile fs' path).findings := by
  cases hlanguage : languageOf? path with
  | none =>
    unfold scanFile
    rw [hlanguage]
  | some language =>
    have hknown : (languageOf? path).isSome = true := by rw [hlanguage]; rfl
    by_cases hthere : ∃ file : Entry, file.isFile = true ∧ fs.find? path = some file
    · obtain ⟨file, hfile, hfind⟩ := hthere
      have hcontent : contentOf fs path = contentOf fs' path := by
        unfold contentOf readBytes
        rw [h.checkPath_eq, hfind, h.find?_file hknown hfile hfind]
        cases file <;> rfl
      rw [scanFile_congr e hcontent]
    · rw [findings_scanFile_of_no_file fun file hfile hfind => hthere ⟨file, hfile, hfind⟩,
        findings_scanFile_of_no_file fun file hfile hfind =>
          hthere ⟨file, hfile, h.symm.find?_file hknown hfile hfind⟩]

/-- A target that is no folder is scanned by itself. -/
theorem findings_of_no_folder (hno : ∀ entries, fs.find? (plain target) ≠ some (.folder entries))
    {paths : List String} (hfound : e.discover fs target = .ok paths) :
    (paths.flatMap fun p => (e.scanFile fs p).findings) =
      (e.scanFile fs (plain target)).findings := by
  cases hfind : fs.find? (plain target) with
  | none =>
    rw [discover, hfind] at hfound
    cases hfound
    rw [findings_scanFile_of_no_file (by simp [hfind])]
    rfl
  | some found =>
    have hfile : found.isFile = true := by
      cases found with
      | folder entries => exact absurd hfind (hno entries)
      | file bytes => rfl
      | locked size => rfl
    rw [discover_of_file e hfind hfile] at hfound
    cases hfound
    exact List.flatMap_singleton ..

theorem taken_of_sameSources (h : fs.SameSources fs') {entries entries' : List (String × Entry)}
    (hfolder : fs.find? (plain target) = some (.folder entries))
    (hfolder' : fs'.find? (plain target) = some (.folder entries')) {current way : List String}
    (htaken : Discovery.Taken (e.sieve current target) (plain target) (.folder entries) way) :
    Discovery.Taken (e.sieve current target) (plain target) (.folder entries') way := by
  rw [Discovery.taken_iff_unignored _ rfl] at htaken ⊢
  obtain ⟨size, hat, hspared, hincluded, hfits, hknown⟩ := htaken
  refine ⟨size, ?_, hspared, hincluded, hfits, hknown⟩
  have hne := Discovery.ne_nil_of_sizeAt? rfl hat
  obtain ⟨file, hfind, hsize⟩ := Entry.sizeAt?_eq_some_iff.1 hat
  obtain ⟨start, hstart, hroot⟩ := Option.bind_eq_some_iff.1 hfolder
  obtain ⟨start', hstart', hroot'⟩ := Option.bind_eq_some_iff.1 hfolder'
  rw [← h.way?_eq, hstart] at hstart'
  cases hstart'
  have hnames := (Entry.isProper_of_find? (isSpeakable_of_find? h.isProper hfolder).1 hfind).2
  have hlast : (start ++ way).getLastD "" = way.getLastD "" := by
    rw [List.getLastD_eq_getLast?, List.getLastD_eq_getLast?, List.getLast?_append_of_ne_nil _ hne]
  rw [sieve_known, ← languageOf?_baseName, baseName_joinAll _ hne hnames, ← hlast] at hknown
  have hthere : fs.root.find? (start ++ way) = some file := by
    rw [Entry.find?_append, hroot]
    exact hfind
  have hthere' := (h.sources _ file hknown (Option.isSome_of_eq_some hsize)).1 hthere
  rw [Entry.find?_append, hroot'] at hthere'
  exact Entry.sizeAt?_eq_some_iff.2 ⟨file, hthere', hsize⟩

theorem discover_of_sameSources (h : fs.SameSources fs') {entries entries' : List (String × Entry)}
    (hfolder : fs.find? (plain target) = some (.folder entries))
    (hfolder' : fs'.find? (plain target) = some (.folder entries')) {paths paths' : List String}
    (hfound : e.discover fs target = .ok paths) (hfound' : e.discover fs' target = .ok paths') :
    paths = paths' := by
  obtain ⟨-, rfl⟩ := (discover_eq_ok_iff hfolder).1 hfound
  obtain ⟨-, rfl⟩ := (discover_eq_ok_iff hfolder').1 hfound'
  obtain ⟨ways, hways, hordered, htaken⟩ := Discovery.exists_ways_taken (e.sieve fs.current target)
    (isSpeakable_of_find? h.isProper hfolder).1 rfl (plain target)
  obtain ⟨ways', hways', hordered', htaken'⟩ := Discovery.exists_ways_taken
    (e.sieve fs'.current target) (isSpeakable_of_find? h.isProper' hfolder').1 rfl (plain target)
  have hsame : ways = ways' := by
    refine Discovery.eq_of_earlier hordered hordered' fun way => ?_
    rw [htaken, htaken', h.current]
    exact ⟨taken_of_sameSources h hfolder hfolder', taken_of_sameSources h.symm hfolder' hfolder⟩
  rw [hways, hways', hsame]

/-- Neither the number of workers nor files in no known language make a difference to what a scan
finds. -/
theorem findings_of_sameSources (h : fs.SameSources fs') {workers : Datum} {r r' : ScanResult}
    (hscan : e.scan fs target = .ok r)
    (hscan' : { e with maxWorkers := workers }.scan fs' target = .ok r') :
    r.findings = r'.findings := by
  obtain ⟨paths, hfound⟩ := exists_discover_of_scan hscan
  obtain ⟨paths', hfound'⟩ := exists_discover_of_scan hscan'
  obtain ⟨-, -, rfl⟩ := (scan_eq_ok_iff hfound).1 hscan
  obtain ⟨-, -, rfl⟩ := (scan_eq_ok_iff hfound').1 hscan'
  have hfile : { e with maxWorkers := workers }.scanFile fs' = e.scanFile fs' :=
    scanFile_congr_engine rfl rfl rfl
  have hdiscover : { e with maxWorkers := workers }.discover fs' target = e.discover fs' target :=
    discover_congr rfl rfl rfl
  rw [hdiscover] at hfound'
  simp only [resultOf, List.flatMap_map, hfile]
  refine congrArg Finding.sort ?_
  by_cases hfolder : ∃ entries, fs.find? (plain target) = some (.folder entries)
  · obtain ⟨entries, hfolder⟩ := hfolder
    obtain ⟨entries', hfolder'⟩ := h.find?_folder hfolder
    rw [discover_of_sameSources h hfolder hfolder' hfound hfound']
    exact List.flatMap_congr fun p _ => findings_scanFile_of_sameSources h p
  · rw [findings_of_no_folder (fun entries hentries => hfolder ⟨entries, hentries⟩) hfound,
      findings_of_no_folder (fun entries hentries => hfolder (h.symm.find?_folder hentries))
        hfound', findings_scanFile_of_sameSources h]

end Engine

end QueryLint
