import QueryLint.Engine.Scan
import QueryLint.Proofs.FileTree

/-!
# The files that are found

A walk through a proper tree comes across each file once: paths below a folder go on with the
name of something in it, and what comes after the name is a slash or nothing. So no file is
scanned twice, and every path that is found can be handed on.
-/

namespace QueryLint

namespace Discovery

open QueryLint.Path

/-- The path of a file that the walk comes across. -/
def Stop.file? : Stop → Option String
  | .file path _ => some path
  | .folder _ => none

theorem file?_of_accept? {sieve : Sieve} {s : Stop} {path : String}
    (h : accept? sieve s = some path) : s.file? = some path := by
  cases s with
  | folder path => cases h
  | file path size =>
    rw [accept?] at h
    split at h
    · exact h
    · cases h

@[simp] theorem isFolder_file (bytes : List UInt8) : isFolder (.file bytes) = false := rfl

theorem byName_perm {α : Type} (items : List (String × α)) : (byName items).Perm items :=
  List.mergeSort_perm items _

theorem byName_of_pairwise {α : Type} {items : List (String × α)}
    (h : items.Pairwise fun a b => Text.comesNoLater a.1 b.1 = true) : byName items = items :=
  List.mergeSort_of_pairwise h

theorem walkFolders_eq (sieve : Sieve) (path : String) (entries : List (String × Entry)) :
    walkFolders sieve path entries =
      (entries.filter fun x => isFolder x.2 && !sieve.ignored (join path x.1)).map
        fun x => (x.1, walk sieve (join path x.1) x.2) := by
  induction entries with
  | nil => simp [walkFolders]
  | cons x entries ih =>
    obtain ⟨name, e⟩ := x
    rw [walkFolders, ih, List.filter_cons]
    split <;> simp

/-- The paths of the files in a folder itself. -/
def ownFiles (path : String) (entries : List (String × Entry)) : List String :=
  ((byName entries).filter (·.2.isFile)).map fun x => join path x.1

theorem filterMap_file?_walk (sieve : Sieve) (path : String) (entries : List (String × Entry)) :
    (walk sieve path (.folder entries)).filterMap Stop.file? =
      ownFiles path entries ++
        (byName (walkFolders sieve path entries)).flatMap fun x => x.2.filterMap Stop.file? := by
  have hfolders : (folderStops path entries).filterMap Stop.file? = [] := by
    rw [folderStops, List.filterMap_map, List.filterMap_eq_nil_iff]
    exact fun x _ => rfl
  have hfiles : (fileStops path entries).filterMap Stop.file? = ownFiles path entries := by
    rw [fileStops, ownFiles, List.filterMap_filterMap, ← List.filterMap_eq_map,
      ← List.filterMap_eq_filter, List.filterMap_filterMap]
    congr 1
    funext x
    obtain ⟨name, e⟩ := x
    cases e <;> rfl
  rw [walk, List.filterMap_append, List.filterMap_append, hfolders, hfiles, List.nil_append,
    List.filterMap_flatMap]

/-- Paths found below a folder: no two of them are the same, and each continues the path of
the folder by characters that a path can hold. -/
structure Below (folder : String) (paths : List String) : Prop where
  nodup : paths.Nodup
  continued : ∀ p ∈ paths, ∃ rest, p.toList = stem folder ++ rest ∧ rest.all isPathChar = true

theorem pairwise_byName {α : Type} {items : List (String × α)}
    (h : (items.map Prod.fst).Nodup) : (byName items).Pairwise fun x y => x.1 ≠ y.1 :=
  List.pairwise_map.1 (((byName_perm items).map Prod.fst).nodup_iff.2 h)

theorem below_ownFiles (path : String) {entries : List (String × Entry)}
    (h : Entry.areProper entries = true) : Below path (ownFiles path entries) := by
  obtain ⟨hnames, hin⟩ := (Entry.areProper_iff entries).1 h
  have hname : ∀ x ∈ byName entries, isName x.1 = true := fun x hx =>
    (hin x ((byName_perm entries).mem_iff.1 hx)).1
  constructor
  · rw [ownFiles, List.Nodup, List.pairwise_map]
    refine ((pairwise_byName hnames).imp_of_mem ?_).filter _
    intro x y hx hy hne hjoin
    exact hne (join_inj (hname x hx) (hname y hy) hjoin)
  · intro p hp
    obtain ⟨x, hx, rfl⟩ := List.mem_map.1 hp
    have hx' := hname x (List.mem_filter.1 hx).1
    exact ⟨x.1.toList, toList_join hx', isSpeakable_of_isName hx'⟩

section

variable {folder name other : String} {paths others : List String}

/-- Paths below something in a folder go on from the folder with its name and a slash. -/
theorem Below.exists_of_join (hname : isName name = true) (h : Below (join folder name) paths)
    {p : String} (hp : p ∈ paths) :
    ∃ rest, p.toList = stem folder ++ (name.toList ++ '/' :: rest) ∧
      rest.all isPathChar = true := by
  obtain ⟨rest, hrest, hchars⟩ := h.continued p hp
  refine ⟨rest, ?_, hchars⟩
  rw [hrest, stem_join hname]
  simp

theorem Below.disjoint (hname : isName name = true) (hother : isName other = true)
    (hne : name ≠ other) (h : Below (join folder name) paths)
    (h' : Below (join folder other) others) : paths.Disjoint others := by
  intro p hp hp'
  obtain ⟨rest, hrest, -⟩ := h.exists_of_join hname hp
  obtain ⟨rest', hrest', -⟩ := h'.exists_of_join hother hp'
  rw [hrest] at hrest'
  have hsame := append_slash_inj (slash_not_mem_of_isName hname) (slash_not_mem_of_isName hother)
    (List.append_cancel_left hrest')
  exact hne (String.toList_inj.1 hsame)

theorem Below.join_not_mem (hname : isName name = true) (hother : isName other = true)
    (h : Below (join folder other) paths) : join folder name ∉ paths := by
  intro hmem
  obtain ⟨rest, hrest, -⟩ := h.exists_of_join hother hmem
  have hslash := slash_not_mem_of_isName hname
  rw [toList_join hname] at hrest
  rw [List.append_cancel_left hrest] at hslash
  simp at hslash

theorem Below.continued_of_join (hname : isName name = true)
    (h : Below (join folder name) paths) {p : String} (hp : p ∈ paths) :
    ∃ rest, p.toList = stem folder ++ rest ∧ rest.all isPathChar = true := by
  obtain ⟨rest, hrest, hchars⟩ := h.exists_of_join hname hp
  have hslash : isPathChar '/' = true := by decide
  refine ⟨_, hrest, ?_⟩
  rw [List.all_append, List.all_cons, hslash, hchars, Bool.and_self, Bool.and_true]
  exact isSpeakable_of_isName hname

end

/-- The files that a walk through a folder of a proper tree comes across are below it. -/
theorem below_walk (sieve : Sieve) (e : Entry) :
    e.isProper = true → isFolder e = true → ∀ path,
      Below path ((walk sieve path e).filterMap Stop.file?) := by
  induction e using Entry.induction with
  | file e hfile =>
    intro _ hfolder
    rw [isFolder, hfile] at hfolder
    cases hfolder
  | folder entries ih =>
    intro hproper _ path
    obtain ⟨hnames, hin⟩ := (Entry.areProper_iff entries).1 hproper
    have hown := below_ownFiles path hproper
    have hsubs : ∀ x ∈ byName (walkFolders sieve path entries),
        isName x.1 = true ∧ Below (join path x.1) (x.2.filterMap Stop.file?) := by
      intro x hx
      rw [(byName_perm _).mem_iff, walkFolders_eq] at hx
      obtain ⟨y, hy, rfl⟩ := List.mem_map.1 hx
      obtain ⟨hmem, htest⟩ := List.mem_filter.1 hy
      exact ⟨(hin y hmem).1, ih y hmem (hin y hmem).2 (Bool.and_eq_true_iff.1 htest).1 _⟩
    have hapart : (byName (walkFolders sieve path entries)).Pairwise fun x y => x.1 ≠ y.1 := by
      refine pairwise_byName ?_
      rw [walkFolders_eq, List.map_map]
      exact hnames.sublist (List.filter_sublist.map _)
    rw [filterMap_file?_walk]
    constructor
    · refine List.nodup_append'.2 ⟨hown.nodup, List.nodup_flatMap.2 ⟨?_, ?_⟩, ?_⟩
      · intro x hx
        exact (hsubs x hx).2.nodup
      · -- two folders have different names, and slashes follow these
        refine hapart.imp_of_mem ?_
        intro x y hx hy hne
        exact (hsubs x hx).2.disjoint (hsubs x hx).1 (hsubs y hy).1 hne (hsubs y hy).2
      · -- no slash follows the name of a file
        intro p hp hsub
        obtain ⟨x, hx, rfl⟩ := List.mem_map.1 hp
        obtain ⟨y, hy, hmem⟩ := List.mem_flatMap.1 hsub
        have hname := (hin x ((byName_perm entries).mem_iff.1 (List.mem_filter.1 hx).1)).1
        exact (hsubs y hy).2.join_not_mem hname (hsubs y hy).1 hmem
    · intro p hp
      obtain hp | hp := List.mem_append.1 hp
      · exact hown.continued p hp
      · obtain ⟨x, hx, hmem⟩ := List.mem_flatMap.1 hp
        exact (hsubs x hx).2.continued_of_join (hsubs x hx).1 hmem

theorem files_sublist (sieve : Sieve) (path : String) (e : Entry) :
    (files sieve path e).Sublist ((walk sieve path e).filterMap Stop.file?) := by
  unfold files
  induction walk sieve path e with
  | nil => exact List.Sublist.refl []
  | cons s stops ih =>
    cases haccept : accept? sieve s with
    | none =>
      rw [List.filterMap_cons_none haccept]
      exact ih.trans ((List.sublist_cons_self s stops).filterMap Stop.file?)
    | some path =>
      rw [List.filterMap_cons_some haccept, List.filterMap_cons_some (file?_of_accept? haccept)]
      exact ih.cons_cons path

end Discovery

namespace Engine

/-- Two steps succeed together exactly if each of them does. -/
theorem bind_eq_ok_iff {α β : Type} {x : Except Failure α} {f : α → Except Failure β} {b : β} :
    x >>= f = .ok b ↔ ∃ a, x = .ok a ∧ f a = .ok b := by
  cases x <;> simp [bind, Except.bind]

theorem eq_ok_of_toOption {α : Type} {x : Except Failure α} {a : α}
    (h : x.toOption = some a) : x = .ok a := by
  cases x with
  | error failure => cases h
  | ok b => exact congrArg Except.ok (Option.some.inj h)

/-- A target that is a file is taken as it is. -/
theorem discover_of_file (e : Engine) {fs : FileSystem} {target : String} {found : Entry}
    (hfound : fs.find? (Path.plain target) = some found) (hfile : found.isFile = true) :
    e.discover fs target = .ok [Path.plain target] := by
  unfold discover
  dsimp only
  rw [hfound]
  cases found with
  | folder entries => cases hfile
  | file bytes => rfl
  | locked size => rfl

/-- In a proper tree every file is found once, under a path that can be handed on. -/
theorem nodup_of_discover {e : Engine} {fs : FileSystem} {target : String}
    {paths : List String} (htree : fs.root.isProper = true)
    (hfound : e.discover fs target = .ok paths) :
    paths.Nodup ∧ ∀ p ∈ paths, Path.isSpeakable p = true := by
  unfold discover at hfound
  dsimp only at hfound
  split at hfound
  next =>
    cases hfound
    simp
  next entries hfolder =>
    obtain ⟨hproper, hpath⟩ := FileSystem.isSpeakable_of_find? htree hfolder
    obtain ⟨-, -, hfiles⟩ := bind_eq_ok_iff.1 hfound
    cases hfiles
    have hbelow := Discovery.below_walk (e.sieve fs.current target) _ hproper rfl
      (Path.plain target)
    have hsub := Discovery.files_sublist (e.sieve fs.current target) (Path.plain target)
      (.folder entries)
    refine ⟨hbelow.nodup.sublist hsub, fun p hp => ?_⟩
    obtain ⟨rest, hrest, hchars⟩ := hbelow.continued p (hsub.mem hp)
    rw [Path.isSpeakable, hrest, List.all_append, hchars, Path.all_stem hpath, Bool.and_self]
  next found _ hfile =>
    cases hfound
    simpa using (FileSystem.isSpeakable_of_find? htree hfile).2

end Engine

end QueryLint
