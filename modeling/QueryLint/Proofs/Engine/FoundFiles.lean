import Mathlib.Data.List.Infix
import QueryLint.Proofs.Engine.Walk
import QueryLint.Proofs.Glob

/-!
# Which files are found

The files below a folder that an engine finds are the ones that its settings ask for, each once
and in the order of a walk. Whether a pattern matches is asked about the names on the way from the
target, with slashes between them, and about the last name. A byte of a name that is not part of
a character is a half of a pair there, and patterns may hold such halves too.
-/

namespace QueryLint

/-- A setting that lists these patterns, and nothing else. -/
def Datum.Lists (d : Datum) (patterns : List String) : Prop := d.items = .ok (patterns.map .text)

theorem Datum.isFilled_of_items {d : Datum} {items : List Datum} (h : d.items = .ok items) :
    d.isFilled = true ↔ items ≠ [] := by
  cases d <;> simp only [Datum.items, Except.ok.injEq, reduceCtorEq] at h
  all_goals
    subst h
    simp [Datum.isFilled]

namespace Patterns

theorem ofItems_map_text (patterns : List String) :
    ofItems (patterns.map .text) = ⟨patterns, none⟩ := by
  induction patterns with
  | nil => rfl
  | cons p patterns ih => simp [ofItems, ih]

theorem ofDatum_of_lists {d : Datum} {patterns : List String} (h : d.Lists patterns) :
    ofDatum d = ⟨patterns, none⟩ := by
  rw [ofDatum, h]
  exact ofItems_map_text patterns

/-- One of the patterns stands for the names on a way from the target, or for the last of them. -/
def Hit (patterns way : List String) : Prop :=
  ∃ p ∈ patterns, Glob.Matches p (Text.joinWith "/" way) ∨ Glob.Matches p (way.getLastD "")

theorem hit_iff (patterns way : List String) :
    hit patterns (Text.joinWith "/" way) (way.getLastD "") = true ↔ Hit patterns way := by
  simp [hit, Hit, Glob.matchesName_iff]

instance (patterns way : List String) : Decidable (Hit patterns way) :=
  decidable_of_iff _ (hit_iff patterns way)

/-- Neither a folder on a way nor what lies at its end is hit. -/
def Spares (patterns way : List String) : Prop := ∀ v, v ≠ [] → v <+: way → ¬ Hit patterns v

instance (patterns way : List String) : Decidable (Spares patterns way) :=
  decidable_of_iff (∀ v ∈ way.inits, v ≠ [] → ¬ Hit patterns v) <| by
    simp only [List.mem_inits, Spares]
    exact forall_congr' fun v => forall_comm

end Patterns

namespace Engine

open Patterns QueryLint.Path

section

variable {e : Engine} {current way : List String} {target : String}

theorem ignores_joinAll (e : Engine) (current : List String) (target : String) (hne : way ≠ [])
    (hnames : ∀ name ∈ way, isName name = true) :
    e.ignores current (joinAll (plain target) way) target =
      (ofDatum e.ignorePatterns).ask (Text.joinWith "/" way) (way.getLastD "") := by
  rw [ignores, relative_joinAll current (resolve_plain current target) hne hnames,
    baseName_joinAll (plain target) hne hnames]
  rfl

theorem includes_joinAll (e : Engine) (current : List String) (target : String) (hne : way ≠ [])
    (hnames : ∀ name ∈ way, isName name = true) :
    e.includes current (joinAll (plain target) way) target =
      if e.includePatterns.isFilled then
        (ofDatum e.includePatterns).ask (Text.joinWith "/" way) (way.getLastD "")
      else .ok true := by
  rw [includes, relative_joinAll current (resolve_plain current target) hne hnames,
    baseName_joinAll (plain target) hne hnames]
  cases e.includePatterns.isFilled <;> rfl

theorem ignores_of_lists {ignore : List String} (hlist : e.ignorePatterns.Lists ignore)
    (hne : way ≠ []) (hnames : ∀ name ∈ way, isName name = true) :
    e.ignores current (joinAll (plain target) way) target = .ok (decide (Hit ignore way)) := by
  rw [ignores_joinAll e current target hne hnames, ofDatum_of_lists hlist, ask]
  by_cases hhit : Hit ignore way
  · rw [if_pos ((hit_iff ignore way).2 hhit), decide_eq_true hhit]
  · rw [if_neg (mt (hit_iff ignore way).1 hhit), decide_eq_false hhit]

theorem includes_of_lists {include_ : List String}
    (hlist : (e.includePatterns.orElse (.list [])).Lists include_) (hne : way ≠ [])
    (hnames : ∀ name ∈ way, isName name = true) :
    e.includes current (joinAll (plain target) way) target =
      .ok (decide (include_ = [] ∨ Hit include_ way)) := by
  rw [includes_joinAll e current target hne hnames]
  rw [Datum.orElse] at hlist
  split
  next hfilled =>
    rw [if_pos hfilled] at hlist
    have hsome : include_ ≠ [] := by simpa using (Datum.isFilled_of_items hlist).1 hfilled
    rw [ofDatum_of_lists hlist, ask]
    by_cases hhit : Hit include_ way
    · rw [if_pos ((hit_iff include_ way).2 hhit), decide_eq_true (.inr hhit)]
    · rw [if_neg (mt (hit_iff include_ way).1 hhit), decide_eq_false (by simp [hsome, hhit])]
  next hempty =>
    rw [if_neg hempty, Datum.Lists, Datum.items] at hlist
    have hnone : include_ = [] := by simpa using (Except.ok.inj hlist).symm
    rw [decide_eq_true (.inl hnone)]

end

/-- A number can be compared with a size. -/
theorem exists_isExceededBy {limit : Datum} (h : Registry.isNumber limit = true) (size : Nat) :
    ∃ b, limit.isExceededBy size = .ok b := by
  cases limit with
  | float x => cases x <;> simp [Datum.isExceededBy, Datum.fraction?]
  | int n => simp [Datum.isExceededBy, Datum.fraction?]
  | bool b => simp [Datum.isExceededBy, Datum.fraction?]
  | _ => cases h

theorem isExceededBy_int_iff (limit : Int) (size : Nat) :
    (Datum.int limit).isExceededBy size = .ok false ↔ (size : Int) ≤ limit := by
  simp [Datum.isExceededBy, Datum.fraction?]

theorem forM_eq_ok_iff {α : Type} {f : α → Except Failure Unit} {xs : List α} :
    xs.forM f = .ok () ↔ ∀ x ∈ xs, f x = .ok () := by
  induction xs with
  | nil => simp [pure, Except.pure]
  | cons x xs ih =>
    have hcons : (x :: xs).forM f = f x >>= fun _ => xs.forM f := rfl
    rw [hcons, bind_eq_ok_iff, List.forall_mem_cons, ← ih]
    constructor
    · rintro ⟨⟨⟩, hx, hxs⟩
      exact ⟨hx, hxs⟩
    · rintro ⟨hx, hxs⟩
      exact ⟨(), hx, hxs⟩

/-- What the settings of an engine ask of the files below a target. Without patterns of what to
include everything is. -/
structure Choice where
  ignore : List String
  include_ : List String
  /-- A number that the size of a file must not exceed. -/
  limit : Datum

/-- A file of the given size at the end of a way is asked for. -/
structure Choice.Takes (c : Choice) (way : List String) (size : Nat) : Prop where
  spared : Spares c.ignore way
  included : c.include_ = [] ∨ Hit c.include_ way
  fits : c.limit.isExceededBy size = .ok false
  isSource : Text.lower (extension (way.getLastD "")) ∈ [".py", ".pyw"]

/-- The settings of an engine are well-formed and ask for these files. -/
structure Asks (e : Engine) (c : Choice) : Prop where
  ignore : e.ignorePatterns.Lists c.ignore
  include_ : (e.includePatterns.orElse (.list [])).Lists c.include_
  limit : e.maxFileSize = c.limit
  isNumber : Registry.isNumber c.limit = true

section

variable {e : Engine} {fs : FileSystem} {target : String} {entries : List (String × Entry)}

theorem discover_eq_ok_iff (hfolder : fs.find? (plain target) = some (.folder entries))
    {paths : List String} :
    e.discover fs target = .ok paths ↔
      (∀ s ∈ Discovery.walk (e.sieve fs.current target) (plain target) (.folder entries),
        e.checkStop fs.current target s = .ok ()) ∧
      Discovery.files (e.sieve fs.current target) (plain target) (.folder entries) = paths := by
  rw [discover, hfolder]
  dsimp only
  rw [bind_eq_ok_iff, ← forM_eq_ok_iff]
  constructor
  · rintro ⟨⟨⟩, hchecks, hfiles⟩
    exact ⟨hchecks, Except.ok.inj hfiles⟩
  · rintro ⟨hchecks, rfl⟩
    exact ⟨(), hchecks, rfl⟩

theorem languageOf?_baseName (path : String) :
    languageOf? (baseName path) = languageOf? path := by
  rw [languageOf?, languageOf?, extension, extension, baseName_baseName]

/-- A file is in a known language by the end of its name. -/
theorem languageOf?_isSome_iff {way : List String} (hne : way ≠ [])
    (hnames : ∀ name ∈ way, isName name = true) (folder : String) :
    (languageOf? (joinAll folder way)).isSome = true ↔
      Text.lower (extension (way.getLastD "")) ∈ [".py", ".pyw"] := by
  rw [← languageOf?_baseName, baseName_joinAll folder hne hnames, languageOf?,
    Language.ofExtension?, List.find?_isSome]
  constructor
  · rintro ⟨⟨⟩, -, hknown⟩
    exact List.contains_iff_mem.1 hknown
  · intro hknown
    exact ⟨.python, List.mem_singleton.2 rfl, List.contains_iff_mem.2 hknown⟩

theorem sieve_ignored (current : List String) (path : String) :
    (e.sieve current target).ignored path = decided (e.ignores current path target) := rfl

theorem sieve_included (current : List String) (path : String) :
    (e.sieve current target).included path = decided (e.includes current path target) := rfl

theorem sieve_fits (current : List String) (path : String) (size : Nat) :
    (e.sieve current target).fits path size =
      (!isOverlong path && !decided (e.maxFileSize.isExceededBy size)) := rfl

theorem sieve_known (current : List String) (path : String) :
    (e.sieve current target).known path = (languageOf? path).isSome := by
  simp only [sieve]

theorem taken_iff {c : Choice} (hasks : e.Asks c) {folder : Entry}
    (hproper : folder.isProper = true) (hfolder : Discovery.isFolder folder = true)
    (current way : List String) :
    Discovery.Taken (e.sieve current target) (plain target) folder way ↔
      ∃ size, folder.sizeAt? way = some size ∧ c.Takes way size ∧
        byteSize (joinAll (plain target) way) ≤ maxPathSize := by
  rw [Discovery.taken_iff_unignored _ hfolder]
  refine exists_congr fun size => and_congr_right fun hsize => ?_
  obtain ⟨found, hfind, -⟩ := Entry.sizeAt?_eq_some_iff.1 hsize
  have hnames := (Entry.isProper_of_find? hproper hfind).2
  have hne := Discovery.ne_nil_of_sizeAt? hfolder hsize
  have hspared : (∀ v, v ≠ [] → v <+: way →
      (e.sieve current target).ignored (joinAll (plain target) v) = false) ↔
        Spares c.ignore way := by
    refine forall₃_congr fun v hv hbefore => ?_
    rw [sieve_ignored, ignores_of_lists hasks.ignore hv fun name h => hnames name (hbefore.mem h)]
    simp [decided]
  have hincluded : (e.sieve current target).included (joinAll (plain target) way) = true ↔
      c.include_ = [] ∨ Hit c.include_ way := by
    rw [sieve_included, includes_of_lists hasks.include_ hne hnames]
    simp [decided]
  have hfits : (e.sieve current target).fits (joinAll (plain target) way) size = true ↔
      byteSize (joinAll (plain target) way) ≤ maxPathSize ∧
        c.limit.isExceededBy size = .ok false := by
    obtain ⟨exceeded, hexceeded⟩ := exists_isExceededBy hasks.isNumber size
    rw [sieve_fits, hasks.limit, hexceeded]
    simp [decided, isOverlong]
  have hknown : (e.sieve current target).known (joinAll (plain target) way) = true ↔
      Text.lower (extension (way.getLastD "")) ∈ [".py", ".pyw"] := by
    rw [sieve_known, languageOf?_isSome_iff hne hnames]
  rw [hspared, hincluded, hfits, hknown]
  constructor
  · rintro ⟨spared, included, ⟨hshort, fits⟩, isSource⟩
    exact ⟨⟨spared, included, fits, isSource⟩, hshort⟩
  · rintro ⟨htakes, hshort⟩
    exact ⟨htakes.spared, htakes.included, ⟨hshort, htakes.fits⟩, htakes.isSource⟩

/-- With well-formed settings no test fails. -/
theorem checkStop_eq_ok {c : Choice} (hasks : e.Asks c) (current : List String)
    {way : List String} (hne : way ≠ []) (hnames : ∀ name ∈ way, isName name = true)
    (found : Entry) :
    e.checkStop current target (.of (joinAll (plain target) way) found) = .ok () := by
  unfold Discovery.Stop.of
  cases found.size? with
  | none =>
    dsimp only
    rw [checkStop, ignores_of_lists hasks.ignore hne hnames]
    rfl
  | some size =>
    obtain ⟨exceeded, hexceeded⟩ := exists_isExceededBy hasks.isNumber size
    dsimp only
    rw [checkStop, ignores_of_lists hasks.ignore hne hnames,
      includes_of_lists hasks.include_ hne hnames, hasks.limit, hexceeded]
    cases decide (Hit c.ignore way) <;>
      cases decide (c.include_ = [] ∨ Hit c.include_ way) <;>
        cases isOverlong (joinAll (plain target) way) <;> rfl

theorem discover_of_asks {c : Choice} (hasks : e.Asks c) (htree : fs.root.isProper = true)
    (hfolder : fs.find? (plain target) = some (.folder entries)) :
    e.discover fs target =
      .ok (Discovery.files (e.sieve fs.current target) (plain target) (.folder entries)) := by
  obtain ⟨hproper, -⟩ := FileSystem.isSpeakable_of_find? htree hfolder
  refine (discover_eq_ok_iff hfolder).2 ⟨fun s hs => ?_, rfl⟩
  obtain ⟨way, found, hne, hfind, -, rfl⟩ :=
    (Discovery.mem_walk_iff _ _ hproper rfl (plain target) s).1 hs
  exact checkStop_eq_ok hasks fs.current hne (Entry.isProper_of_find? hproper hfind).2 found

theorem mem_discover_iff {c : Choice} (hasks : e.Asks c) (htree : fs.root.isProper = true)
    (hfolder : fs.find? (plain target) = some (.folder entries)) {paths : List String}
    (hfound : e.discover fs target = .ok paths) {way : List String}
    (hnames : ∀ name ∈ way, isName name = true) :
    joinAll (plain target) way ∈ paths ↔
      ∃ size, (Entry.folder entries).sizeAt? way = some size ∧
        c.Takes way size ∧ byteSize (joinAll (plain target) way) ≤ maxPathSize := by
  obtain ⟨hproper, -⟩ := FileSystem.isSpeakable_of_find? htree hfolder
  obtain ⟨-, rfl⟩ := (discover_eq_ok_iff hfolder).1 hfound
  rw [Discovery.mem_files_iff _ hproper rfl _ hnames, taken_iff hasks hproper rfl]

/-- The files below a folder are found exactly if they are asked for and their paths are not too
long: if neither the file nor a folder on the way is ignored, the file is included, not too large
and in a known language. Each is found once, and the files of a folder come by name and before
those of its folders, which follow by name. -/
theorem discover_finds_what_is_asked {c : Choice} (hasks : e.Asks c)
    (htree : fs.root.isProper = true)
    (hfolder : fs.find? (plain target) = some (.folder entries)) :
    ∃ ways : List (List String),
      e.discover fs target = .ok (ways.map (joinAll (plain target))) ∧
        (ways.map (joinAll (plain target))).Nodup ∧ ways.Pairwise Discovery.Earlier ∧
        ∀ way, way ∈ ways ↔ ∃ size, (Entry.folder entries).sizeAt? way = some size ∧
          c.Takes way size ∧ byteSize (joinAll (plain target) way) ≤ maxPathSize := by
  obtain ⟨hproper, -⟩ := FileSystem.isSpeakable_of_find? htree hfolder
  obtain ⟨ways, hfiles, hordered, htaken⟩ :=
    Discovery.exists_ways_taken (e.sieve fs.current target) hproper rfl (plain target)
  have hfound : e.discover fs target = .ok (ways.map (joinAll (plain target))) := by
    rw [discover_of_asks hasks htree hfolder, hfiles]
  refine ⟨ways, hfound, (nodup_of_discover htree hfound).1, hordered, fun way => ?_⟩
  rw [htaken, taken_iff hasks hproper rfl]

end

/-- A file is found in one folder, and none in a folder that is ignored, nor one that is too large
or in no known language. -/
theorem discover_finds_file_in_folder :
    let source := Entry.file (List.replicate 8 120)
    let entries := [("large.py", Entry.file (List.replicate 11 120)),
      ("lib", .folder [("c.PY", source)]), ("notes.txt", source),
      ("venv", .folder [("d.py", source)])]
    let fs : FileSystem := ⟨.folder entries, []⟩
    let e : Engine := ⟨.int 10, .int 4, .texts ["venv"], .null, .info, [], .usual⟩
    let c : Choice := ⟨["venv"], [], .int 10⟩
    e.Asks c ∧ fs.root.isProper = true ∧ fs.find? (plain ".") = some (.folder entries) ∧
      ∃ ways : List (List String), e.discover fs "." = .ok (ways.map (joinAll (plain "."))) ∧
        ["lib", "c.PY"] ∈ ways ∧ ["large.py"] ∉ ways ∧ ["notes.txt"] ∉ ways ∧
        ["venv", "d.py"] ∉ ways := by
  intro source entries fs e c
  have hasks : e.Asks c := ⟨rfl, rfl, rfl, rfl⟩
  have htree : fs.root.isProper = true := by decide +kernel
  have hplain : plain "." = "." := rfl
  have hfolder : fs.find? (plain ".") = some (.folder entries) := by
    rw [hplain]
    rfl
  obtain ⟨ways, hfound, -, -, hmem⟩ := discover_finds_what_is_asked hasks htree hfolder
  refine ⟨hasks, htree, hfolder, ways, hfound, ?_, ?_, ?_, ?_⟩
  · exact (hmem _).2 ⟨_, rfl, ⟨by decide +kernel, .inl rfl,
      (isExceededBy_int_iff 10 8).2 (by decide), by decide +kernel⟩, by decide +kernel⟩
  · intro hlarge
    obtain ⟨size, hsize, htakes, -⟩ := (hmem _).1 hlarge
    cases hsize
    exact absurd ((isExceededBy_int_iff 10 11).1 htakes.fits) (by decide)
  · intro hnotes
    obtain ⟨size, -, htakes, -⟩ := (hmem _).1 hnotes
    exact absurd htakes.isSource (by decide +kernel)
  · intro hvenv
    obtain ⟨size, -, htakes, -⟩ := (hmem _).1 hvenv
    exact absurd htakes.spared (by decide +kernel)

/-- A file that is asked for is not found where the path to it is too long: the target goes many
times into the folder of the file and back. -/
theorem discover_misses_overlong_path :
    let steps := (List.replicate 790 ["d", ".."]).flatten ++ ["d"]
    let target := Text.joinWith "/" steps
    let name := String.ofList (List.replicate 200 'a' ++ ['.', 'p', 'y'])
    let fs : FileSystem := ⟨.folder [("d", .folder [(name, .file [])])], []⟩
    let e : Engine := ⟨.int 10, .int 4, .texts [], .null, .info, [], .usual⟩
    let c : Choice := ⟨[], [], .int 10⟩
    e.Asks c ∧ fs.root.isProper = true ∧
      fs.find? (plain target) = some (.folder [(name, .file [])]) ∧ c.Takes [name] 0 ∧
      ∃ paths, e.discover fs target = .ok paths ∧ joinAll (plain target) [name] ∉ paths := by
  intro steps target name fs e c
  have hsteps : ∀ step ∈ steps, '/' ∉ step.toList ∧ step ≠ "" ∧ step ≠ "." := by
    intro step hstep
    have heither : step = "d" ∨ step = ".." := by
      simp only [steps, List.mem_append, List.mem_flatten, List.mem_replicate] at hstep
      obtain ⟨_, ⟨-, rfl⟩, hstep⟩ | hstep := hstep
      · simpa using hstep
      · exact .inl (by simpa using hstep)
    obtain rfl | rfl := heither <;> decide
  have hne : steps ≠ [] := List.append_ne_nil_of_right_ne_nil _ (List.cons_ne_nil _ _)
  have hslash := fun step hstep => (hsteps step hstep).1
  have hkept := fun step hstep => (hsteps step hstep).2
  -- The texts are too long to be evaluated, so their characters are put in their places.
  have hchars : name.toList = List.replicate 200 'a' ++ ['.', 'p', 'y'] := String.toList_ofList
  have htext : target.toList = List.intercalate ['/'] (steps.map String.toList) :=
    String.toList_ofList
  have hname : isName name = true := by
    rw [isName, isSpeakable, hchars]
    decide +kernel
  have hplain : plain target = target := plain_joinWith hne hslash hkept
  have hfolder : fs.find? (plain target) = some (.folder [(name, .file [])]) := by
    rw [hplain, fs.find?_joinWith hne hslash hkept,
      FileSystem.follow_there_and_back (by decide +kernel) rfl rfl]
    rfl
  have hasks : e.Asks c := ⟨rfl, rfl, rfl, rfl⟩
  have htree : fs.root.isProper = true := by
    have hd : isName "d" = true := by decide +kernel
    simp [fs, Entry.isProper, Entry.areProper, hname, hd]
  have htakes : c.Takes [name] 0 := by
    have hbase : baseName name = name := by simp [baseName, parts, cutAt_of_isName hname]
    refine ⟨fun v _ _ => ?_, .inl rfl, rfl, ?_⟩
    · rintro ⟨_, ⟨⟩, -⟩
    · simp only [List.getLastD_cons, List.getLastD_nil, extension, hbase, hchars]
      decide +kernel
  have hlong : maxPathSize < byteSize (joinAll (plain target) [name]) := by
    have hlengths : target.toList.length + name.toList.length = 4154 := by
      rw [htext, hchars]
      decide +kernel
    rw [hplain, joinAll_cons, joinAll_nil, maxPathSize]
    exact lt_of_lt_of_le (by omega) (length_add_length_le_byteSize hname)
  have hfound := discover_of_asks hasks htree hfolder
  refine ⟨hasks, htree, hfolder, htakes, _, hfound, fun hmem => ?_⟩
  obtain ⟨-, -, -, hshort⟩ :=
    (mem_discover_iff hasks htree hfolder hfound (by simpa using hname)).1 hmem
  exact absurd hlong (Nat.not_lt.2 hshort)

end Engine

end QueryLint
