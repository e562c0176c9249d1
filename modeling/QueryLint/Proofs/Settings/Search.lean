import Mathlib.Data.List.Induction
import Mathlib.Tactic.MkIffOfInductiveProp
import QueryLint.Proofs.Engine.Sources
import QueryLint.Settings.File

/-!
# The nearest settings file

A search for settings starts in the folder of a path, or in the path itself if that is no file, and
goes up to the root. Each step either ends the search or leaves out the last name of the folder, so
that it looks into each folder on the way up once. It finds the file of the earliest name in the
first of these folders that has one, and nothing only if none of them has one. It is made for every
start that can be looked up, and fails for every other one.
-/

namespace QueryLint

open Engine (bind_eq_ok_iff)

/-- The first element of a list that has a property. -/
def IsFirst {α : Type} (p : α → Prop) (xs : List α) (x : α) : Prop :=
  p x ∧ ∃ before after, xs = before ++ x :: after ∧ ∀ y ∈ before, ¬p y

theorem IsFirst.mem {α : Type} {p : α → Prop} {xs : List α} {x : α} (h : IsFirst p xs x) :
    x ∈ xs := by
  obtain ⟨-, before, after, rfl, -⟩ := h
  simp

namespace Entry

/-- In a folder of a tree there is something of this name. -/
def Holds (root : Entry) (folder : List String) (name : String) : Prop :=
  ∃ entries, root.find? folder = some (.folder entries) ∧ name ∈ entries.map Prod.fst

theorem isSome_lookup_iff {entries : List (String × Entry)} {name : String} :
    (entries.lookup name).isSome = true ↔ name ∈ entries.map Prod.fst := by
  rw [List.lookup_isSome_iff, List.mem_map]
  refine exists_congr fun x => and_congr_right fun _ => ?_
  rw [beq_iff_eq, eq_comm]

/-- A way leads somewhere exactly if its last name is in the folder before it. -/
theorem isSome_find?_concat_iff {root : Entry} {folder : List String} {name : String} :
    (root.find? (folder ++ [name])).isSome = true ↔ root.Holds folder name := by
  rw [find?_append, Holds]
  cases root.find? folder with
  | none => simp
  | some e =>
    cases e with
    | file bytes => simp [find?]
    | locked size => simp [find?]
    | folder entries =>
      have hlast : (Entry.folder entries).find? [name] = entries.lookup name := by
        rw [find?]
        cases entries.lookup name <;> rfl
      simp only [Option.bind_some, hlast, isSome_lookup_iff, Option.some.injEq,
        Entry.folder.injEq, exists_eq_left']

instance (root : Entry) (folder : List String) (name : String) :
    Decidable (root.Holds folder name) :=
  decidable_of_iff _ isSome_find?_concat_iff

end Entry

namespace Path

theorem isSpeakable_iff {path : String} :
    isSpeakable path = true ↔ unencodable? path = none ∧ hasNull path = false := by
  refine ⟨fun h => ⟨unencodable?_of_isSpeakable h, hasNull_of_isSpeakable h⟩, ?_⟩
  rintro ⟨hencodable, hnull⟩
  refine List.all_eq_true.2 fun c hc => ?_
  have hchar : c ≠ '\x00' := by
    rintro rfl
    exact Bool.eq_false_iff.1 hnull (List.contains_iff_mem.2 hc)
  have hhalf : (Text.isHalf c && !isByteHalf c) = false := by
    cases hfind : path.toList.findIdx? fun c => Text.isHalf c && !isByteHalf c with
    | none => exact List.findIdx?_eq_none_iff.1 hfind c hc
    | some i => simp [unencodable?, Failure.unencodable?, hfind] at hencodable
  cases hc' : Text.isHalf c <;> simp_all [isPathChar]

/-- A name leads from a folder to what has this name in it. -/
theorem resolve_of_isName (current : List String) {name : String} (h : isName name = true) :
    resolve current name = current ++ [name] := by
  have hjoin : join "" name = name := by
    unfold join
    split <;> simp
  have hempty : resolve current "" = current := List.reverse_reverse current
  have hresolve : resolve current (join "" name) = resolve current "" ++ [name] :=
    resolve_join current h
  rwa [hjoin, hempty] at hresolve

theorem parts_absolute {names : List String} (hne : names ≠ [])
    (h : ∀ name ∈ names, isName name = true) : parts (absolute names) = "" :: names := by
  have hslash : ∀ name ∈ names, '/' ∉ name.toList :=
    fun name hname => slash_not_mem_of_isName (h name hname)
  rw [absolute, parts_slash, parts_joinWith hne hslash]

end Path

namespace FileSystem

/-- A path that can be looked up, whatever it leads to. -/
def CanLookUp (fs : FileSystem) (path : String) : Prop :=
  Path.isSpeakable path = true ∧ fs.isTooLong path = false

instance (fs : FileSystem) (path : String) : Decidable (fs.CanLookUp path) :=
  inferInstanceAs (Decidable (_ ∧ _))

theorem checkPath_eq_ok_iff {fs : FileSystem} {path : String} :
    fs.checkPath path = .ok () ↔ fs.CanLookUp path := by
  rw [CanLookUp, Path.isSpeakable_iff, checkPath]
  cases Path.unencodable? path with
  | some failure => simp
  | none => cases Path.hasNull path <;> cases fs.isTooLong path <;> simp

/-- A name that is too long is met behind folders that are there. -/
theorem meetsLongName_concat {root : Entry} {done folder : List String} {name : String}
    (hnames : ∀ part ∈ folder, Path.isName part = true)
    (hfolder : leadsToFolder root (done.reverse ++ folder) = true)
    (hlong : Path.maxNameSize < Path.byteSize name) :
    meetsLongName root done (folder ++ [name]) = true := by
  have hdone : leadsToFolder root done.reverse = true :=
    leadsToFolder_of_below (List.prefix_append _ _) hfolder
  induction folder generalizing done with
  | nil =>
    rw [List.nil_append, meetsLongName_cons, hdone, decide_eq_true hlong]
    rfl
  | cons part folder ih =>
    obtain ⟨hpart, hnames⟩ := List.forall_mem_cons.1 hnames
    have hbehind : done.reverse ++ part :: folder = (part :: done).reverse ++ folder := by simp
    rw [hbehind] at hfolder
    have hnext : leadsToFolder root (part :: done).reverse = true :=
      leadsToFolder_of_below (List.prefix_append _ _) hfolder
    rw [List.cons_append, meetsLongName_cons, hdone, Path.step_of_isName hpart,
      ih hnames hfolder hnext, Bool.or_true]
    rfl

end FileSystem

namespace Settings

theorem fileIn?_eq_some_iff {root : Entry} {folder file : List String} :
    fileIn? root folder = some file ↔
      ∃ name, IsFirst (root.Holds folder) fileNames name ∧ file = folder ++ [name] := by
  rw [fileIn?, Option.map_eq_some_iff]
  refine exists_congr fun name => and_congr ?_ eq_comm
  simp only [List.find?_eq_some_iff_append, Entry.isSome_find?_concat_iff, Bool.not_eq_true',
    ← Bool.not_eq_true, IsFirst]

theorem fileIn?_eq_none_iff {root : Entry} {folder : List String} :
    fileIn? root folder = none ↔ ¬∃ name ∈ fileNames, root.Holds folder name := by
  rw [fileIn?, Option.map_eq_none_iff, List.find?_eq_none]
  simp only [Entry.isSome_find?_concat_iff, not_exists, not_and]

/-- The folders from one up to the root are this one and those from the one above. -/
theorem upward_concat (folder : List String) (name : String) :
    upward (folder ++ [name]) = (folder ++ [name]) :: upward folder := by
  induction folder with
  | nil => rfl
  | cons first folder ih =>
    rw [List.cons_append, upward, ih, upward]
    rfl

/-- A search looks into the folders on the way up, one after another. -/
theorem searchUp_reverse (root : Entry) (folder : List String) :
    searchUp root folder.reverse = (upward folder).findSome? (fileIn? root) := by
  induction folder using List.reverseRecOn with
  | nil => simp [searchUp, upward]
  | append_singleton folder name ih =>
    have hstep : (folder ++ [name]).reverse = name :: folder.reverse := by simp
    rw [upward_concat, List.findSome?_cons, ← ih, hstep, searchUp, ← hstep, List.reverse_reverse]
    cases fileIn? root (folder ++ [name]) <;> rfl

section

variable {root : Entry} {folder file : List String}

/-- What a search finds is in the first folder that has a settings file, under the earliest of
the names. -/
theorem searchUp_eq_some_iff :
    searchUp root folder.reverse = some file ↔
      ∃ way name, IsFirst (fun way => ∃ name ∈ fileNames, root.Holds way name) (upward folder) way ∧
        IsFirst (root.Holds way) fileNames name ∧ file = way ++ [name] := by
  rw [searchUp_reverse, List.findSome?_eq_some_iff]
  constructor
  · rintro ⟨before, way, after, hsplit, hfile, hbefore⟩
    obtain ⟨name, hname, rfl⟩ := fileIn?_eq_some_iff.1 hfile
    refine ⟨way, name, ⟨⟨name, hname.mem, hname.1⟩, before, after, hsplit, ?_⟩, hname, rfl⟩
    exact fun other hother => fileIn?_eq_none_iff.1 (hbefore other hother)
  · rintro ⟨way, name, ⟨-, before, after, hsplit, hbefore⟩, hname, rfl⟩
    refine ⟨before, way, after, hsplit, fileIn?_eq_some_iff.2 ⟨name, hname, rfl⟩, ?_⟩
    exact fun other hother => fileIn?_eq_none_iff.2 (hbefore other hother)

theorem searchUp_eq_none_iff :
    searchUp root folder.reverse = none ↔
      ∀ way ∈ upward folder, ¬∃ name ∈ fileNames, root.Holds way name := by
  rw [searchUp_reverse, List.findSome?_eq_none_iff]
  exact forall₂_congr fun _ _ => fileIn?_eq_none_iff

end

/-- A search can be made: its start can be named, and the path where it leads and the one that is
tried first can be looked up. -/
@[mk_iff]
structure CanSearch (fs : FileSystem) (start : String) : Prop where
  speakable : Path.isSpeakable start = true
  start_known : fs.CanLookUp (Path.absolute (Path.resolve fs.current start))
  first_known : fs.CanLookUp (firstTried fs start)

theorem locate_eq_ok_iff {fs : FileSystem} {start : String} {found : Option String} :
    locate fs start = .ok found ↔ CanSearch fs start ∧ found = find? fs start := by
  rw [canSearch_iff, Path.isSpeakable_iff, ← FileSystem.checkPath_eq_ok_iff,
    ← FileSystem.checkPath_eq_ok_iff, locate]
  cases Path.unencodable? start with
  | some failure => simp [throw, throwThe, MonadExceptOf.throw, bind, Except.bind]
  | none =>
    cases Path.hasNull start with
    | true => simp [throw, throwThe, MonadExceptOf.throw, bind, Except.bind]
    | false =>
      simp only [Bool.false_eq_true, if_false, bind_eq_ok_iff, pure, Except.pure, Except.ok.injEq]
      constructor
      · rintro ⟨⟨⟩, hstart, ⟨⟩, hfirst, rfl⟩
        exact ⟨⟨⟨trivial, trivial⟩, hstart, hfirst⟩, rfl⟩
      · rintro ⟨⟨-, hstart, hfirst⟩, rfl⟩
        exact ⟨(), hstart, (), hfirst, rfl⟩

/-- From a name that is too long no search is made, whatever there is in the tree. -/
theorem not_canSearch_of_long_name {fs : FileSystem} {name : String}
    (hcurrent : FileSystem.leadsToFolder fs.root fs.current = true)
    (hnames : ∀ part ∈ fs.current, Path.isName part = true) (hname : Path.isName name = true)
    (hlong : Path.maxNameSize < Path.byteSize name) : ¬CanSearch fs name := by
  intro hsearch
  have hfree : fs.isTooLong (Path.absolute (Path.resolve fs.current name)) = false :=
    hsearch.start_known.2
  have hall : ∀ part ∈ fs.current ++ [name], Path.isName part = true := by
    simpa [or_imp, forall_and] using ⟨hnames, hname⟩
  have hmeets : FileSystem.meetsLongName fs.root [] (fs.current ++ [name]) = true :=
    FileSystem.meetsLongName_concat hnames hcurrent hlong
  have hroot : FileSystem.leadsToFolder fs.root [] = true :=
    FileSystem.leadsToFolder_of_below List.nil_prefix hcurrent
  have hmeets' : FileSystem.meetsLongName fs.root [] ("" :: (fs.current ++ [name])) = true := by
    have hsame : Path.step [] "" = [] := rfl
    rw [FileSystem.meetsLongName_cons, hsame, hmeets, Bool.or_true, Bool.and_true]
    exact hroot
  have habsolute : Path.isAbsolute (Path.absolute (fs.current ++ [name])) = true :=
    (Path.isAbsolute_iff _).2 ⟨_, rfl⟩
  rw [Path.resolve_of_isName fs.current hname, FileSystem.isTooLong, habsolute, if_pos rfl,
    Path.parts_absolute (by simp) hall, hmeets', Bool.or_true] at hfree
  exact Bool.noConfusion hfree

end Settings

end QueryLint
