import Mathlib.Data.List.Nodup
import QueryLint.FileTree
import QueryLint.Proofs.Text.Lines

/-!
# Paths in a tree of files

In a proper tree everything has a name that can stand in a path, and no two things in a folder
share theirs. A path that leads somewhere in such a tree can be handed on, and the paths of the
things in a folder tell these apart.
-/

namespace QueryLint

namespace Path

/-- A character that a path can hold. -/
def isPathChar (c : Char) : Bool := c != '\x00' && (!Text.isHalf c || isByteHalf c)

/-- A text that can be handed on as a path. -/
def isSpeakable (path : String) : Bool := path.toList.all isPathChar

theorem unencodable?_of_isSpeakable {path : String} (h : isSpeakable path = true) :
    unencodable? path = none := by
  have hnone : path.toList.findIdx? (fun c => Text.isHalf c && !isByteHalf c) = none := by
    refine List.findIdx?_eq_none_iff.2 fun c hc => ?_
    have hchar := List.all_eq_true.1 h c hc
    simp only [isPathChar, Bool.and_eq_true] at hchar
    cases hhalf : Text.isHalf c <;> simp_all
  simp only [unencodable?, Failure.unencodable?, hnone]

theorem hasNull_of_isSpeakable {path : String} (h : isSpeakable path = true) :
    hasNull path = false := by
  refine Bool.eq_false_iff.2 fun hnull => ?_
  have hchar := List.all_eq_true.1 h '\x00' (List.contains_iff_mem.1 hnull)
  exact absurd hchar (by decide)

/-- A name that something in a folder can have. -/
def isName (name : String) : Bool :=
  !name.isEmpty && name != "." && name != ".." && !name.toList.contains '/' && isSpeakable name

theorem ne_empty_of_isName {name : String} (h : isName name = true) : name ≠ "" := by
  intro hempty
  simp [isName, hempty] at h

theorem slash_not_mem_of_isName {name : String} (h : isName name = true) :
    '/' ∉ name.toList := by
  intro hslash
  simp [isName, hslash] at h

theorem isSpeakable_of_isName {name : String} (h : isName name = true) :
    isSpeakable name = true :=
  (Bool.and_eq_true_iff.1 h).2

end Path

namespace Entry

/-- What holds of files, and of a folder if it holds of all that is in it, holds everywhere. -/
theorem induction {motive : Entry → Prop} (file : ∀ e : Entry, e.isFile = true → motive e)
    (folder : ∀ entries, (∀ x ∈ entries, motive x.2) → motive (.folder entries)) (e : Entry) :
    motive e := by
  refine @Entry.rec motive (fun entries => ∀ x ∈ entries, motive x.2) (fun x => motive x.2)
    (fun bytes => file _ rfl) folder (fun size => file _ rfl) ?_ ?_ ?_ e
  · intro x hx
    cases hx
  · intro x rest hx hrest y hy
    obtain rfl | hy := List.mem_cons.1 hy
    · exact hx
    · exact hrest y hy
  · intro name e he
    exact he

mutual

/-- Whether the names in every folder can be names, and no two of them are the same. -/
def isProper : Entry → Bool
  | .folder entries => areProper entries
  | _ => true

def areProper : List (String × Entry) → Bool
  | [] => true
  | (name, e) :: rest =>
      Path.isName name && decide (name ∉ rest.map Prod.fst) && e.isProper && areProper rest

end

theorem areProper_iff (entries : List (String × Entry)) :
    areProper entries = true ↔ (entries.map Prod.fst).Nodup ∧
      ∀ x ∈ entries, Path.isName x.1 = true ∧ x.2.isProper = true := by
  induction entries with
  | nil => simp [areProper]
  | cons x rest ih =>
    simp only [areProper, Bool.and_eq_true, decide_eq_true_eq, ih, List.map_cons,
      List.nodup_cons, List.forall_mem_cons]
    tauto

theorem mem_of_lookup {entries : List (String × Entry)} {name : String} {e : Entry}
    (h : entries.lookup name = some e) : (name, e) ∈ entries := by
  obtain ⟨before, after, rfl, -⟩ := List.lookup_eq_some_iff.1 h
  simp

/-- A way that leads somewhere in a proper tree goes over names, and to a proper tree. -/
theorem isProper_of_find? {e : Entry} (hproper : e.isProper = true) {way : List String}
    {found : Entry} (h : e.find? way = some found) :
    found.isProper = true ∧ ∀ name ∈ way, Path.isName name = true := by
  induction way generalizing e with
  | nil =>
    rw [find?] at h
    cases h
    exact ⟨hproper, by simp⟩
  | cons name way ih =>
    cases e with
    | file bytes => cases h
    | locked size => cases h
    | folder entries =>
      rw [find?] at h
      split at h
      next next_ hlookup =>
        have hin := (areProper_iff entries).1 hproper |>.2 (name, next_) (mem_of_lookup hlookup)
        obtain ⟨hfound, hway⟩ := ih hin.2 h
        exact ⟨hfound, List.forall_mem_cons.2 ⟨hin.1, hway⟩⟩
      next => cases h

end Entry

namespace FileSystem

/-- A way that leads somewhere leads through something at every step. -/
theorem isSome_find?_of_follow {root : Entry} {parts done way : List String}
    (h : follow root done parts = some way) (hway : (root.find? way).isSome) :
    (root.find? done.reverse).isSome := by
  cases parts with
  | nil =>
    rw [follow] at h
    cases h
    exact hway
  | cons part parts =>
    rw [follow] at h
    split at h
    next entries hdone => simp [hdone]
    next => cases h

theorem isSpeakable_of_follow {root : Entry} (hroot : root.isProper = true)
    {parts done way : List String} (h : follow root done parts = some way)
    (hway : (root.find? way).isSome) : ∀ part ∈ parts, Path.isSpeakable part = true := by
  induction parts generalizing done with
  | nil => simp
  | cons part parts ih =>
    rw [follow] at h
    split at h
    next entries hdone =>
      refine List.forall_mem_cons.2 ⟨?_, ih h⟩
      by_cases hhere : part = "" ∨ part = "."
      · obtain rfl | rfl := hhere <;> decide
      · by_cases hup : part = ".."
        · subst hup
          decide
        · have hstep : Path.step done part = part :: done := by
            simp [Path.step, hup, not_or.1 hhere]
          obtain ⟨e, he⟩ := Option.isSome_iff_exists.1 (isSome_find?_of_follow h hway)
          rw [hstep] at he
          have hname := (Entry.isProper_of_find? hroot he).2 part (by simp)
          exact Path.isSpeakable_of_isName hname
    next => cases h

/-- A path that leads somewhere in a proper tree can be handed on. -/
theorem isSpeakable_of_find? {fs : FileSystem} (hroot : fs.root.isProper = true) {path : String}
    {e : Entry} (h : fs.find? path = some e) :
    e.isProper = true ∧ Path.isSpeakable path = true := by
  obtain ⟨way, hway, he⟩ := Option.bind_eq_some_iff.1 h
  refine ⟨(Entry.isProper_of_find? hroot he).1, ?_⟩
  unfold way? at hway
  split at hway
  · cases hway
  · have hparts := isSpeakable_of_follow hroot hway (by simp [he])
    refine List.all_eq_true.2 fun c hc => ?_
    obtain rfl | ⟨piece, hpiece, hc⟩ := Text.eq_or_mem_cutAt '/' hc
    · decide
    · have hpart := hparts (String.ofList piece) (List.mem_map_of_mem hpiece)
      exact List.all_eq_true.1 hpart c (by simpa using hc)

theorem missing_eq (fs : FileSystem) (path : String) :
    fs.missing path = .notAFolder path ∨ fs.missing path = .noSuchFile path :=
  ite_eq_or_eq ..

/-- A path that can be handed on fails only for what is there or for its length. -/
theorem readBytes_of_isSpeakable {fs : FileSystem} {path : String} {failure : Failure}
    (hpath : Path.isSpeakable path = true) (h : fs.readBytes path = .error failure) :
    failure ≠ .nullInPath ∧ ∀ code first last, failure ≠ .unencodable code first last := by
  have hencodable := Path.unencodable?_of_isSpeakable hpath
  have hnull := Path.hasNull_of_isSpeakable hpath
  simp only [readBytes, checkPath, hencodable, hnull, Bool.false_eq_true, if_false] at h
  by_cases hlong : fs.isTooLong path = true
  · rw [if_pos hlong] at h
    cases h
    simp
  · rw [if_neg hlong] at h
    cases hfound : fs.find? path with
    | none =>
      rw [hfound] at h
      cases h
      obtain hmissing | hmissing := missing_eq fs path <;> simp [hmissing]
    | some e => cases e <;> rw [hfound] at h <;> cases h <;> simp

end FileSystem

namespace Path

/-- What the paths of the things in a folder start with. -/
def stem (folder : String) : List Char :=
  if folder.isEmpty || folder.toList.getLast? = some '/' then folder.toList
  else folder.toList ++ ['/']

theorem all_stem {folder : String} (h : isSpeakable folder = true) :
    (stem folder).all isPathChar = true := by
  unfold stem
  split
  · exact h
  · have hslash : isPathChar '/' = true := by decide
    rw [List.all_append, List.all_cons, hslash, List.all_nil, Bool.and_true, Bool.and_true]
    exact h

variable {name other folder : String}

theorem toList_join (h : isName name = true) :
    (join folder name).toList = stem folder ++ name.toList := by
  have hslash := slash_not_mem_of_isName h
  have hrelative : isAbsolute name = false := by
    simp only [isAbsolute, decide_eq_false_iff_not]
    exact fun hhead => hslash (List.mem_of_head? hhead)
  unfold join stem
  simp only [hrelative, Bool.false_eq_true, if_false]
  split <;> simp

theorem stem_join (h : isName name = true) :
    stem (join folder name) = stem folder ++ name.toList ++ ['/'] := by
  have hne := ne_empty_of_isName h
  have hslash := slash_not_mem_of_isName h
  have hnil : name.toList ≠ [] := by simpa using hne
  have hempty : (join folder name).isEmpty = false := by
    rw [String.isEmpty_eq_false_iff]
    intro hjoin
    have htext : (join folder name).toList = stem folder ++ name.toList := toList_join h
    simp [hjoin, hne] at htext
  have hlast : (join folder name).toList.getLast? ≠ some '/' := by
    rw [toList_join h, List.getLast?_append_of_ne_nil _ hnil]
    exact fun hl => hslash (List.mem_of_getLast? hl)
  rw [stem, hempty, decide_eq_false hlast, Bool.or_self, if_neg Bool.false_ne_true, toList_join h]

/-- Names before a slash are told apart by what they start. -/
theorem append_slash_inj {a b x y : List Char} (ha : '/' ∉ a) (hb : '/' ∉ b)
    (h : a ++ '/' :: x = b ++ '/' :: y) : a = b := by
  have hcut := congrArg (List.splitOn '/') h
  rw [List.splitOn_append_cons_self_of_not_mem ha, List.splitOn_append_cons_self_of_not_mem hb]
    at hcut
  exact (List.cons.inj hcut).1

theorem join_inj (hname : isName name = true) (hother : isName other = true)
    (h : join folder name = join folder other) : name = other := by
  have hchars := congrArg String.toList h
  rw [toList_join hname, toList_join hother] at hchars
  exact String.toList_inj.1 (List.append_cancel_left hchars)

end Path

end QueryLint
