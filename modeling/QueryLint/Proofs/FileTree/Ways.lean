import QueryLint.Proofs.FileTree

/-!
# Ways below a folder

A way is a list of names, one for each folder that is entered and one for what is there at its
end. From a folder it leads to a path, and relative to that folder the path consists of the names
with slashes between them, however the path of the folder itself is written.
-/

namespace QueryLint

namespace Path

/-- The path that a way leads to from a folder. -/
def joinAll (folder : String) (way : List String) : String := way.foldl join folder

@[simp] theorem joinAll_nil (folder : String) : joinAll folder [] = folder := rfl

@[simp] theorem joinAll_cons (folder name : String) (way : List String) :
    joinAll folder (name :: way) = joinAll (join folder name) way := rfl

theorem joinAll_concat (folder name : String) (way : List String) :
    joinAll folder (way ++ [name]) = join (joinAll folder way) name := by
  simp [joinAll]

theorem step_of_isName {name : String} (h : isName name = true) (done : List String) :
    step done name = name :: done := by
  simp only [isName, Bool.and_eq_true, Bool.not_eq_true', bne_iff_ne] at h
  have hne : name ≠ "" := by simpa using h.1.1.1.1
  simp [step, hne, h.1.1.1.2, h.1.1.2]

/-- What the paths in a folder start with ends in a slash, and its parts lead to the folder. -/
theorem exists_cutAt_stem (folder : String) :
    ∃ before, Text.cutAt '/' (stem folder) = before ++ [[]] ∧
      ∀ done, (before.map String.ofList).foldl step done = (parts folder).foldl step done := by
  unfold stem
  split
  next hends =>
    have hcut : ∃ before, Text.cutAt '/' folder.toList = before ++ [[]] := by
      obtain hempty | hslash := Bool.or_eq_true_iff.1 hends
      · exact ⟨[], by rw [String.isEmpty_iff.1 hempty]; rfl⟩
      · obtain ⟨init, hinit⟩ := List.getLast?_eq_some_iff.1 (of_decide_eq_true hslash)
        exact ⟨_, by rw [hinit]; exact Text.cutAt_append_cons_self '/' init []⟩
    obtain ⟨before, hbefore⟩ := hcut
    refine ⟨before, hbefore, fun done => ?_⟩
    rw [parts, hbefore, List.map_append, List.foldl_append]
    rfl
  next => exact ⟨_, Text.cutAt_append_cons_self '/' folder.toList [], fun done => rfl⟩

section

variable {name folder : String}

theorem cutAt_of_isName (h : isName name = true) :
    Text.cutAt '/' name.toList = [name.toList] := by
  rw [Text.cutAt_eq_splitOn]
  exact List.splitOn_eq_singleton (slash_not_mem_of_isName h)

theorem exists_parts_join (h : isName name = true) :
    ∃ before, parts (join folder name) = before ++ [name] ∧
      ∀ done, before.foldl step done = (parts folder).foldl step done := by
  obtain ⟨before, hstem, hfold⟩ := exists_cutAt_stem folder
  refine ⟨before.map String.ofList, ?_, hfold⟩
  rw [parts, toList_join h, Text.cutAt_append hstem (cutAt_of_isName h)]
  simp

theorem baseName_join (h : isName name = true) : baseName (join folder name) = name := by
  obtain ⟨before, hparts, -⟩ := exists_parts_join h
  rw [baseName, hparts, List.getLastD_concat]

theorem isAbsolute_join (h : isName name = true) :
    isAbsolute (join folder name) = isAbsolute folder := by
  have hhead : name.toList.head? ≠ some '/' := fun hhead =>
    slash_not_mem_of_isName h (List.mem_of_head? hhead)
  unfold isAbsolute
  rw [toList_join h, stem]
  cases hchars : folder.toList with
  | nil => simp [String.toList_eq_nil_iff.1 hchars, hhead]
  | cons c cs => split <;> simp

theorem resolve_join (current : List String) (h : isName name = true) :
    resolve current (join folder name) = resolve current folder ++ [name] := by
  obtain ⟨before, hparts, hfold⟩ := exists_parts_join h
  rw [resolve, isAbsolute_join h, hparts, List.foldl_append, hfold, List.foldl_cons,
    List.foldl_nil, step_of_isName h, List.reverse_cons]
  rfl

end

theorem resolve_joinAll (current : List String) (folder : String) {way : List String}
    (h : ∀ name ∈ way, isName name = true) :
    resolve current (joinAll folder way) = resolve current folder ++ way := by
  induction way generalizing folder with
  | nil => simp
  | cons name way ih =>
    obtain ⟨hname, hway⟩ := List.forall_mem_cons.1 h
    rw [joinAll_cons, ih _ hway, resolve_join current hname, List.append_assoc]
    rfl

/-- Different ways lead to different paths. -/
theorem joinAll_inj {folder : String} {way other : List String}
    (h : ∀ name ∈ way, isName name = true) (h' : ∀ name ∈ other, isName name = true)
    (hjoin : joinAll folder way = joinAll folder other) : way = other := by
  have hresolve := congrArg (resolve []) hjoin
  rw [resolve_joinAll [] folder h, resolve_joinAll [] folder h'] at hresolve
  exact List.append_cancel_left hresolve

theorem joinAll_mem_map_iff {folder : String} {ways : List (List String)} {way : List String}
    (h : ∀ other ∈ ways, ∀ name ∈ other, isName name = true)
    (hway : ∀ name ∈ way, isName name = true) :
    joinAll folder way ∈ ways.map (joinAll folder) ↔ way ∈ ways := by
  refine ⟨fun hmem => ?_, List.mem_map_of_mem⟩
  obtain ⟨other, hother, hjoin⟩ := List.mem_map.1 hmem
  exact joinAll_inj (h other hother) hway hjoin ▸ hother

theorem baseName_joinAll (folder : String) {way : List String} (hne : way ≠ [])
    (h : ∀ name ∈ way, isName name = true) : baseName (joinAll folder way) = way.getLastD "" := by
  obtain ⟨before, name, rfl⟩ := (List.eq_nil_or_concat' way).resolve_left hne
  rw [joinAll_concat, baseName_join (h name (by simp)), List.getLastD_concat]

theorem joinAll_ne_empty (folder : String) {way : List String} (hne : way ≠ [])
    (h : ∀ name ∈ way, isName name = true) : joinAll folder way ≠ "" := by
  intro hempty
  have hbase := baseName_joinAll folder hne h
  rw [hempty] at hbase
  have hlast := h (way.getLast hne) (List.getLast_mem hne)
  rw [List.getLastD_eq_getLast?, List.getLast?_eq_some_getLast hne] at hbase
  exact ne_empty_of_isName hlast hbase.symm

/-- Parts that stand for the folder itself can be left out. -/
theorem foldl_step_filter (ps done : List String) :
    (ps.filter fun p => p != "" && p != ".").foldl step done = ps.foldl step done := by
  induction ps generalizing done with
  | nil => rfl
  | cons p ps ih =>
    rw [List.filter_cons]
    split
    next => exact ih _
    next hskip =>
      have hstay : step done p = done := by
        simp only [Bool.and_eq_true, bne_iff_ne, not_and_or, not_not] at hskip
        obtain rfl | rfl := hskip <;> rfl
      rw [ih, List.foldl_cons, hstay]

theorem slash_not_mem_of_mem_parts {path part : String} (h : part ∈ parts path) :
    '/' ∉ part.toList := by
  obtain ⟨piece, hpiece, rfl⟩ := List.mem_map.1 h
  simpa using Text.not_mem_of_mem_cutAt hpiece

theorem parts_ne_nil (path : String) : parts path ≠ [] := by
  simpa [parts] using Text.cutAt_ne_nil '/' path.toList

theorem baseName_baseName (path : String) : baseName (baseName path) = baseName path := by
  have hmem : baseName path ∈ parts path := by
    rw [baseName, List.getLastD_eq_getLast?, List.getLast?_eq_some_getLast (parts_ne_nil path)]
    exact List.getLast_mem (parts_ne_nil path)
  have hparts : parts (baseName path) = [baseName path] := by
    rw [parts, Text.cutAt_eq_splitOn, List.splitOn_eq_singleton (slash_not_mem_of_mem_parts hmem)]
    simp
  rw [baseName, hparts]
  rfl

theorem parts_slash (path : String) : parts ("/" ++ path) = "" :: parts path := by
  have hcut := Text.cutAt_append_cons_self '/' [] path.toList
  rw [parts, String.toList_append]
  exact congrArg (List.map String.ofList) hcut

theorem foldl_parts_slash (path : String) (done : List String) :
    (parts ("/" ++ path)).foldl step done = (parts path).foldl step done := by
  rw [parts_slash, List.foldl_cons]
  rfl

theorem isAbsolute_iff (path : String) : isAbsolute path = true ↔ ∃ rest, path = "/" ++ rest := by
  rw [isAbsolute, decide_eq_true_eq, List.head?_eq_some_iff]
  constructor
  · rintro ⟨cs, hcs⟩
    exact ⟨String.ofList cs, String.toList_inj.1 (by simpa using hcs)⟩
  · rintro ⟨rest, rfl⟩
    exact ⟨rest.toList, by simp⟩

theorem parts_joinWith {names : List String} (hne : names ≠ [])
    (h : ∀ name ∈ names, '/' ∉ name.toList) : parts (Text.joinWith "/" names) = names := by
  have hslash : ("/" : String).toList = ['/'] := rfl
  rw [parts, Text.joinWith, String.toList_ofList, hslash, Text.cutAt_eq_splitOn,
    List.splitOn_intercalate '/' (by simpa using h) (by simpa using hne)]
  simp

/-- Parts with slashes between them start with the first part, which is not empty. -/
theorem isAbsolute_joinWith {names : List String} (hne : names ≠ [])
    (h : ∀ name ∈ names, '/' ∉ name.toList) (hempty : "" ∉ names) :
    isAbsolute (Text.joinWith "/" names) = false := by
  refine Bool.eq_false_iff.2 fun habsolute => ?_
  obtain ⟨rest, hrest⟩ := (isAbsolute_iff _).1 habsolute
  have hparts := parts_joinWith hne h
  rw [hrest, parts_slash] at hparts
  exact hempty (hparts ▸ List.mem_cons_self)

/-- The parts of a path that its plain form keeps. -/
def plainParts (path : String) : List String := (parts path).filter fun p => p != "" && p != "."

theorem slash_not_mem_of_mem_plainParts {path part : String} (h : part ∈ plainParts path) :
    '/' ∉ part.toList :=
  slash_not_mem_of_mem_parts (List.mem_filter.1 h).1

theorem foldl_parts_joinWith (path : String) (done : List String) :
    (parts (Text.joinWith "/" (plainParts path))).foldl step done =
      (parts path).foldl step done := by
  rw [← foldl_step_filter (parts path)]
  by_cases hne : plainParts path = []
  · have hnames : (parts path).filter (fun p => p != "" && p != ".") = [] := hne
    rw [hne, hnames]
    rfl
  · rw [parts_joinWith hne fun name => slash_not_mem_of_mem_plainParts]
    rfl

theorem empty_not_mem_plainParts (path : String) : "" ∉ plainParts path := by
  intro hempty
  simpa using (List.mem_filter.1 hempty).2

theorem joinWith_plainParts_isEmpty (path : String) :
    (Text.joinWith "/" (plainParts path)).isEmpty = true ↔ plainParts path = [] := by
  refine ⟨fun hempty => ?_, fun hnone => by rw [hnone]; rfl⟩
  by_contra hne
  have hparts := parts_joinWith hne fun name => slash_not_mem_of_mem_plainParts
  rw [String.isEmpty_iff.1 hempty] at hparts
  exact empty_not_mem_plainParts path (hparts ▸ List.mem_cons_self)

/-- The slashes that the plain form of a path starts with. -/
def plainRoot (path : String) : String :=
  let slashes := path.toList.takeWhile (· == '/')
  if slashes.length = 2 then "//" else if slashes.isEmpty then "" else "/"

theorem plain_eq (path : String) :
    plain path =
      if (plainRoot path ++ Text.joinWith "/" (plainParts path)).isEmpty then "."
      else plainRoot path ++ Text.joinWith "/" (plainParts path) := rfl

theorem plainRoot_of_isAbsolute {path : String} (h : isAbsolute path = true) :
    plainRoot path = "/" ∨ plainRoot path = "//" := by
  obtain ⟨rest, rfl⟩ := (isAbsolute_iff path).1 h
  have hsome : (("/" ++ rest).toList.takeWhile (· == '/')).isEmpty = false := by simp
  simp only [plainRoot, hsome, Bool.false_eq_true, if_false]
  exact (ite_eq_or_eq _ _ _).symm

theorem plainRoot_of_not_isAbsolute {path : String} (h : isAbsolute path = false) :
    plainRoot path = "" := by
  rw [isAbsolute, decide_eq_false_iff_not] at h
  have hnone : path.toList.takeWhile (· == '/') = [] := by
    cases hchars : path.toList with
    | nil => rfl
    | cons c cs =>
      have hc : c ≠ '/' := by simpa [hchars] using h
      simp [hc]
  simp [plainRoot, hnone]

/-- A plain path has one slash in front, or two, if the path has any. -/
theorem plain_cases (path : String) :
    let rest := Text.joinWith "/" (plainParts path)
    (isAbsolute path = true ∧ (plain path = "/" ++ rest ∨ plain path = "/" ++ ("/" ++ rest))) ∨
      (isAbsolute path = false ∧
        (plain path = rest ∧ plainParts path ≠ [] ∨ plain path = "." ∧ plainParts path = [])) := by
  intro rest
  have hempty : rest.isEmpty = true ↔ plainParts path = [] := joinWith_plainParts_isEmpty path
  have hplain : plain path =
      if (plainRoot path ++ rest).isEmpty then "." else plainRoot path ++ rest := plain_eq path
  cases habsolute : isAbsolute path with
  | true =>
    refine .inl ⟨rfl, ?_⟩
    obtain hroot | hroot := plainRoot_of_isAbsolute habsolute
    · rw [hplain, hroot, if_neg (by simp)]
      exact .inl rfl
    · rw [hplain, hroot, if_neg (by simp), ← String.append_assoc]
      exact .inr rfl
  | false =>
    refine .inr ⟨rfl, ?_⟩
    rw [hplain, plainRoot_of_not_isAbsolute habsolute, String.empty_append]
    by_cases hnone : plainParts path = []
    · exact .inr ⟨if_pos (hempty.2 hnone), hnone⟩
    · exact .inl ⟨if_neg (mt hempty.1 hnone), hnone⟩

/-- The plain form of a path starts where the path does. -/
theorem isAbsolute_plain (path : String) : isAbsolute (plain path) = isAbsolute path := by
  obtain ⟨habsolute, hplain | hplain⟩ | ⟨hrelative, ⟨hplain, hne⟩ | ⟨hplain, -⟩⟩ :=
    plain_cases path
  · rw [habsolute, isAbsolute_iff]
    exact ⟨_, hplain⟩
  · rw [habsolute, isAbsolute_iff]
    exact ⟨_, hplain⟩
  · rw [hrelative, hplain]
    exact isAbsolute_joinWith hne (fun name => slash_not_mem_of_mem_plainParts)
      (empty_not_mem_plainParts path)
  · rw [hrelative, hplain]
    rfl

theorem foldl_parts_plain (path : String) (done : List String) :
    (parts (plain path)).foldl step done = (parts path).foldl step done := by
  have hrest := foldl_parts_joinWith path done
  obtain ⟨-, hplain | hplain⟩ | ⟨-, ⟨hplain, -⟩ | ⟨hplain, hnone⟩⟩ := plain_cases path
  · rw [hplain, foldl_parts_slash, hrest]
  · rw [hplain, foldl_parts_slash, foldl_parts_slash, hrest]
  · rw [hplain, hrest]
  · rw [hplain, ← hrest, hnone]
    rfl

/-- The plain form of a path leads to the same place. -/
theorem resolve_plain (current : List String) (path : String) :
    resolve current (plain path) = resolve current path := by
  rw [resolve, isAbsolute_plain, foldl_parts_plain]
  rfl

section

variable {names : List String} (hne : names ≠ []) (hslash : ∀ name ∈ names, '/' ∉ name.toList)
  (hkept : ∀ name ∈ names, name ≠ "" ∧ name ≠ ".")

include hne hslash hkept

theorem plainParts_joinWith : plainParts (Text.joinWith "/" names) = names := by
  rw [plainParts, parts_joinWith hne hslash, List.filter_eq_self]
  intro name hname
  simpa using hkept name hname

/-- Parts that are kept, with slashes between them, are a path in plain form. -/
theorem plain_joinWith : plain (Text.joinWith "/" names) = Text.joinWith "/" names := by
  have hparts := plainParts_joinWith hne hslash hkept
  have hrelative := isAbsolute_joinWith hne hslash fun hempty => (hkept "" hempty).1 rfl
  obtain ⟨habsolute, -⟩ | ⟨-, ⟨hplain, -⟩ | ⟨-, hnone⟩⟩ := plain_cases (Text.joinWith "/" names)
  · rw [hrelative] at habsolute
    cases habsolute
  · rw [hplain, hparts]
  · exact absurd (hparts.symm.trans hnone) hne

end

theorem dropCommon_append (base way : List String) : dropCommon base (base ++ way) = ([], way) := by
  induction base with
  | nil => cases way <;> rfl
  | cons name base ih => simp [dropCommon, ih]

/-- Relative to a folder, the path below it consists of the names on the way. -/
theorem relative_joinAll (current : List String) {folder base : String} {way : List String}
    (hbase : resolve current folder = resolve current base) (hne : way ≠ [])
    (h : ∀ name ∈ way, isName name = true) :
    relative current (joinAll folder way) base = .ok (Text.joinWith "/" way) := by
  have hempty : (joinAll folder way).isEmpty = false := by
    simpa using joinAll_ne_empty folder hne h
  rw [relative, hempty, resolve_joinAll current folder h, hbase, between, dropCommon_append]
  simp [hne]

/-- A path to something in a folder has a byte at least for each character of the two. -/
theorem length_add_length_le_byteSize {folder name : String} (h : isName name = true) :
    folder.toList.length + name.toList.length ≤ byteSize (join folder name) := by
  have hfrom : ∀ (cs : List Char) (size : Nat), size + cs.length ≤
      cs.foldl (fun size c => size + if isByteHalf c then 1 else c.utf8Size) size := by
    intro cs
    induction cs with
    | nil => exact fun size => Nat.le_refl size
    | cons c cs ih =>
      intro size
      have hone : 1 ≤ if isByteHalf c then 1 else c.utf8Size := by
        split
        · exact Nat.le_refl 1
        · exact c.utf8Size_pos
      rw [List.foldl_cons, List.length_cons]
      exact Nat.le_trans (by omega) (ih _)
  have hstem : folder.toList.length ≤ (stem folder).length := by
    unfold stem
    split <;> simp
  have hall := hfrom (join folder name).toList 0
  rw [toList_join h, List.length_append] at hall
  rw [byteSize, toList_join h]
  omega

end Path

namespace Entry

/-- The size of the file at the end of a way. -/
def sizeAt? (e : Entry) (way : List String) : Option Nat := (e.find? way).bind size?

theorem sizeAt?_eq_some_iff {e : Entry} {way : List String} {size : Nat} :
    e.sizeAt? way = some size ↔ ∃ found, e.find? way = some found ∧ found.size? = some size :=
  Option.bind_eq_some_iff

end Entry

namespace FileSystem

open QueryLint.Path

/-- Going into a folder and back again leads nowhere else, however often. -/
theorem follow_there_and_back {root : Entry} {done : List String} {name : String}
    {here there : List (String × Entry)} (hname : isName name = true)
    (hhere : root.find? done.reverse = some (.folder here))
    (hthere : root.find? (name :: done).reverse = some (.folder there)) (n : Nat)
    (rest : List String) :
    follow root done ((List.replicate n [name, ".."]).flatten ++ rest) =
      follow root done rest := by
  induction n with
  | zero => rfl
  | succ n ih =>
    have hback : step (name :: done) ".." = done := rfl
    rw [List.replicate_succ, List.flatten_cons, List.append_assoc, List.cons_append, follow, hhere]
    dsimp only
    rw [step_of_isName hname, List.cons_append, List.nil_append, follow, hthere]
    dsimp only
    rw [hback, ih]

/-- Where parts with slashes between them lead to from the current folder. -/
theorem find?_joinWith (fs : FileSystem) {names : List String} (hne : names ≠ [])
    (hslash : ∀ name ∈ names, '/' ∉ name.toList)
    (hkept : ∀ name ∈ names, name ≠ "" ∧ name ≠ ".") :
    fs.find? (Text.joinWith "/" names) =
      (follow fs.root fs.current.reverse names).bind fs.root.find? := by
  have hfilled : (Text.joinWith "/" names).isEmpty = false := by
    have hempty := joinWith_plainParts_isEmpty (Text.joinWith "/" names)
    rw [plainParts_joinWith hne hslash hkept] at hempty
    exact Bool.eq_false_iff.2 fun htrue => hne (hempty.1 htrue)
  rw [find?, way?, hfilled, parts_joinWith hne hslash,
    isAbsolute_joinWith hne hslash fun hempty => (hkept "" hempty).1 rfl]
  rfl

/-- Ways that lead to files below a folder go over names. -/
theorem names_of_files {fs : FileSystem} (htree : fs.root.isProper = true)
    {path : String} {folder : Entry} (hfolder : fs.find? path = some folder)
    {ways : List (List String)}
    (hfiles : ∀ way ∈ ways, ∃ size, folder.sizeAt? way = some size) :
    ∀ way ∈ ways, ∀ name ∈ way, isName name = true := by
  intro way hway
  obtain ⟨hproper, -⟩ := isSpeakable_of_find? htree hfolder
  obtain ⟨size, hat⟩ := hfiles way hway
  obtain ⟨file, hfind, -⟩ := Entry.sizeAt?_eq_some_iff.1 hat
  exact (Entry.isProper_of_find? hproper hfind).2

end FileSystem

end QueryLint
