import QueryLint.Proofs.Engine.Discovery
import QueryLint.Proofs.FileTree.Ways
import QueryLint.Proofs.Text.Order

/-!
# Walks through a tree

A walk from a folder comes to everything at the end of a way on which no folder is ignored, and
to nothing else. The files that it takes come in an order that depends on their ways alone, and
two lists of ways in that order with the same members are the same.
-/

namespace QueryLint

namespace Entry

theorem lookup_eq_some_iff {entries : List (String × Entry)} (h : (entries.map Prod.fst).Nodup)
    {name : String} {e : Entry} : entries.lookup name = some e ↔ (name, e) ∈ entries := by
  refine ⟨mem_of_lookup, fun hmem => ?_⟩
  obtain ⟨before, after, rfl⟩ := List.append_of_mem hmem
  refine List.lookup_eq_some_iff.2 ⟨before, after, rfl, fun x hx => ?_⟩
  rw [List.map_append, List.map_cons, List.nodup_append'] at h
  have hne : name ≠ x.1 := by
    rintro rfl
    exact h.2.2 (List.mem_map_of_mem hx) List.mem_cons_self
  simpa using hne

theorem find?_append (e : Entry) (v w : List String) :
    e.find? (v ++ w) = (e.find? v).bind (·.find? w) := by
  induction v generalizing e with
  | nil => rfl
  | cons name v ih =>
    cases e with
    | file bytes => rfl
    | locked size => rfl
    | folder entries =>
      rw [List.cons_append, find?, find?]
      cases entries.lookup name with
      | none => rfl
      | some next => exact ih next

/-- Everything on the way to something is there. -/
theorem exists_find?_of_prefix {e found : Entry} {v way : List String} (hbefore : v <+: way)
    (hfind : e.find? way = some found) : ∃ next, e.find? v = some next := by
  obtain ⟨rest, rfl⟩ := hbefore
  rw [find?_append] at hfind
  obtain ⟨next, hnext, -⟩ := Option.bind_eq_some_iff.1 hfind
  exact ⟨next, hnext⟩

end Entry

namespace Discovery

open QueryLint.Path

/-- Of two files below a folder one is found earlier than the other: the files in a folder itself
by their names and before those in its folders, and these folder by folder, by the names of the
folders. -/
inductive Earlier : List String → List String → Prop
  | files {a b : String} (h : Text.comesBefore a b = true) : Earlier [a] [b]
  | fileFirst {a b : String} {w : List String} (hw : w ≠ []) : Earlier [a] (b :: w)
  | folders {a b : String} {v w : List String} (h : Text.comesBefore a b = true) (hv : v ≠ [])
      (hw : w ≠ []) : Earlier (a :: v) (b :: w)
  | inside (a : String) {v w : List String} (h : Earlier v w) : Earlier (a :: v) (a :: w)

theorem Earlier.ne_nil {v w : List String} (h : Earlier v w) : v ≠ [] ∧ w ≠ [] := by
  cases h <;> simp

theorem Earlier.asymm {v w : List String} (h : Earlier v w) : ¬ Earlier w v := by
  induction h with
  | files hlt =>
    rintro (hgt | hw | ⟨_, hw, _⟩ | ⟨_, hin⟩)
    · exact Text.comesBefore_asymm hlt hgt
    · exact hw rfl
    · exact hw rfl
    · exact hin.ne_nil.1 rfl
  | fileFirst hw =>
    rintro (_ | _ | ⟨_, _, hnil⟩ | ⟨_, hin⟩)
    · exact hw rfl
    · exact hw rfl
    · exact hnil rfl
    · exact hin.ne_nil.2 rfl
  | folders hlt hv hw =>
    rintro (_ | _ | ⟨hgt, _, _⟩ | ⟨_, _⟩)
    · exact hw rfl
    · exact hw rfl
    · exact Text.comesBefore_asymm hlt hgt
    · exact Text.comesBefore_irrefl _ hlt
  | inside a hin ih =>
    rintro (hgt | _ | ⟨hgt, _, _⟩ | ⟨_, hin'⟩)
    · exact Text.comesBefore_irrefl a hgt
    · exact hin.ne_nil.2 rfl
    · exact Text.comesBefore_irrefl a hgt
    · exact ih hin'

theorem nodup_of_earlier {ways : List (List String)} (h : ways.Pairwise Earlier) : ways.Nodup := by
  refine h.imp fun hearlier heq => ?_
  subst heq
  exact hearlier.asymm hearlier

/-- The order leaves no choice: what is in a list says how it goes. -/
theorem eq_of_earlier {ways others : List (List String)} (h : ways.Pairwise Earlier)
    (h' : others.Pairwise Earlier) (hsame : ∀ way, way ∈ ways ↔ way ∈ others) :
    ways = others := by
  have hperm : ways.Perm others :=
    (List.perm_ext_iff_of_nodup (nodup_of_earlier h) (nodup_of_earlier h')).2 hsame
  exact hperm.eq_of_pairwise (fun v w _ _ hvw hwv => absurd hwv hvw.asymm) h h'

/-- What a walk comes across at a path. -/
def Stop.of (path : String) (e : Entry) : Stop :=
  match e.size? with
  | some size => .file path size
  | none => .folder path

theorem Stop.of_of_size? {e : Entry} {size : Nat} (h : e.size? = some size) (path : String) :
    Stop.of path e = .file path size := by
  rw [Stop.of, h]

theorem isFolder_iff {e : Entry} : isFolder e = true ↔ e.size? = none := by
  simp [isFolder, Entry.isFile]

theorem Stop.of_of_isFolder {e : Entry} (h : isFolder e = true) (path : String) :
    Stop.of path e = .folder path := by
  rw [Stop.of, isFolder_iff.1 h]

/-- No folder on a way is ignored. What lies at its end may be. -/
def Open (sieve : Sieve) (path : String) (way : List String) : Prop :=
  ∀ v, v ≠ [] → v <+: way → v ≠ way → sieve.ignored (joinAll path v) = false

theorem open_singleton (sieve : Sieve) (path name : String) : Open sieve path [name] := by
  intro v hne hbefore hproper
  obtain rfl | ⟨t, rfl, ht⟩ := List.prefix_cons_iff.1 hbefore
  · exact absurd rfl hne
  · rw [List.prefix_nil.1 ht] at hproper
    exact absurd rfl hproper

theorem open_cons_iff (sieve : Sieve) (path name : String) {way : List String} (hway : way ≠ []) :
    Open sieve path (name :: way) ↔
      sieve.ignored (join path name) = false ∧ Open sieve (join path name) way := by
  constructor
  · intro h
    refine ⟨h [name] (by simp) (by simp) (by simpa using hway.symm),
      fun v hne hbefore hproper => ?_⟩
    exact h (name :: v) (by simp) (by simpa using hbefore) (by simpa using hproper)
  · rintro ⟨hname, h⟩ v hne hbefore hproper
    obtain rfl | ⟨t, rfl, ht⟩ := List.prefix_cons_iff.1 hbefore
    · exact absurd rfl hne
    · by_cases hnil : t = []
      · rw [hnil]
        exact hname
      · exact h t hnil ht (by simpa using hproper)

theorem Open.of_prefix {sieve : Sieve} {path : String} {v way : List String}
    (h : Open sieve path way) (hbefore : v <+: way) : Open sieve path v := by
  intro u hne hu hproper
  refine h u hne (hu.trans hbefore) fun hall => hproper ?_
  subst hall
  exact hu.eq_of_length (Nat.le_antisymm hu.length_le hbefore.length_le)

/-- From a folder a walk comes to what is in it and then goes on into the folders that are not
ignored. -/
theorem mem_walk_folder_iff (sieve : Sieve) (path : String) (entries : List (String × Entry))
    (s : Stop) :
    s ∈ walk sieve path (.folder entries) ↔ ∃ x ∈ entries, s = Stop.of (join path x.1) x.2 ∨
      (isFolder x.2 = true ∧ sieve.ignored (join path x.1) = false ∧
        s ∈ walk sieve (join path x.1) x.2) := by
  have hfolders : s ∈ folderStops path entries ↔
      ∃ x ∈ entries, isFolder x.2 = true ∧ s = Stop.of (join path x.1) x.2 := by
    simp only [folderStops, List.mem_map, List.mem_filter, and_assoc]
    refine exists_congr fun x => and_congr_right fun _ => and_congr_right fun hfolder => ?_
    rw [Stop.of_of_isFolder hfolder, eq_comm]
  have hfiles : s ∈ fileStops path entries ↔
      ∃ x ∈ entries, isFolder x.2 = false ∧ s = Stop.of (join path x.1) x.2 := by
    simp only [fileStops, List.mem_filterMap, (byName_perm entries).mem_iff]
    refine exists_congr fun x => and_congr_right fun _ => ?_
    cases hsize : x.2.size? with
    | none => simp [isFolder_iff.2 hsize]
    | some size => simp [Stop.of_of_size? hsize, isFolder, Entry.isFile, hsize, eq_comm]
  have hdeeper : s ∈ (byName (walkFolders sieve path entries)).flatMap Prod.snd ↔
      ∃ x ∈ entries, isFolder x.2 = true ∧ sieve.ignored (join path x.1) = false ∧
        s ∈ walk sieve (join path x.1) x.2 := by
    simp only [List.mem_flatMap, (byName_perm _).mem_iff, walkFolders_eq, List.mem_map,
      List.mem_filter, Bool.and_eq_true, Bool.not_eq_true']
    constructor
    · rintro ⟨y, ⟨x, ⟨hx, hfolder, hopen⟩, rfl⟩, hs⟩
      exact ⟨x, hx, hfolder, hopen, hs⟩
    · rintro ⟨x, hx, hfolder, hopen, hs⟩
      exact ⟨_, ⟨x, ⟨hx, hfolder, hopen⟩, rfl⟩, hs⟩
  rw [walk, List.mem_append, List.mem_append, hfolders, hfiles, hdeeper]
  constructor
  · rintro ((⟨x, hx, -, hs⟩ | ⟨x, hx, -, hs⟩) | ⟨x, hx, hs⟩)
    · exact ⟨x, hx, .inl hs⟩
    · exact ⟨x, hx, .inl hs⟩
    · exact ⟨x, hx, .inr hs⟩
  · rintro ⟨x, hx, hs | hs⟩
    · cases hfolder : isFolder x.2 with
      | true => exact .inl (.inl ⟨x, hx, hfolder, hs⟩)
      | false => exact .inl (.inr ⟨x, hx, hfolder, hs⟩)
    · exact .inr ⟨x, hx, hs⟩

/-- A walk comes to everything at the end of an open way. -/
theorem mem_walk_iff (sieve : Sieve) (e : Entry) :
    e.isProper = true → isFolder e = true → ∀ path s,
      (s ∈ walk sieve path e ↔ ∃ way found, way ≠ [] ∧ e.find? way = some found ∧
        Open sieve path way ∧ s = Stop.of (joinAll path way) found) := by
  induction e using Entry.induction with
  | file e hfile =>
    intro _ hfolder
    rw [isFolder, hfile] at hfolder
    cases hfolder
  | folder entries ih =>
    intro hproper _ path s
    obtain ⟨hnames, hin⟩ := (Entry.areProper_iff entries).1 hproper
    rw [mem_walk_folder_iff]
    constructor
    · rintro ⟨x, hx, rfl | ⟨hfolder, hopen, hs⟩⟩
      · have hlookup : entries.lookup x.1 = some x.2 := (Entry.lookup_eq_some_iff hnames).2 hx
        exact ⟨[x.1], x.2, by simp, by simp [Entry.find?, hlookup],
          open_singleton sieve path x.1, rfl⟩
      · have hlookup : entries.lookup x.1 = some x.2 := (Entry.lookup_eq_some_iff hnames).2 hx
        obtain ⟨way, found, hne, hfind, hway, rfl⟩ := (ih x hx (hin x hx).2 hfolder _ s).1 hs
        exact ⟨x.1 :: way, found, by simp, by simp [Entry.find?, hlookup, hfind],
          (open_cons_iff sieve path x.1 hne).2 ⟨hopen, hway⟩, rfl⟩
    · rintro ⟨way, found, hne, hfind, hopen, rfl⟩
      obtain ⟨name, rest, rfl⟩ := List.exists_cons_of_ne_nil hne
      rw [Entry.find?] at hfind
      cases hlookup : entries.lookup name with
      | none => simp [hlookup] at hfind
      | some next =>
        simp only [hlookup] at hfind
        have hx := (Entry.lookup_eq_some_iff hnames).1 hlookup
        refine ⟨(name, next), hx, ?_⟩
        cases rest with
        | nil =>
          cases hfind
          exact .inl rfl
        | cons second rest =>
          -- a way goes on only from a folder
          have hfolder : isFolder next = true := by
            cases next with
            | file bytes => cases hfind
            | locked size => cases hfind
            | folder entries => rfl
          obtain ⟨hname, hrest⟩ := (open_cons_iff sieve path name (by simp)).1 hopen
          exact .inr ⟨hfolder, hname,
            (ih _ hx (hin _ hx).2 hfolder _ _).2 ⟨_, found, by simp, hfind, hrest, rfl⟩⟩

theorem pairwise_comesBefore_byName {α : Type} {items : List (String × α)}
    (h : (items.map Prod.fst).Nodup) :
    (byName items).Pairwise fun x y => Text.comesBefore x.1 y.1 = true :=
  Text.pairwise_mergeSort_comesBefore Prod.fst items h

/-- What is taken of the things in a folder itself. -/
def takesOwn (sieve : Sieve) (path : String) (x : String × Entry) : Bool :=
  (accept? sieve (Stop.of (join path x.1) x.2)).isSome

theorem accept?_of (sieve : Sieve) (path : String) (x : String × Entry) :
    accept? sieve (Stop.of (join path x.1) x.2) =
      if takesOwn sieve path x then some (join path x.1) else none := by
  unfold takesOwn
  cases haccept : accept? sieve (Stop.of (join path x.1) x.2) with
  | none => rfl
  | some p =>
    cases hsize : x.2.size? with
    | none =>
      rw [Stop.of, hsize] at haccept
      cases haccept
    | some size =>
      have hpath := file?_of_accept? haccept
      rw [Stop.of_of_size? hsize] at hpath
      cases hpath
      rfl

theorem filterMap_fileStops (sieve : Sieve) (path : String) (entries : List (String × Entry)) :
    (fileStops path entries).filterMap (accept? sieve) =
      ((byName entries).filter (takesOwn sieve path)).map fun x => join path x.1 := by
  rw [fileStops, List.filterMap_filterMap, ← List.filterMap_eq_map, ← List.filterMap_eq_filter,
    List.filterMap_filterMap]
  refine List.filterMap_congr fun x _ => ?_
  have haccept := accept?_of sieve path x
  cases hsize : x.2.size? with
  | none =>
    have htakes : takesOwn sieve path x = false := by simp [takesOwn, Stop.of, hsize, accept?]
    simp [Option.guard, htakes, hsize]
  | some size =>
    rw [Stop.of_of_size? hsize] at haccept
    cases htakes : takesOwn sieve path x <;> simp_all [Option.guard]

/-- The folders that are gone into, in order. -/
def openFolders (sieve : Sieve) (path : String) (entries : List (String × Entry)) :
    List (String × Entry) :=
  byName (entries.filter fun x => isFolder x.2 && !sieve.ignored (join path x.1))

/-- First come the files of a folder, and then those of its folders. -/
theorem files_folder (sieve : Sieve) (path : String) (entries : List (String × Entry)) :
    files sieve path (.folder entries) =
      (((byName entries).filter (takesOwn sieve path)).map fun x => join path x.1) ++
        (openFolders sieve path entries).flatMap fun x => files sieve (join path x.1) x.2 := by
  have hfolders : (folderStops path entries).filterMap (accept? sieve) = [] := by
    rw [folderStops, List.filterMap_map, List.filterMap_eq_nil_iff]
    exact fun x _ => rfl
  have hsorted : byName (walkFolders sieve path entries) =
      (openFolders sieve path entries).map fun x => (x.1, walk sieve (join path x.1) x.2) := by
    rw [walkFolders_eq, openFolders, byName, byName, List.map_mergeSort]
    intro a _ b _
    rfl
  rw [files, walk, List.filterMap_append, List.filterMap_append, hfolders, List.nil_append,
    filterMap_fileStops, hsorted, List.flatMap_map, List.filterMap_flatMap]
  rfl

/-- The files that a walk takes come in order. -/
theorem exists_ways (sieve : Sieve) (e : Entry) :
    e.isProper = true → isFolder e = true → ∀ path, ∃ ways : List (List String),
      files sieve path e = ways.map (joinAll path) ∧ ways.Pairwise Earlier ∧
        ∀ way ∈ ways, way ≠ [] ∧ ∀ name ∈ way, isName name = true := by
  induction e using Entry.induction with
  | file e hfile =>
    intro _ hfolder
    rw [isFolder, hfile] at hfolder
    cases hfolder
  | folder entries ih =>
    intro hproper _ path
    obtain ⟨hnames, hin⟩ := (Entry.areProper_iff entries).1 hproper
    have hbelow : ∀ x, ∃ ways : List (List String), x ∈ openFolders sieve path entries →
        x ∈ entries ∧ files sieve (join path x.1) x.2 = ways.map (joinAll (join path x.1)) ∧
          ways.Pairwise Earlier ∧ ∀ way ∈ ways, way ≠ [] ∧ ∀ name ∈ way, isName name = true := by
      intro x
      by_cases hx : x ∈ openFolders sieve path entries
      · obtain ⟨hmem, htest⟩ := List.mem_filter.1 ((byName_perm _).mem_iff.1 hx)
        obtain ⟨ways, hways⟩ :=
          ih x hmem (hin x hmem).2 (Bool.and_eq_true_iff.1 htest).1 (join path x.1)
        exact ⟨ways, fun _ => ⟨hmem, hways⟩⟩
      · exact ⟨[], fun hx' => absurd hx' hx⟩
    choose below hbelow using hbelow
    have hordered : (openFolders sieve path entries).Pairwise fun x y =>
        Text.comesBefore x.1 y.1 = true :=
      pairwise_comesBefore_byName (hnames.sublist (List.filter_sublist.map _))
    refine ⟨(((byName entries).filter (takesOwn sieve path)).map fun x => [x.1]) ++
      (openFolders sieve path entries).flatMap fun x => (below x).map (x.1 :: ·), ?_, ?_, ?_⟩
    · rw [files_folder, List.map_append, List.map_map, List.map_flatMap]
      refine congrArg₂ (· ++ ·) rfl (List.flatMap_congr fun x hx => ?_)
      rw [(hbelow x hx).2.1, List.map_map]
      rfl
    · refine List.pairwise_append.2 ⟨?_, List.pairwise_flatMap.2 ⟨?_, ?_⟩, ?_⟩
      · rw [List.pairwise_map]
        exact ((pairwise_comesBefore_byName hnames).filter _).imp fun hlt => .files hlt
      · intro x hx
        rw [List.pairwise_map]
        exact (hbelow x hx).2.2.1.imp fun hearlier => .inside x.1 hearlier
      · refine hordered.imp_of_mem fun {x y} hx hy hlt v hv w hw => ?_
        obtain ⟨v, hbelowx, rfl⟩ := List.mem_map.1 hv
        obtain ⟨w, hbelowy, rfl⟩ := List.mem_map.1 hw
        exact .folders hlt ((hbelow x hx).2.2.2 v hbelowx).1 ((hbelow y hy).2.2.2 w hbelowy).1
      · intro v hv w hw
        obtain ⟨x, -, rfl⟩ := List.mem_map.1 hv
        obtain ⟨y, hy, hdeeper⟩ := List.mem_flatMap.1 hw
        obtain ⟨w, hbelowy, rfl⟩ := List.mem_map.1 hdeeper
        exact .fileFirst ((hbelow y hy).2.2.2 w hbelowy).1
    · intro way hway
      obtain hway | hway := List.mem_append.1 hway
      · obtain ⟨x, hx, rfl⟩ := List.mem_map.1 hway
        have hname := (hin x ((byName_perm entries).mem_iff.1 (List.mem_filter.1 hx).1)).1
        simpa using hname
      · obtain ⟨x, hx, hway⟩ := List.mem_flatMap.1 hway
        obtain ⟨w, hw, rfl⟩ := List.mem_map.1 hway
        obtain ⟨hmem, -, -, hall⟩ := hbelow x hx
        exact ⟨by simp, List.forall_mem_cons.2 ⟨(hin x hmem).1, (hall w hw).2⟩⟩

theorem ne_nil_of_sizeAt? {e : Entry} (hfolder : isFolder e = true) {way : List String}
    {size : Nat} (h : e.sizeAt? way = some size) : way ≠ [] := by
  rintro rfl
  have hsize : e.size? = some size := by simpa [Entry.sizeAt?, Entry.find?] using h
  rw [isFolder_iff.1 hfolder] at hsize
  cases hsize

/-- A walk takes the file at the end of a way. -/
def Taken (sieve : Sieve) (path : String) (e : Entry) (way : List String) : Prop :=
  ∃ size, e.sizeAt? way = some size ∧ Open sieve path way ∧
    (accept? sieve (.file (joinAll path way) size)).isSome

/-- A walk takes a file if neither it nor a folder on the way is ignored, and if it passes the
other tests. -/
theorem taken_iff_unignored (sieve : Sieve) {e : Entry} (hfolder : isFolder e = true)
    (path : String) (way : List String) :
    Taken sieve path e way ↔ ∃ size, e.sizeAt? way = some size ∧
      (∀ v, v ≠ [] → v <+: way → sieve.ignored (joinAll path v) = false) ∧
      sieve.included (joinAll path way) = true ∧
      sieve.fits (joinAll path way) size = true ∧
      sieve.known (joinAll path way) = true := by
  refine exists_congr fun size => and_congr_right fun hsize => ?_
  have hne := ne_nil_of_sizeAt? hfolder hsize
  have haccept : (accept? sieve (.file (joinAll path way) size)).isSome = true ↔
      sieve.ignored (joinAll path way) = false ∧ sieve.included (joinAll path way) = true ∧
        sieve.fits (joinAll path way) size = true ∧
        sieve.known (joinAll path way) = true := by
    simp [accept?, and_assoc]
  rw [haccept]
  constructor
  · rintro ⟨hopen, hown, hrest⟩
    refine ⟨fun v hv hbefore => ?_, hrest⟩
    by_cases hend : v = way
    · exact hend ▸ hown
    · exact hopen v hv hbefore hend
  · rintro ⟨hopen, hrest⟩
    exact ⟨fun v hv hbefore _ => hopen v hv hbefore, hopen way hne (List.prefix_refl way), hrest⟩

theorem mem_files_iff (sieve : Sieve) {e : Entry} (hproper : e.isProper = true)
    (hfolder : isFolder e = true) (path : String) {way : List String}
    (hnames : ∀ name ∈ way, isName name = true) :
    joinAll path way ∈ files sieve path e ↔ Taken sieve path e way := by
  rw [files, List.mem_filterMap]
  constructor
  · rintro ⟨s, hs, haccept⟩
    obtain ⟨other, found, -, hfind, hopen, rfl⟩ :=
      (mem_walk_iff sieve e hproper hfolder path s).1 hs
    cases hsize : found.size? with
    | none =>
      rw [Stop.of, hsize] at haccept
      cases haccept
    | some size =>
      rw [Stop.of_of_size? hsize] at haccept
      have hjoin : joinAll path other = joinAll path way :=
        Option.some.inj (file?_of_accept? haccept)
      have hsame := joinAll_inj (Entry.isProper_of_find? hproper hfind).2 hnames hjoin
      subst hsame
      exact ⟨size, Entry.sizeAt?_eq_some_iff.2 ⟨found, hfind, hsize⟩, hopen,
        Option.isSome_of_eq_some haccept⟩
  · rintro ⟨size, hat, hopen, haccept⟩
    have hne := ne_nil_of_sizeAt? hfolder hat
    obtain ⟨found, hfind, hsize⟩ := Entry.sizeAt?_eq_some_iff.1 hat
    obtain ⟨p, hp⟩ := Option.isSome_iff_exists.1 haccept
    have hpath : joinAll path way = p := Option.some.inj (file?_of_accept? hp)
    refine ⟨.file (joinAll path way) size, ?_, hpath ▸ hp⟩
    rw [mem_walk_iff sieve e hproper hfolder path]
    exact ⟨way, found, hne, hfind, hopen, (Stop.of_of_size? hsize _).symm⟩

/-- A walk takes the files at the ends of open ways that pass the tests, in order. -/
theorem exists_ways_taken (sieve : Sieve) {e : Entry} (hproper : e.isProper = true)
    (hfolder : isFolder e = true) (path : String) :
    ∃ ways : List (List String), files sieve path e = ways.map (joinAll path) ∧
      ways.Pairwise Earlier ∧ ∀ way, way ∈ ways ↔ Taken sieve path e way := by
  obtain ⟨ways, hfiles, hordered, hnames⟩ := exists_ways sieve e hproper hfolder path
  have hmem : ∀ {way}, (∀ name ∈ way, isName name = true) →
      (way ∈ ways ↔ Taken sieve path e way) := by
    intro way hway
    rw [← mem_files_iff sieve hproper hfolder path hway, hfiles,
      joinAll_mem_map_iff (fun other hother => (hnames other hother).2) hway]
  refine ⟨ways, hfiles, hordered, fun way => ⟨fun hway => ?_, fun htaken => ?_⟩⟩
  · exact (hmem (hnames way hway).2).1 hway
  · obtain ⟨size, hat, -⟩ := id htaken
    obtain ⟨found, hfind, -⟩ := Entry.sizeAt?_eq_some_iff.1 hat
    exact (hmem (Entry.isProper_of_find? hproper hfind).2).2 htaken

end Discovery

end QueryLint
