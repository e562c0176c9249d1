import QueryLint.Proofs.Engine.FoundFiles
import QueryLint.Proofs.Engine.Threshold

/-!
# Ignoring more

An engine that ignores more than another finds the same files, less those that the additional
patterns hit or that lie in a folder which they hit. This holds for all settings with which the
other finds files at all: patterns are asked one after another, and the additional ones come last.
What a scan finds in the files that are left is what it finds without the additional patterns.
-/

namespace QueryLint

namespace Patterns

/-- What some patterns say, and beyond that some more. -/
def Extends (all patterns : Patterns) (more : List String) : Prop :=
  ∀ path name b, patterns.ask path name = .ok b → all.ask path name = .ok (b || hit more path name)

theorem ask_cons (text : String) (p : Patterns) (path name : String) :
    (Patterns.mk (text :: p.texts) p.failure).ask path name =
      if Glob.matchesName text path || Glob.matchesName text name then .ok true
      else p.ask path name := by
  rw [ask, ask, hit, List.any_cons]
  cases Glob.matchesName text path || Glob.matchesName text name <;> rfl

theorem ask_of_no_texts {f : Failure} {path name : String} {b : Bool} :
    (Patterns.mk [] (some f)).ask path name ≠ .ok b := by
  intro hask
  rw [ask] at hask
  cases hask

theorem ofItems_append_extends (items : List Datum) (more : List String) :
    (ofItems (items ++ more.map .text)).Extends (ofItems items) more := by
  intro path name b hb
  induction items with
  | nil =>
    cases hb
    rw [List.nil_append, ofItems_map_text, ask]
    cases hit more path name <;> rfl
  | cons d items ih =>
    cases d with
    | text s =>
      rw [ofItems, ask_cons] at hb
      rw [List.cons_append, ofItems, ask_cons]
      split at hb
      next hmatch =>
        cases hb
        rw [if_pos hmatch, Bool.true_or]
      next hmatch =>
        rw [if_neg hmatch, ih hb]
    | _ => exact absurd hb ask_of_no_texts

theorem extends_of_subset {texts more : List String} (h : texts ⊆ more) :
    (Patterns.mk more none).Extends ⟨texts, none⟩ more := by
  intro path name b hb
  have hask : ∀ texts : List String,
      (Patterns.mk texts none).ask path name = .ok (hit texts path name) := by
    intro texts
    rw [ask]
    cases hit texts path name <;> rfl
  rw [hask] at hb ⊢
  cases hb
  cases hown : hit texts path name with
  | false => rfl
  | true =>
    obtain ⟨p, hp, hmatch⟩ := List.any_eq_true.1 hown
    exact congrArg Except.ok (List.any_eq_true.2 ⟨p, h hp, hmatch⟩)

end Patterns

namespace Engine

open Patterns QueryLint.Path

theorem decided_eq_true_iff (r : Except Failure Bool) : decided r = true ↔ r = .ok true := by
  cases r <;> simp [decided]

section

variable {e : Engine} {ignore : Datum} {more : List String} {current : List String}
  {target : String}

/-- The same engine with other patterns of what to ignore. -/
def ignoring (e : Engine) (ignore : Datum) : Engine := { e with ignorePatterns := ignore }

theorem ignores_ignoring (hmore : (ofDatum ignore).Extends (ofDatum e.ignorePatterns) more)
    {v : List String} (hne : v ≠ []) (hnames : ∀ name ∈ v, isName name = true) {b : Bool}
    (hb : e.ignores current (joinAll (plain target) v) target = .ok b) :
    (e.ignoring ignore).ignores current (joinAll (plain target) v) target =
      .ok (b || decide (Hit more v)) := by
  rw [ignores_joinAll _ current target hne hnames] at hb ⊢
  have hhit : hit more (Text.joinWith "/" v) (v.getLastD "") = decide (Hit more v) :=
    Bool.eq_iff_iff.2 ((hit_iff more v).trans (decide_eq_true_iff).symm)
  rw [← hhit]
  exact hmore _ _ b hb

theorem includes_ignoring (path base : String) :
    (e.ignoring ignore).includes current path base = e.includes current path base := rfl

/-- A folder that is gone into with more patterns is also gone into without them. -/
theorem open_of_open_ignoring (hmore : (ofDatum ignore).Extends (ofDatum e.ignorePatterns) more)
    {way : List String} (hnames : ∀ name ∈ way, isName name = true)
    (hopen : Discovery.Open ((e.ignoring ignore).sieve current target) (plain target) way) :
    Discovery.Open (e.sieve current target) (plain target) way := by
  intro v hne hbefore hproper
  have hv : ∀ name ∈ v, isName name = true := fun name hname => hnames name (hbefore.mem hname)
  have hspared := hopen v hne hbefore hproper
  rw [sieve_ignored] at hspared ⊢
  rw [← Bool.not_eq_true, decided_eq_true_iff] at hspared ⊢
  intro hignored
  exact hspared (ignores_ignoring hmore hne hv hignored)

/-- Where all tests succeed they do so with more patterns. -/
theorem checkStop_ignoring (hmore : (ofDatum ignore).Extends (ofDatum e.ignorePatterns) more)
    {way : List String} (hne : way ≠ []) (hnames : ∀ name ∈ way, isName name = true)
    {found : Entry}
    (hcheck : e.checkStop current target (.of (joinAll (plain target) way) found) = .ok ()) :
    (e.ignoring ignore).checkStop current target (.of (joinAll (plain target) way) found) =
      .ok () := by
  unfold Discovery.Stop.of at hcheck ⊢
  generalize found.size? = size? at hcheck ⊢
  cases size? with
  | none =>
    dsimp only at hcheck ⊢
    rw [checkStop] at hcheck ⊢
    obtain ⟨b, hb, -⟩ := bind_eq_ok_iff.1 hcheck
    rw [ignores_ignoring hmore hne hnames hb]
    rfl
  | some size =>
    dsimp only at hcheck ⊢
    rw [checkStop] at hcheck ⊢
    obtain ⟨b, hb, hrest⟩ := bind_eq_ok_iff.1 hcheck
    rw [ignores_ignoring hmore hne hnames hb, includes_ignoring]
    cases b with
    | true => rfl
    | false =>
      cases decide (Hit more way) with
      | true => rfl
      | false => exact hrest

theorem exists_ignores_of_checkStop {path : String} {found : Entry}
    (hcheck : e.checkStop current target (.of path found) = .ok ()) :
    ∃ b, e.ignores current path target = .ok b := by
  unfold Discovery.Stop.of at hcheck
  generalize found.size? = size? at hcheck
  cases size? with
  | none =>
    obtain ⟨b, hb, -⟩ := bind_eq_ok_iff.1 hcheck
    exact ⟨b, hb⟩
  | some size =>
    obtain ⟨b, hb, -⟩ := bind_eq_ok_iff.1 hcheck
    exact ⟨b, hb⟩

/-- Where a walk comes to without the additional patterns, these add what they hit. -/
theorem sieve_ignored_ignoring (hmore : (ofDatum ignore).Extends (ofDatum e.ignorePatterns) more)
    {folder : Entry} (hproper : folder.isProper = true) (hfolder : Discovery.isFolder folder = true)
    (hchecks : ∀ s ∈ Discovery.walk (e.sieve current target) (plain target) folder,
      e.checkStop current target s = .ok ()) {v : List String} {found : Entry} (hne : v ≠ [])
    (hfind : folder.find? v = some found)
    (hopen : Discovery.Open (e.sieve current target) (plain target) v) :
    ((e.ignoring ignore).sieve current target).ignored (joinAll (plain target) v) =
      ((e.sieve current target).ignored (joinAll (plain target) v) || decide (Hit more v)) := by
  have hstop := (Discovery.mem_walk_iff _ folder hproper hfolder (plain target) _).2
    ⟨v, found, hne, hfind, hopen, rfl⟩
  obtain ⟨b, hb⟩ := exists_ignores_of_checkStop (hchecks _ hstop)
  have hnames := (Entry.isProper_of_find? hproper hfind).2
  rw [sieve_ignored, sieve_ignored, hb, ignores_ignoring hmore hne hnames hb]
  rfl

theorem taken_ignoring_iff (hmore : (ofDatum ignore).Extends (ofDatum e.ignorePatterns) more)
    {folder : Entry} (hproper : folder.isProper = true) (hfolder : Discovery.isFolder folder = true)
    (hchecks : ∀ s ∈ Discovery.walk (e.sieve current target) (plain target) folder,
      e.checkStop current target s = .ok ()) (way : List String) :
    Discovery.Taken ((e.ignoring ignore).sieve current target) (plain target) folder way ↔
      Discovery.Taken (e.sieve current target) (plain target) folder way ∧ Spares more way := by
  have hignored : ∀ {v : List String} {found : Entry}, v ≠ [] → folder.find? v = some found →
      Discovery.Open (e.sieve current target) (plain target) v →
      (((e.ignoring ignore).sieve current target).ignored (joinAll (plain target) v) = false ↔
        (e.sieve current target).ignored (joinAll (plain target) v) = false ∧ ¬ Hit more v) := by
    intro v found hne hfind hopen
    rw [sieve_ignored_ignoring hmore hproper hfolder hchecks hne hfind hopen]
    simp
  rw [Discovery.taken_iff_unignored _ hfolder, Discovery.taken_iff_unignored _ hfolder]
  simp only [sieve_included, sieve_fits, sieve_known, includes_ignoring]
  constructor
  · rintro ⟨size, hat, hspared, hrest⟩
    obtain ⟨file, hfind, -⟩ := Entry.sizeAt?_eq_some_iff.1 hat
    have hnames := (Entry.isProper_of_find? hproper hfind).2
    have hopen : Discovery.Open (e.sieve current target) (plain target) way :=
      open_of_open_ignoring hmore hnames fun v hne hbefore _ => hspared v hne hbefore
    have hboth : ∀ v, v ≠ [] → v <+: way →
        (e.sieve current target).ignored (joinAll (plain target) v) = false ∧ ¬ Hit more v := by
      intro v hne hbefore
      obtain ⟨next, hnext⟩ := Entry.exists_find?_of_prefix hbefore hfind
      exact (hignored hne hnext (hopen.of_prefix hbefore)).1 (hspared v hne hbefore)
    exact ⟨⟨size, hat, fun v hne hbefore => (hboth v hne hbefore).1, hrest⟩,
      fun v hne hbefore => (hboth v hne hbefore).2⟩
  · rintro ⟨⟨size, hat, hunignored, hrest⟩, hspares⟩
    obtain ⟨file, hfind, -⟩ := Entry.sizeAt?_eq_some_iff.1 hat
    have hopen : Discovery.Open (e.sieve current target) (plain target) way :=
      fun v hne hbefore _ => hunignored v hne hbefore
    refine ⟨size, hat, fun v hne hbefore => ?_, hrest⟩
    obtain ⟨next, hnext⟩ := Entry.exists_find?_of_prefix hbefore hfind
    exact (hignored hne hnext (hopen.of_prefix hbefore)).2
      ⟨hunignored v hne hbefore, hspares v hne hbefore⟩

end

/-- An engine that ignores more finds, in the same order, the files that the additional patterns
spare. -/
theorem discover_ignoring {e : Engine} {fs : FileSystem} {target : String}
    {entries : List (String × Entry)} {paths : List String} (htree : fs.root.isProper = true)
    (hfolder : fs.find? (plain target) = some (.folder entries))
    (hfound : e.discover fs target = .ok paths) :
    ∃ ways : List (List String), paths = ways.map (joinAll (plain target)) ∧
      (∀ way ∈ ways, ∃ size, (Entry.folder entries).sizeAt? way = some size) ∧
      ∀ ignore more, (ofDatum ignore).Extends (ofDatum e.ignorePatterns) more →
        (e.ignoring ignore).discover fs target =
          .ok ((ways.filter (Spares more ·)).map (joinAll (plain target))) := by
  obtain ⟨hproper, -⟩ := FileSystem.isSpeakable_of_find? htree hfolder
  obtain ⟨hchecks, hfiles⟩ := (discover_eq_ok_iff hfolder).1 hfound
  obtain ⟨ways, hways, hordered, htaken⟩ :=
    Discovery.exists_ways_taken (e.sieve fs.current target) hproper rfl (plain target)
  refine ⟨ways, hfiles.symm.trans hways, fun way hway => ?_, fun ignore more hmore => ?_⟩
  · obtain ⟨size, hat, -⟩ := (htaken way).1 hway
    exact ⟨size, hat⟩
  · obtain ⟨ways', hways', hordered', htaken'⟩ :=
      Discovery.exists_ways_taken ((e.ignoring ignore).sieve fs.current target) hproper rfl
        (plain target)
    have hsame : ways' = ways.filter (Spares more ·) := by
      refine Discovery.eq_of_earlier hordered' (hordered.filter _) fun way => ?_
      rw [htaken', taken_ignoring_iff hmore hproper rfl hchecks, List.mem_filter, htaken,
        decide_eq_true_iff]
    refine (discover_eq_ok_iff hfolder).2 ⟨fun s hs => ?_, hsame ▸ hways'⟩
    -- where the walk with more patterns comes to, the one without them has been
    obtain ⟨way, found, hne, hfind, hopen, rfl⟩ :=
      (Discovery.mem_walk_iff _ _ hproper rfl (plain target) s).1 hs
    have hnames := (Entry.isProper_of_find? hproper hfind).2
    refine checkStop_ignoring hmore hne hnames (hchecks _ ?_)
    exact (Discovery.mem_walk_iff _ _ hproper rfl (plain target) _).2
      ⟨way, found, hne, hfind, open_of_open_ignoring hmore hnames hopen, rfl⟩

/-- Without some of the files a scan finds the same in the others. -/
theorem scan_of_fewer_files {judge : SqlRules.Judge} {settings : Datum}
    {limits : Document.Limits} {e e' : Engine} {fs : FileSystem} {target : String}
    {paths : List String} {p : String → Bool} {r : ScanResult}
    (hmade : ofSettings (SqlRules.registry judge) settings limits = .ok e)
    (hworkers : e'.maxWorkers = e.maxWorkers) (hthreshold : e'.threshold = e.threshold)
    (hrules : e'.rules = e.rules) (hlimits : e'.limits = e.limits)
    (hfound : e.discover fs target = .ok paths)
    (hfound' : e'.discover fs target = .ok (paths.filter p)) (hscan : e.scan fs target = .ok r) :
    ∃ r', e'.scan fs target = .ok r' ∧
      r'.findings = r.findings.filter fun f => p f.location.path := by
  have hfile : e'.scanFile fs = e.scanFile fs := scanFile_congr_engine hthreshold hrules hlimits
  obtain ⟨hstart, hends, rfl⟩ := (scan_eq_ok_iff hfound).1 hscan
  have hstart' : e'.CanStart fs target (paths.filter p) := by
    refine ⟨hstart.1, hstart.2.imp (fun hfew => ?_) fun hnumber => hworkers ▸ hnumber⟩
    exact (List.length_filter_le p paths).trans hfew
  refine ⟨_, (scan_eq_ok_iff hfound').2 ⟨hstart', fun q hq => ?_, rfl⟩, ?_⟩
  · rw [hfile]
    exact hends q (List.mem_filter.1 hq).1
  · have hown : ∀ q ∈ paths, ∀ f ∈ (e.scanFile fs q).findings, f.location.path = q :=
      fun q _ f hf => path_of_mem_scanFile hmade hf
    simp only [resultOf, List.flatMap_map, hfile]
    rw [Finding.filter_sort, Finding.filter_flatMap_by_label hown p]

end Engine

end QueryLint
