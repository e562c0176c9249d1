import QueryLint.Proofs.Engine.RuleSelection
import QueryLint.Proofs.Settings.Mapping

/-!
# Sections without a value

A section may be written with nothing in it, so that its value is null. The sections `scan` and
`sql` are then read as if they were missing. Null in place of `rules` or `output` is kept as it is,
unless `scan` has an entry of that name, and settings whose rules are null make no engine.
-/

namespace QueryLint

open Engine (bind_eq_ok_iff)

theorem Datum.lookup_textEntries (key : String) (entries : List (Datum × Datum)) :
    (textEntries entries).lookup key = find? key entries := by
  induction entries with
  | nil => rfl
  | cons entry entries ih =>
    obtain ⟨k, v⟩ := entry
    cases k with
    | text k =>
      change ((k, v) :: textEntries entries).lookup key = find? key ((text k, v) :: entries)
      rw [List.lookup_cons, find?, ih, Bool.beq_comm]
      cases k == key <;> rfl
    | _ => exact ih

theorem Json.lookup_cons_eq_ite {α : Type} (key other : String) (value : α)
    (entries : List (String × α)) :
    ((key, value) :: entries).lookup other =
      if other = key then some value else entries.lookup other := by
  rw [List.lookup_cons]
  split <;> simp_all

/-- A key that is set between other entries is found there if it is not among them. -/
theorem Datum.find?_insert {before after : List (Datum × Datum)} {name : String}
    (hmissing : find? name (before ++ after) = none) (value : Datum) (key : String) :
    find? key (before ++ (text name, value) :: after) =
      if key = name then some value else find? key (before ++ after) := by
  have happend (entries : List (Datum × Datum)) :
      find? key (before ++ entries) = (find? key before).or (find? key entries) := by
    simp only [← lookup_textEntries, textEntries, List.filterMap_append, List.lookup_append]
  have hcons : find? key ((text name, value) :: after) =
      if key = name then some value else find? key after := by
    rw [← lookup_textEntries, ← lookup_textEntries]
    exact Json.lookup_cons_eq_ite name key value _
  rw [happend, happend, hcons]
  split
  case isTrue heq =>
    subst heq
    rw [happend, Option.or_eq_none_iff] at hmissing
    rw [hmissing.1, Option.none_or]
  case isFalse => rfl

theorem Json.lookup_setKey {α : Type} (key other : String) (value : α)
    (entries : List (String × α)) :
    (setKey key value entries).lookup other =
      if other = key then some value else entries.lookup other := by
  split
  case isTrue h => rw [h, lookup_setKey_self]
  case isFalse h => exact lookup_setKey_of_ne _ _ h

namespace Settings

/-- Sets some keys, one after the other. -/
def setAll (changes entries : List (String × Datum)) : List (String × Datum) :=
  changes.foldl (fun acc (k, v) => Json.setKey k v acc) entries

/-- The last change of a key counts. -/
theorem lookup_setAll (changes entries : List (String × Datum)) (key : String) :
    (setAll changes entries).lookup key = (changes.reverse.lookup key).or (entries.lookup key) := by
  induction changes generalizing entries with
  | nil => rfl
  | cons change changes ih =>
    obtain ⟨k, v⟩ := change
    have hcons : setAll ((k, v) :: changes) entries =
        setAll changes (Json.setKey k v entries) := rfl
    rw [hcons, ih, Json.lookup_setKey, List.reverse_cons, List.lookup_append,
      Json.lookup_cons_eq_ite, Option.or_assoc]
    split <;> rfl

theorem lookup_takeOut (key other : String) (entries : List (String × Datum)) :
    (takeOut key entries).2.lookup other = if other = key then none else entries.lookup other := by
  rw [takeOut]
  induction entries with
  | nil => simp
  | cons entry entries ih =>
    obtain ⟨k, v⟩ := entry
    by_cases hk : k = key
    · subst hk
      rw [List.filter_cons_of_neg (by simp), ih, Json.lookup_cons_eq_ite]
      split <;> rfl
    · rw [List.filter_cons_of_pos (by simpa using hk), Json.lookup_cons_eq_ite,
        Json.lookup_cons_eq_ite, ih]
      by_cases ho : other = k
      · rw [if_pos ho, if_pos ho, if_neg (ho ▸ hk)]
      · rw [if_neg ho, if_neg ho]

/-- The list of markers at a key, if there are any. -/
def markerChanges (key : String) (markers : Datum) : Except Failure (List (String × Datum)) :=
  if markers.isFilled then do return [(key, .list (← markers.items))] else .ok []

def dialectChanges (sql : Datum) : Except Failure (List (String × Datum)) := do
  if ← sql.contains "dialect" then return [("dialect", ← sql.at_ "dialect")] else return []

/-- What the section `sql` changes. -/
def sqlChanges (sql : Datum) : Except Failure (List (String × Datum)) := do
  let dialect ← dialectChanges sql
  let markers := (← sql.member "markers").orElse (.mapping [])
  let constructors ← markerChanges "constructor_markers" (← markers.member "constructors")
  let properties ← markerChanges "property_markers" (← markers.member "properties")
  return dialect ++ constructors ++ properties

/-- The section `scan` of a mapping; one without a value is empty. -/
def scanSection (entries : List (String × Datum)) : Datum :=
  (takeOut "scan" entries).1.orElse (.mapping [])

theorem setMarkers_eq (key : String) (markers : Datum) (entries : List (String × Datum)) :
    setMarkers key markers entries = (return setAll (← markerChanges key markers) entries) := by
  unfold setMarkers markerChanges
  cases markers.isFilled with
  | false => rfl
  | true => cases markers.items <;> rfl

theorem setAll_setAll (changes changes' entries : List (String × Datum)) :
    setAll changes' (setAll changes entries) = setAll (changes ++ changes') entries :=
  List.foldl_append.symm

/-- Lifts the section `sql`. -/
def liftSql (sql : Datum) (entries : List (String × Datum)) :
    Except Failure (List (String × Datum)) := do
  let entries ←
    if ← sql.contains "dialect" then pure (Json.setKey "dialect" (← sql.at_ "dialect") entries)
    else pure entries
  let markers := (← sql.member "markers").orElse (.mapping [])
  let entries ← setMarkers "constructor_markers" (← markers.member "constructors") entries
  setMarkers "property_markers" (← markers.member "properties") entries

/-- What is changed depends on the section alone. -/
theorem liftSql_eq (sql : Datum) (entries : List (String × Datum)) :
    liftSql sql entries = (return setAll (← sqlChanges sql) entries) := by
  have hone (v : Datum) : Json.setKey "dialect" v entries = setAll [("dialect", v)] entries := rfl
  simp only [liftSql, sqlChanges, dialectChanges, setMarkers_eq, hone, bind_assoc]
  refine bind_congr fun named => ?_
  cases named <;> simp [setAll_setAll]

theorem flatten_eq (entries : List (String × Datum)) :
    flatten entries = (do
      let pairs ← (scanSection entries).pairs
      let lifted := setAll (Datum.textEntries pairs) (takeOut "scan" entries).2
      let changes ← sqlChanges ((takeOut "sql" lifted).1.orElse (.mapping []))
      return setAll changes (takeOut "sql" lifted).2) := by
  have hlift : flatten entries = (do
      let lifted ← (scanSection entries).addEntries (takeOut "scan" entries).2
      liftSql ((takeOut "sql" lifted).1.orElse (.mapping [])) (takeOut "sql" lifted).2) := rfl
  rw [hlift, Datum.addEntries]
  cases (scanSection entries).pairs with
  | error failure => rfl
  | ok pairs => exact liftSql_eq _ _

theorem mem_markerChanges {key : String} {markers : Datum} {changes : List (String × Datum)}
    (h : markerChanges key markers = .ok changes) {change : String × Datum}
    (hmem : change ∈ changes) : change.1 = key := by
  unfold markerChanges at h
  split at h
  · obtain ⟨items, -, hone⟩ := bind_eq_ok_iff.1 h
    cases hone
    rw [List.mem_singleton.1 hmem]
  · cases h
    cases hmem

theorem mem_dialectChanges {sql : Datum} {changes : List (String × Datum)}
    (h : dialectChanges sql = .ok changes) {change : String × Datum} (hmem : change ∈ changes) :
    change.1 = "dialect" := by
  obtain ⟨named, -, h⟩ := bind_eq_ok_iff.1 h
  cases named with
  | false =>
    cases h
    cases hmem
  | true =>
    obtain ⟨value, -, hone⟩ := bind_eq_ok_iff.1 h
    cases hone
    rw [List.mem_singleton.1 hmem]

/-- The section `sql` sets the dialect and the markers, and nothing else. -/
theorem mem_sqlChanges {sql : Datum} {changes : List (String × Datum)}
    (h : sqlChanges sql = .ok changes) {change : String × Datum} (hmem : change ∈ changes) :
    change.1 ∈ ["dialect", "constructor_markers", "property_markers"] := by
  simp only [sqlChanges, bind_eq_ok_iff] at h
  obtain ⟨dialect, hdialect, _, -, _, -, constructors, hconstructors, _, -, properties,
    hproperties, hall⟩ := h
  cases hall
  obtain (hmem | hmem) | hmem := (List.mem_append.1 hmem).imp_left List.mem_append.1
  · simp [mem_dialectChanges hdialect hmem]
  · simp [mem_markerChanges hconstructors hmem]
  · simp [mem_markerChanges hproperties hmem]

/-- The second mapping differs from the first at most in one name, which is null there and missing
here. -/
def AddsNull (name : String) (entries entries' : List (String × Datum)) : Prop :=
  ∀ key, entries.lookup key = entries'.lookup key ∨
    key = name ∧ entries.lookup key = none ∧ entries'.lookup key = some .null

namespace AddsNull

variable {name : String} {entries entries' : List (String × Datum)}

theorem of_textEntries {before after : List (Datum × Datum)}
    (hmissing : Datum.find? name (before ++ after) = none) :
    AddsNull name (Datum.textEntries (before ++ after))
      (Datum.textEntries (before ++ (.text name, .null) :: after)) := by
  intro key
  rw [Datum.lookup_textEntries, Datum.lookup_textEntries, Datum.find?_insert hmissing]
  split
  case isTrue heq => exact .inr ⟨heq, heq ▸ hmissing, rfl⟩
  case isFalse => exact .inl rfl

theorem lookup_of_ne (h : AddsNull name entries entries') {key : String} (hkey : key ≠ name) :
    entries.lookup key = entries'.lookup key :=
  (h key).resolve_right fun hnull => hkey hnull.1

theorem setAll (h : AddsNull name entries entries') (changes : List (String × Datum)) :
    AddsNull name (setAll changes entries) (setAll changes entries') := by
  intro key
  rw [lookup_setAll, lookup_setAll]
  cases changes.reverse.lookup key with
  | some value => exact .inl rfl
  | none =>
    rw [Option.none_or, Option.none_or]
    exact h key

/-- A section that is missing and one that is null are taken out as the same value. -/
theorem takeOut_fst (h : AddsNull name entries entries') (key : String) :
    (takeOut key entries).1 = (takeOut key entries').1 := by
  rw [takeOut, takeOut]
  obtain heq | ⟨-, hnone, hnull⟩ := h key
  · rw [heq]
  · rw [hnone, hnull]
    rfl

theorem takeOut_snd (h : AddsNull name entries entries') (key : String) :
    AddsNull name (takeOut key entries).2 (takeOut key entries').2 := by
  intro other
  rw [lookup_takeOut, lookup_takeOut]
  split
  · exact .inl rfl
  · exact h other

theorem flatten (h : AddsNull name entries entries') {flat : List (String × Datum)}
    (hflat : flatten entries = .ok flat) :
    ∃ flat', Settings.flatten entries' = .ok flat' ∧ AddsNull name flat flat' := by
  rw [flatten_eq] at hflat
  obtain ⟨pairs, hpairs, hflat⟩ := bind_eq_ok_iff.1 hflat
  obtain ⟨changes, hchanges, hflat⟩ := bind_eq_ok_iff.1 hflat
  cases hflat
  have hlifted := (h.takeOut_snd "scan").setAll (Datum.textEntries pairs)
  refine ⟨_, ?_, (hlifted.takeOut_snd "sql").setAll changes⟩
  rw [scanSection, h.takeOut_fst] at hpairs
  rw [hlifted.takeOut_fst] at hchanges
  rw [flatten_eq]
  exact bind_eq_ok_iff.2 ⟨pairs, hpairs, bind_eq_ok_iff.2 ⟨changes, hchanges, rfl⟩⟩

end AddsNull

/-- What stands at `rules` or `output` once the sections are lifted: what `scan` has there, or what
stood there before. -/
theorem lookup_flatten {entries flat : List (String × Datum)} (h : flatten entries = .ok flat)
    {key : String} (hkey : key ∈ ["rules", "output"]) :
    ∃ pairs, (scanSection entries).pairs = .ok pairs ∧
      flat.lookup key = ((Datum.textEntries pairs).reverse.lookup key).or (entries.lookup key) := by
  rw [flatten_eq] at h
  obtain ⟨pairs, hpairs, h⟩ := bind_eq_ok_iff.1 h
  obtain ⟨changes, hchanges, h⟩ := bind_eq_ok_iff.1 h
  cases h
  have hnone : changes.reverse.lookup key = none := by
    refine List.lookup_eq_none_iff.2 fun change hchange => bne_iff_ne.2 fun heq => ?_
    have hset := mem_sqlChanges hchanges (List.mem_reverse.1 hchange)
    rw [← heq] at hset
    revert hset
    fin_cases hkey <;> decide
  have hsections : key ≠ "sql" ∧ key ≠ "scan" := by fin_cases hkey <;> decide
  refine ⟨pairs, hpairs, ?_⟩
  rw [lookup_setAll, hnone, Option.none_or, lookup_takeOut, if_neg hsections.1, lookup_setAll,
    lookup_takeOut, if_neg hsections.2]

/-- The settings of a flat mapping apart from its sections. -/
def unsectioned (entries : List (String × Datum)) : Settings :=
  let get (key : String) (default : Datum) : Datum := (entries.lookup key).getD default
  let d : Settings := {}
  { d with
    target := get "target" d.target
    excludePatterns := get "exclude" (get "exclude_patterns" d.excludePatterns)
    includePatterns := get "include" (get "include_patterns" d.includePatterns)
    maxFileSize := get "max_file_size" d.maxFileSize
    maxWorkers := get "max_workers" d.maxWorkers
    dialect := get "dialect" d.dialect
    constructorMarkers := get "constructor_markers" d.constructorMarkers
    propertyMarkers := get "property_markers" d.propertyMarkers
    severityThreshold := get "severity_threshold" d.severityThreshold }

def rulesOf (value : Option Datum) : Except Failure RuleSettings :=
  value.elim (.ok (.lists [] [])) RuleSettings.ofDatum

def outputOf (value : Option Datum) : Except Failure OutputSettings :=
  value.elim (.ok (.options {})) OutputSettings.ofDatum

theorem ofFlat_eq (entries : List (String × Datum)) :
    ofFlat entries = (do
      let rules ← rulesOf (entries.lookup "rules")
      let output ← outputOf (entries.lookup "output")
      return { unsectioned entries with rules, output }) := by
  unfold ofFlat rulesOf outputOf
  cases entries.lookup "rules" <;> cases entries.lookup "output" <;> rfl

def sectionNames : List String := ["scan", "sql", "rules", "output"]

theorem unsectioned_congr {entries entries' : List (String × Datum)}
    (h : ∀ key, key ∉ sectionNames → entries.lookup key = entries'.lookup key) :
    unsectioned entries = unsectioned entries' := by
  simp only [unsectioned, h "target" (by decide), h "exclude" (by decide),
    h "exclude_patterns" (by decide), h "include" (by decide), h "include_patterns" (by decide),
    h "max_file_size" (by decide), h "max_workers" (by decide), h "dialect" (by decide),
    h "constructor_markers" (by decide), h "property_markers" (by decide),
    h "severity_threshold" (by decide)]

/-- Settings with null in place of the section of a name. The sections `scan` and `sql` have no
place in them. -/
def withNull (name : String) (s : Settings) : Settings :=
  if name = "rules" then { s with rules := .other .null }
  else if name = "output" then { s with output := .other .null }
  else s

/-- Whether the section `scan` has an entry of a name. -/
def ScanNames (name : String) (entries : List (Datum × Datum)) : Prop :=
  ∃ pairs, (scanSection (Datum.textEntries entries)).pairs = .ok pairs ∧
    (Datum.find? name pairs).isSome

section

variable {name : String} {flat flat' : List (String × Datum)} {s : Settings}

theorem unsectioned_of_addsNull (h : AddsNull name flat flat') (hname : name ∈ sectionNames) :
    unsectioned flat = unsectioned flat' :=
  unsectioned_congr fun _ hkey => h.lookup_of_ne fun heq => hkey (heq ▸ hname)

theorem ofFlat_of_lookup_eq (h : AddsNull name flat flat') (hname : name ∈ sectionNames)
    (hsame : name ∈ ["rules", "output"] → flat.lookup name = flat'.lookup name) :
    ofFlat flat' = ofFlat flat := by
  have hsections (key : String) (hkey : key ∈ ["rules", "output"]) :
      flat.lookup key = flat'.lookup key := by
    by_cases heq : key = name
    · subst heq
      exact hsame hkey
    · exact h.lookup_of_ne heq
  rw [ofFlat_eq, ofFlat_eq, unsectioned_of_addsNull h hname, hsections "rules" (by decide),
    hsections "output" (by decide)]

/-- Null is no mapping, and is kept where the section would be. -/
theorem ofFlat_of_lookup_eq_null (h : AddsNull name flat flat') (hname : name ∈ ["rules", "output"])
    (hmissing : flat.lookup name = none) (hnull : flat'.lookup name = some .null)
    (hs : ofFlat flat = .ok s) : ofFlat flat' = .ok (s.withNull name) ∧ s.withNull name ≠ s := by
  rw [ofFlat_eq] at hs ⊢
  obtain ⟨rules, hrules, hs⟩ := bind_eq_ok_iff.1 hs
  obtain ⟨output, houtput, hs⟩ := bind_eq_ok_iff.1 hs
  cases hs
  obtain rfl | rfl : name = "rules" ∨ name = "output" := by simpa using hname
  · rw [hmissing] at hrules
    cases hrules
    rw [hnull, ← h.lookup_of_ne (by decide : "output" ≠ "rules"), houtput,
      unsectioned_of_addsNull h (by decide)]
    exact ⟨rfl, fun heq => nomatch congrArg Settings.rules heq⟩
  · rw [hmissing] at houtput
    cases houtput
    rw [hnull, ← h.lookup_of_ne (by decide : "rules" ≠ "output"), hrules,
      unsectioned_of_addsNull h (by decide)]
    exact ⟨rfl, fun heq => nomatch congrArg Settings.output heq⟩

end

/-- No engine is made from settings whose rules are null. -/
theorem forEngine_withNull_rules (s : Settings) :
    ∃ failure, (s.withNull "rules").forEngine = .error failure ∧
      ∀ settings, s.forEngine = .ok settings → failure = .noMember "NoneType" "enabled" := by
  have hnull : s.withNull "rules" = { s with rules := .other .null } := rfl
  rw [hnull, forEngine_eq, forEngine_eq]
  cases s.constructorMarkers.items with
  | error failure => exact ⟨failure, rfl, fun _ h => nomatch h⟩
  | ok constructors =>
    cases s.propertyMarkers.items with
    | error failure => exact ⟨failure, rfl, fun _ h => nomatch h⟩
    | ok properties => exact ⟨_, rfl, fun _ _ => rfl⟩

theorem forEngine_withNull_of_ne {name : String} (h : name ≠ "rules") (s : Settings) :
    (s.withNull name).forEngine = s.forEngine := by
  rw [withNull, if_neg h]
  split <;> rfl

section

variable {before after : List (Datum × Datum)} {name : String} {s : Settings}

theorem scanNames_iff {entries pairs : List (Datum × Datum)}
    (hpairs : (scanSection (Datum.textEntries entries)).pairs = .ok pairs) :
    ScanNames name entries ↔ (Datum.textEntries pairs).reverse.lookup name ≠ none := by
  have hnone : (Datum.textEntries pairs).reverse.lookup name = none ↔
      Datum.find? name pairs = none := by
    rw [← Datum.lookup_textEntries, List.lookup_eq_none_iff, List.lookup_eq_none_iff]
    simp only [List.mem_reverse]
  rw [ne_eq, hnone, ← ne_eq, Option.ne_none_iff_isSome]
  constructor
  · rintro ⟨pairs', hpairs', hsome⟩
    cases hpairs.symm.trans hpairs'
    exact hsome
  · exact fun hsome => ⟨pairs, hpairs, hsome⟩

/-- Reading with and without the section goes through two flat mappings. In `rules` or `output` they
differ exactly if `scan` does not set it. -/
theorem exists_flat (haccepted : ofDatum (.mapping (before ++ after)) = .ok s)
    (hmissing : Datum.find? name (before ++ after) = none) :
    ∃ flat flat', ofFlat flat = .ok s ∧
      ofDatum (.mapping (before ++ (.text name, .null) :: after)) = ofFlat flat' ∧
      AddsNull name flat flat' ∧ (name ∈ ["rules", "output"] →
        (ScanNames name (before ++ after) → flat.lookup name = flat'.lookup name) ∧
        (¬ ScanNames name (before ++ after) →
          flat.lookup name = none ∧ flat'.lookup name = some .null)) := by
  have hadds := AddsNull.of_textEntries hmissing
  obtain ⟨flat, hflat, hs⟩ := bind_eq_ok_iff.1
    (show (flatten (Datum.textEntries (before ++ after)) >>= ofFlat) = .ok s from haccepted)
  obtain ⟨flat', hflat', hadds'⟩ := hadds.flatten hflat
  have hread : ofDatum (.mapping (before ++ (.text name, .null) :: after)) = ofFlat flat' := by
    change (flatten _ >>= ofFlat) = _
    rw [hflat']
    rfl
  refine ⟨flat, flat', hs, hread, hadds', fun hname => ?_⟩
  obtain ⟨pairs, hpairs, hlookup⟩ := lookup_flatten hflat hname
  obtain ⟨pairs', hpairs', hlookup'⟩ := lookup_flatten hflat' hname
  -- null counts as nothing in the place of `scan`, so both have the same section there
  rw [scanSection, ← hadds.takeOut_fst, ← scanSection, hpairs] at hpairs'
  cases hpairs'
  rw [Datum.lookup_textEntries, hmissing, Option.or_none] at hlookup
  rw [Datum.lookup_textEntries, Datum.find?_insert hmissing, if_pos rfl] at hlookup'
  rw [scanNames_iff hpairs, hlookup, hlookup']
  cases (Datum.textEntries pairs).reverse.lookup name with
  | none => exact ⟨fun hne => absurd rfl hne, fun _ => ⟨rfl, rfl⟩⟩
  | some value => exact ⟨fun _ => rfl, fun hnot => absurd (fun heq => nomatch heq) hnot⟩

/-- A section that nothing reads, or that `scan` sets, may be null. -/
theorem ofDatum_eq_of_read_elsewhere (haccepted : ofDatum (.mapping (before ++ after)) = .ok s)
    (hname : name ∈ sectionNames) (hmissing : Datum.find? name (before ++ after) = none)
    (h : name ∈ ["rules", "output"] → ScanNames name (before ++ after)) :
    ofDatum (.mapping (before ++ (.text name, .null) :: after)) = .ok s := by
  obtain ⟨flat, flat', hs, hread, hadds, hlookup⟩ := exists_flat haccepted hmissing
  rw [hread, ofFlat_of_lookup_eq hadds hname fun hmem => (hlookup hmem).1 (h hmem), hs]

theorem ofDatum_eq_withNull (haccepted : ofDatum (.mapping (before ++ after)) = .ok s)
    (hmissing : Datum.find? name (before ++ after) = none) (hname : name ∈ ["rules", "output"])
    (h : ¬ ScanNames name (before ++ after)) :
    ofDatum (.mapping (before ++ (.text name, .null) :: after)) = .ok (s.withNull name) ∧
      s.withNull name ≠ s := by
  obtain ⟨flat, flat', hs, hread, hadds, hlookup⟩ := exists_flat haccepted hmissing
  obtain ⟨hnone, hnull⟩ := (hlookup hname).2 h
  rw [hread]
  exact ofFlat_of_lookup_eq_null hadds hname hnone hnull hs

/-- A section whose value is null is read as a missing one exactly if it is `scan` or `sql`, or if
`scan` has an entry of its name. Otherwise null is kept in its place, and no engine is made from the
settings if the section is `rules`. -/
theorem null_section_like_missing_iff (haccepted : ofDatum (.mapping (before ++ after)) = .ok s)
    (hname : name ∈ sectionNames) (hmissing : Datum.find? name (before ++ after) = none) :
    let read := ofDatum (.mapping (before ++ (.text name, .null) :: after))
    (read = .ok s ↔ name = "scan" ∨ name = "sql" ∨ ScanNames name (before ++ after)) ∧
    (¬ ScanNames name (before ++ after) → read = .ok (s.withNull name)) ∧
    (name ≠ "rules" ∨ ScanNames name (before ++ after) → (read >>= forEngine) = s.forEngine) ∧
    (name = "rules" → ¬ ScanNames name (before ++ after) →
      ∃ failure, (read >>= forEngine) = .error failure ∧
        ∀ settings, s.forEngine = .ok settings → failure = .noMember "NoneType" "enabled") := by
  intro read
  by_cases hlike : name ∈ ["rules", "output"] → ScanNames name (before ++ after)
  · have hread : read = .ok s := ofDatum_eq_of_read_elsewhere haccepted hname hmissing hlike
    have hnames : name = "scan" ∨ name = "sql" ∨ ScanNames name (before ++ after) := by
      simp only [sectionNames, List.mem_cons, List.not_mem_nil, or_false] at hname hlike
      tauto
    refine ⟨iff_of_true hread hnames, fun hnot => ?_, fun _ => ?_, fun hrules hnot => ?_⟩
    · obtain rfl | rfl | hscan := hnames
      · exact hread
      · exact hread
      · exact absurd hscan hnot
    · rw [hread]
      rfl
    · exact absurd (hlike (by simp [hrules])) hnot
  · obtain ⟨hsection, hnot⟩ := Classical.not_imp.1 hlike
    obtain ⟨hread, hne⟩ := ofDatum_eq_withNull haccepted hmissing hsection hnot
    have hengine : (read >>= forEngine) = (s.withNull name).forEngine := by
      change (ofDatum _ >>= forEngine) = _
      rw [hread]
      rfl
    refine ⟨iff_of_false (fun hsame => hne ?_) ?_, fun _ => hread, fun hother => ?_,
      fun hrules _ => ?_⟩
    · exact Except.ok.inj (hread.symm.trans hsame)
    · rintro (rfl | rfl | hscan)
      · revert hsection
        decide
      · revert hsection
        decide
      · exact hnot hscan
    · rw [hengine, forEngine_withNull_of_ne (hother.resolve_right hnot)]
    · rw [hengine, hrules]
      exact forEngine_withNull_rules s

end

/-- Null rules alone make no engine, and do no harm beside a section `scan` that has rules. -/
theorem null_rules_make_no_engine :
    let scan : Datum × Datum := (.text "scan", .ofEntries
      [("rules", .ofEntries [("disabled", .texts ["SQL-SYNTAX-001"])])])
    let s : Settings := { rules := .lists [] [.text "SQL-SYNTAX-001"] }
    (ofDatum (.mapping []) = .ok {} ∧
      ofDatum (.mapping [(.text "rules", .null)]) = .ok { rules := .other .null } ∧
      (ofDatum (.mapping [(.text "rules", .null)]) >>= forEngine) =
        .error (.noMember "NoneType" "enabled")) ∧
    (ofDatum (.mapping [scan]) = .ok s ∧
      ofDatum (.mapping [scan, (.text "rules", .null)]) = .ok s) := by
  intro scan s
  have hscan : ScanNames "rules" [scan] := ⟨_, rfl, rfl⟩
  have hnone : ¬ ScanNames "rules" [] := by
    rintro ⟨pairs, hpairs, hsome⟩
    cases hpairs
    cases hsome
  obtain ⟨-, hread, -, hengine⟩ :=
    @null_section_like_missing_iff [] [] "rules" {} rfl (by decide) rfl
  obtain ⟨failure, hfailure, hnamed⟩ := hengine rfl hnone
  refine ⟨⟨rfl, hread hnone, hfailure.trans (congrArg _ (hnamed _ rfl))⟩, rfl, ?_⟩
  exact (@null_section_like_missing_iff [scan] [] "rules" s rfl (by decide) rfl).1.2
    (.inr (.inr hscan))

end Settings

end QueryLint
