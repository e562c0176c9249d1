import QueryLint.Proofs.Engine.FoundFiles

/-!
# Patterns for names and for folders

Three kinds of patterns can be told by the names on a way, without a look at its text. A plain
name hits what has this name, at every depth. A name before a slash and two stars hits everything
in a folder of that name, but only right below the target. With a star in front, it hits
everything in a folder whose name ends so, at every depth, since stars take slashes as well.
-/

namespace QueryLint

namespace Path

variable {way : List String}

theorem toList_joinWith (way : List String) :
    (Text.joinWith "/" way).toList = ['/'].intercalate (way.map String.toList) := by
  rw [Text.joinWith, String.toList_ofList]
  rfl

theorem cutAt_joinWith (hne : way ≠ []) (hnames : ∀ name ∈ way, '/' ∉ name.toList) :
    Text.cutAt '/' (Text.joinWith "/" way).toList = way.map String.toList := by
  have hparts := congrArg (List.map String.toList) (parts_joinWith hne hnames)
  simpa [parts, Function.comp_def] using hparts

theorem toList_joinWith_append {u w : List String} (hu : u ≠ []) (hw : w ≠ [])
    (hnames : ∀ name ∈ u ++ w, '/' ∉ name.toList) :
    (Text.joinWith "/" (u ++ w)).toList =
      (Text.joinWith "/" u).toList ++ '/' :: (Text.joinWith "/" w).toList := by
  obtain ⟨hu', hw'⟩ := List.forall_mem_append.1 hnames
  rw [toList_joinWith, List.map_append, ← cutAt_joinWith hu hu', ← cutAt_joinWith hw hw',
    ← Text.cutAt_append_cons_self, Text.intercalate_cutAt]

/-- Every slash in the text of a way stands between two parts of the way. -/
theorem joinWith_eq_append_slash_iff (hne : way ≠ [])
    (hnames : ∀ name ∈ way, '/' ∉ name.toList) (before : List Char) :
    (∃ after, (Text.joinWith "/" way).toList = before ++ '/' :: after) ↔
      ∃ u w, u ≠ [] ∧ w ≠ [] ∧ way = u ++ w ∧ before = (Text.joinWith "/" u).toList := by
  constructor
  · rintro ⟨after, htext⟩
    have hcut := congrArg (List.map String.ofList) (cutAt_joinWith hne hnames)
    rw [htext, Text.cutAt_append_cons_self, List.map_append] at hcut
    refine ⟨(Text.cutAt '/' before).map String.ofList, (Text.cutAt '/' after).map String.ofList,
      by simp [Text.cutAt_ne_nil], by simp [Text.cutAt_ne_nil], ?_, ?_⟩
    · simpa [Function.comp_def] using hcut.symm
    · rw [toList_joinWith, List.map_map]
      simp [Function.comp_def, Text.intercalate_cutAt]
  · rintro ⟨u, w, hu, hw, rfl, rfl⟩
    exact ⟨_, toList_joinWith_append hu hw hnames⟩

end Path

namespace Glob

/-- A pattern of plain characters. -/
theorem matches_plain_iff {pattern : String} (hpieces : pieces pattern = pattern.toList.map .one)
    (text : String) : Matches pattern text ↔ text = pattern := by
  rw [Matches, hpieces, stands_ones_iff, String.toList_inj]

/-- Plain characters before a slash and two stars. -/
theorem stands_below_iff (name text : List Char) :
    Stands (name.map .one ++ [.one '/', .star, .star]) text ↔
      ∃ after, text = name ++ '/' :: after := by
  have hslash : name.map Piece.one ++ [.one '/', .star, .star] =
      (name ++ ['/']).map .one ++ [.star, .star] := by simp
  rw [hslash, stands_ones_append_iff]
  simp [stands_stars]

end Glob

namespace Patterns

open QueryLint.Path

variable {way : List String}

theorem hit_singleton_iff (pattern : String) (way : List String) :
    Hit [pattern] way ↔
      Glob.Matches pattern (Text.joinWith "/" way) ∨ Glob.Matches pattern (way.getLastD "") := by
  simp [Hit]

/-- The last name on a way has no slash in it. -/
theorem slash_not_mem_getLastD (hnames : ∀ name ∈ way, '/' ∉ name.toList) :
    '/' ∉ (way.getLastD "").toList := by
  obtain rfl | ⟨before, name, rfl⟩ := List.eq_nil_or_concat' way
  · simp
  · rw [List.getLastD_concat]
    exact hnames name (by simp)

/-- A text without slashes is the text of the way with this one name on it. -/
theorem eq_singleton_of_joinWith (hne : way ≠ []) (hnames : ∀ name ∈ way, '/' ∉ name.toList)
    {name : String} (hname : '/' ∉ name.toList) (h : Text.joinWith "/" way = name) :
    way = [name] := by
  have hcut : Text.cutAt '/' name.toList = [name.toList] := by
    rw [Text.cutAt_eq_splitOn, List.splitOn_eq_singleton hname]
  rw [← h, cutAt_joinWith hne hnames, h] at hcut
  obtain ⟨other, rfl, hother⟩ : ∃ other, way = [other] ∧ other.toList = name.toList := by
    simpa [List.map_eq_singleton_iff] using hcut
  rw [String.toList_inj.1 hother]

/-- What a plain name hits, at every depth. -/
theorem hit_plain_iff {name : String} (hpieces : Glob.pieces name = name.toList.map .one)
    (hname : '/' ∉ name.toList) (hne : way ≠ []) (hnames : ∀ name ∈ way, '/' ∉ name.toList) :
    Hit [name] way ↔ way.getLastD "" = name := by
  rw [hit_singleton_iff, Glob.matches_plain_iff hpieces, Glob.matches_plain_iff hpieces]
  refine or_iff_right_of_imp fun htext => ?_
  rw [eq_singleton_of_joinWith hne hnames hname htext]
  rfl

/-- What a name before a slash and two stars hits, right below the target. -/
theorem hit_below_iff {pattern name : String}
    (hpieces : Glob.pieces pattern = name.toList.map .one ++ [.one '/', .star, .star])
    (hname : '/' ∉ name.toList) (hne : way ≠ []) (hnames : ∀ name ∈ way, '/' ∉ name.toList) :
    Hit [pattern] way ↔ ∃ rest, rest ≠ [] ∧ way = name :: rest := by
  have hlast : ¬ ∃ after, (way.getLastD "").toList = name.toList ++ '/' :: after := by
    rintro ⟨after, htext⟩
    exact slash_not_mem_getLastD hnames (by rw [htext]; simp)
  rw [hit_singleton_iff, Glob.Matches, Glob.Matches, hpieces, Glob.stands_below_iff,
    Glob.stands_below_iff, or_iff_left hlast, joinWith_eq_append_slash_iff hne hnames]
  constructor
  · rintro ⟨u, w, hu, hw, rfl, htext⟩
    have hsingle := eq_singleton_of_joinWith hu (List.forall_mem_append.1 hnames).1 hname
      (String.toList_inj.1 htext).symm
    exact ⟨w, hw, by rw [hsingle]; rfl⟩
  · rintro ⟨rest, hrest, rfl⟩
    exact ⟨[name], rest, by simp, hrest, rfl, by simp [toList_joinWith]⟩

/-- A text without slashes at the end of the text of a way is the end of its last name. -/
theorem suffix_joinWith_iff {folder : String} {ending : List Char} (hending : '/' ∉ ending)
    (hnames : ∀ name ∈ way ++ [folder], '/' ∉ name.toList) :
    ending <:+ (Text.joinWith "/" (way ++ [folder])).toList ↔ ending <:+ folder.toList := by
  have hcut := cutAt_joinWith (by simp) hnames
  constructor
  · rintro ⟨before, htext⟩
    have hlast := Text.cutAt_append
      (List.dropLast_append_getLast (Text.cutAt_ne_nil '/' before)).symm
      (Text.cutAt_eq_splitOn '/' ending ▸ List.splitOn_eq_singleton hending)
    rw [htext, hcut, List.map_append] at hlast
    obtain ⟨-, hfolder⟩ := List.append_inj' hlast rfl
    exact ⟨_, (List.cons.inj hfolder).1.symm⟩
  · intro hfolder
    refine hfolder.trans ?_
    have hown : (Text.joinWith "/" [folder]).toList = folder.toList := by simp [toList_joinWith]
    by_cases hway : way = []
    · rw [hway, List.nil_append, hown]
    · rw [toList_joinWith_append hway (by simp) hnames, hown]
      exact (List.suffix_cons '/' _).trans (List.suffix_append _ _)

/-- What an ending of names, between a star and a slash and two stars, hits. -/
theorem hit_star_below_iff {pattern : String} {ending : List Char}
    (hpieces : Glob.pieces pattern = .star :: (ending.map .one ++ [.one '/', .star, .star]))
    (hending : '/' ∉ ending) (hne : way ≠ []) (hnames : ∀ name ∈ way, '/' ∉ name.toList) :
    Hit [pattern] way ↔ ∃ folder ∈ way.dropLast, ending <:+ folder.toList := by
  have hmatches : ∀ text, Glob.Matches pattern text ↔
      ∃ before after, text.toList = (before ++ ending) ++ '/' :: after := by
    intro text
    rw [Glob.Matches, hpieces, Glob.stands_star_iff]
    simp only [Glob.stands_below_iff]
    grind
  have hlast : ¬ Glob.Matches pattern (way.getLastD "") := by
    rw [hmatches]
    rintro ⟨before, after, htext⟩
    exact slash_not_mem_getLastD hnames (by rw [htext]; simp)
  rw [hit_singleton_iff, or_iff_left hlast, hmatches]
  simp only [joinWith_eq_append_slash_iff hne hnames]
  constructor
  · rintro ⟨before, u, w, hu, hw, rfl, htext⟩
    obtain ⟨u, folder, rfl⟩ := (List.eq_nil_or_concat' u).resolve_left hu
    refine ⟨folder, ?_, ?_⟩
    · rw [List.dropLast_append_of_ne_nil hw]
      simp
    · exact (suffix_joinWith_iff hending (List.forall_mem_append.1 hnames).1).1 ⟨before, htext⟩
  · rintro ⟨folder, hfolder, hsuffix⟩
    obtain ⟨u, w, hcut⟩ := List.append_of_mem hfolder
    have hway : way = (u ++ [folder]) ++ (w ++ [way.getLast hne]) := by
      have hsplit := List.dropLast_append_getLast hne
      rw [hcut] at hsplit
      simpa using hsplit.symm
    have hfront : ∀ name ∈ u ++ [folder], '/' ∉ name.toList := by
      intro name hname
      exact hnames name (hway ▸ List.mem_append_left _ hname)
    obtain ⟨before, htext⟩ := (suffix_joinWith_iff hending hfront).2 hsuffix
    exact ⟨before, u ++ [folder], w ++ [way.getLast hne], by simp, by simp, hway, htext⟩

theorem spares_iff_forall (patterns : List String) :
    Spares patterns way ↔ ∀ p ∈ patterns, Spares [p] way := by
  have hhit : ∀ v, Hit patterns v ↔ ∃ p ∈ patterns, Hit [p] v := by
    intro v
    simp [Hit]
  constructor
  · intro hspares p hp v hne hbefore hown
    exact hspares v hne hbefore ((hhit v).2 ⟨p, hp, hown⟩)
  · intro hspares v hne hbefore hany
    obtain ⟨p, hp, hown⟩ := (hhit v).1 hany
    exact hspares p hp v hne hbefore hown

theorem spares_plain_iff {name : String} (hpieces : Glob.pieces name = name.toList.map .one)
    (hname : '/' ∉ name.toList) (hnames : ∀ name ∈ way, '/' ∉ name.toList) :
    Spares [name] way ↔ name ∉ way := by
  constructor
  · intro hspares hmem
    obtain ⟨u, w, rfl⟩ := List.append_of_mem hmem
    have hbefore : u ++ [name] <+: u ++ name :: w := ⟨w, by simp⟩
    refine hspares (u ++ [name]) (by simp) hbefore ?_
    exact (hit_plain_iff hpieces hname (by simp) fun x hx => hnames x (hbefore.mem hx)).2 (by simp)
  · intro hnone v hne hbefore hhit
    rw [hit_plain_iff hpieces hname hne fun x hx => hnames x (hbefore.mem hx)] at hhit
    obtain ⟨u, last, rfl⟩ := (List.eq_nil_or_concat' v).resolve_left hne
    rw [List.getLastD_concat] at hhit
    exact hnone (hbefore.mem (by simp [hhit]))

theorem spares_below_iff {pattern name : String}
    (hpieces : Glob.pieces pattern = name.toList.map .one ++ [.one '/', .star, .star])
    (hname : '/' ∉ name.toList) (hnames : ∀ name ∈ way, '/' ∉ name.toList) :
    Spares [pattern] way ↔ ¬ (2 ≤ way.length ∧ way.head? = some name) := by
  constructor
  · rintro hspares ⟨hlength, hhead⟩
    obtain ⟨rest, rfl⟩ := List.head?_eq_some_iff.1 hhead
    have hrest : rest ≠ [] := by
      rintro rfl
      simp at hlength
    refine hspares _ (List.cons_ne_nil name rest) (List.prefix_refl _) ?_
    exact (hit_below_iff hpieces hname (by simp) hnames).2 ⟨rest, hrest, rfl⟩
  · intro hnone v hne hbefore hhit
    obtain ⟨rest, hrest, rfl⟩ :=
      (hit_below_iff hpieces hname hne fun x hx => hnames x (hbefore.mem hx)).1 hhit
    obtain ⟨after, rfl⟩ := hbefore
    refine hnone ⟨?_, rfl⟩
    have hlength := List.length_pos_iff.2 hrest
    simp only [List.cons_append, List.length_cons, List.length_append]
    omega

/-- A folder right below the target has one of these names, and the way goes into it. -/
def InFolder (names way : List String) : Prop :=
  2 ≤ way.length ∧ ∃ name ∈ names, way.head? = some name

instance (names way : List String) : Decidable (InFolder names way) :=
  inferInstanceAs (Decidable (_ ∧ _))

/-- What patterns for folders hit is what lies in these folders. -/
theorem spares_folders_iff {folders : List String}
    (hfolders : ∀ name ∈ folders, '/' ∉ name.toList ∧
      Glob.pieces (name ++ "/**") = name.toList.map .one ++ [.one '/', .star, .star])
    (hnames : ∀ name ∈ way, '/' ∉ name.toList) :
    Spares (folders.map (· ++ "/**")) way ↔ ¬ InFolder folders way := by
  have hown : ∀ name ∈ folders,
      (Spares [name ++ "/**"] way ↔ ¬ (2 ≤ way.length ∧ way.head? = some name)) :=
    fun name hname => spares_below_iff (hfolders name hname).2 (hfolders name hname).1 hnames
  rw [spares_iff_forall, List.forall_mem_map, forall₂_congr hown]
  simp only [InFolder]
  grind

theorem spares_star_below_iff {pattern : String} {ending : List Char}
    (hpieces : Glob.pieces pattern = .star :: (ending.map .one ++ [.one '/', .star, .star]))
    (hending : '/' ∉ ending) (hne : way ≠ []) (hnames : ∀ name ∈ way, '/' ∉ name.toList) :
    Spares [pattern] way ↔ ∀ folder ∈ way.dropLast, ¬ ending <:+ folder.toList := by
  constructor
  · intro hspares folder hfolder hsuffix
    refine hspares way hne (List.prefix_refl way) ?_
    exact (hit_star_below_iff hpieces hending hne hnames).2 ⟨folder, hfolder, hsuffix⟩
  · intro hnone v hv hbefore hhit
    obtain ⟨folder, hfolder, hsuffix⟩ :=
      (hit_star_below_iff hpieces hending hv fun x hx => hnames x (hbefore.mem hx)).1 hhit
    obtain ⟨u, last, rfl⟩ := (List.eq_nil_or_concat' v).resolve_left hv
    obtain ⟨after, rfl⟩ := hbefore
    refine hnone folder ?_ hsuffix
    rw [List.dropLast_concat] at hfolder
    rw [List.append_assoc, List.dropLast_append_of_ne_nil (by simp)]
    exact List.mem_append_left _ hfolder

end Patterns

end QueryLint
