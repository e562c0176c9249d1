import Mathlib.Data.List.Induction
import Mathlib.Data.List.Nodup
import QueryLint.Proofs.Finding.Order
import QueryLint.Report.Format

/-!
# What the reports about a scan have in common

A report is written in one of three formats. Two of them list the findings one after another, the
third one gathers them file by file. All three show the same findings, and the numbers in a summary
are those of the findings.
-/

namespace QueryLint

namespace ScanResult

theorem count_add_count_add_count (r : ScanResult) :
    r.count .error + r.count .warning + r.count .info = r.total := by
  unfold count total
  induction r.findings with
  | nil => rfl
  | cons f fs ih =>
    simp only [List.countP_cons]
    cases f.severity <;> cases f.suppressed <;> simp <;> omega

theorem total_add_suppressedCount (r : ScanResult) :
    r.total + r.suppressedCount = r.findings.length := by
  unfold total suppressedCount
  induction r.findings with
  | nil => rfl
  | cons f fs ih =>
    simp only [List.countP_cons, List.length_cons]
    cases f.suppressed <;> simp <;> omega

theorem length_visible (r : ScanResult) (includeSuppressed : Bool) :
    (Finding.visible includeSuppressed r.findings).length =
      r.total + if includeSuppressed then r.suppressedCount else 0 := by
  unfold Finding.visible
  rw [← List.countP_eq_length_filter]
  cases includeSuppressed with
  | false => simp [total]
  | true => simp [total_add_suppressedCount]

end ScanResult

/-- Each of some values once, in the order in which they first appear. -/
def firstUses {α : Type} [DecidableEq α] : List α → List α
  | [] => []
  | a :: as => a :: (firstUses as).filter (· != a)

section FirstUses

variable {α : Type} [DecidableEq α]

theorem mem_firstUses {as : List α} {a : α} : a ∈ firstUses as ↔ a ∈ as := by
  induction as with
  | nil => rfl
  | cons b as ih =>
    rw [firstUses, List.mem_cons, List.mem_cons, List.mem_filter, ih]
    by_cases hb : a = b <;> simp [hb]

theorem pairwise_firstUses (as : List α) :
    (firstUses as).Pairwise fun a b => as.idxOf a < as.idxOf b := by
  induction as with
  | nil => exact .nil
  | cons c as ih =>
    have hne : ∀ b ∈ (firstUses as).filter (· != c), c ≠ b := by
      intro b hb
      exact (bne_iff_ne.1 (List.mem_filter.1 hb).2).symm
    rw [firstUses, List.pairwise_cons]
    refine ⟨fun b hb => ?_, (ih.filter _).imp_of_mem fun {a b} ha hb hab => ?_⟩
    · rw [List.idxOf_cons_self, List.idxOf_cons_ne _ (hne b hb)]
      omega
    · rw [List.idxOf_cons_ne _ (hne a ha), List.idxOf_cons_ne _ (hne b hb)]
      omega

theorem nodup_firstUses (as : List α) : (firstUses as).Nodup := by
  refine (pairwise_firstUses as).imp fun {a b} hab heq => ?_
  subst heq
  exact lt_irrefl _ hab

/-- A further value is a first use if it has not been there. -/
theorem firstUses_concat (as : List α) (a : α) :
    firstUses (as ++ [a]) = if a ∈ as then firstUses as else firstUses as ++ [a] := by
  induction as with
  | nil => rfl
  | cons b as ih =>
    rw [List.cons_append, firstUses, firstUses, ih]
    by_cases hb : a = b
    · subst hb
      split_ifs <;> simp_all
    · have hmem : a ∈ b :: as ↔ a ∈ as := by simp [hb]
      simp only [hmem]
      split_ifs with has
      · rfl
      · rw [List.filter_append, List.filter_cons_of_pos (by simpa using hb), List.filter_nil,
          List.cons_append]

end FirstUses

namespace Report.Text

/-- Findings gathered file by file: the files in the order in which they first appear, each one
once, and the findings of a file in the order they have. -/
structure ByFile (findings : List Finding) (groups : List (String × List Finding)) : Prop where
  paths : ∀ path, path ∈ groups.map Prod.fst ↔ path ∈ findings.map (·.location.path)
  order : (groups.map Prod.fst).Pairwise fun p q =>
    (findings.map (·.location.path)).idxOf p < (findings.map (·.location.path)).idxOf q
  members : ∀ g ∈ groups, g.2 = findings.filter (·.location.path = g.1)

/-- The files of some findings, in the order in which they first appear. -/
def pathsOf (fs : List Finding) : List String := firstUses (fs.map (·.location.path))

theorem pathsOf_cons (f : Finding) (fs : List Finding) :
    pathsOf (f :: fs) = f.location.path :: (pathsOf fs).filter (· != f.location.path) := rfl

/-- An item goes to the group of its key if there is one, and makes a group at the end if not. -/
theorem addToGroup_map {κ α : Type} [DecidableEq κ] {keys : List κ} (hnodup : keys.Nodup)
    (items : κ → List α) (key : κ) (item : α) :
    addToGroup (· == ·) key item (keys.map fun k => (k, items k)) =
      if key ∈ keys then keys.map fun k => (k, if k = key then items k ++ [item] else items k)
      else (keys.map fun k => (k, items k)) ++ [(key, [item])] := by
  induction keys with
  | nil => rfl
  | cons k keys ih =>
    obtain ⟨hk, hnodup⟩ := List.nodup_cons.1 hnodup
    rw [List.map_cons, addToGroup, ih hnodup]
    by_cases hkey : k = key
    · subst hkey
      have hothers : (keys.map fun k' => (k', if k' = k then items k' ++ [item] else items k')) =
          keys.map fun k' => (k', items k') := by
        refine List.map_congr_left fun k' hk' => ?_
        rw [if_neg (ne_of_mem_of_not_mem hk' hk)]
      simp [hothers]
    · have hmem : key ∈ k :: keys ↔ key ∈ keys := by simp [Ne.symm hkey]
      simp only [hmem, beq_iff_eq, hkey, if_false]
      split_ifs <;> simp [hkey]

/-- Gathered one after another, the findings come to stand by file: those of each file together,
the files in the order in which they first appear. -/
theorem groups_eq (fs : List Finding) :
    groups fs = (pathsOf fs).map fun path => (path, fs.filter (·.location.path = path)) := by
  -- from the end, since that is where a finding is added
  induction fs using List.reverseRecOn with
  | nil => rfl
  | append_singleton fs f ih =>
    have hstep : groups (fs ++ [f]) = addToGroup (· == ·) f.location.path f (groups fs) := by
      rw [groups, List.foldl_append]
      rfl
    have hadded : ∀ path, (fs ++ [f]).filter (·.location.path = path) =
        if path = f.location.path then fs.filter (·.location.path = path) ++ [f]
        else fs.filter (·.location.path = path) := by
      intro path
      by_cases hpath : path = f.location.path
      · simp [hpath]
      · simp [hpath, Ne.symm hpath]
    rw [hstep, ih, pathsOf, pathsOf, addToGroup_map (nodup_firstUses _), List.map_append,
      List.map_singleton, firstUses_concat]
    simp only [mem_firstUses, hadded]
    split_ifs with hthere
    · rfl
    · have hnone : fs.filter (·.location.path = f.location.path) = [] :=
        List.filter_eq_nil_iff.2 fun g hg heq =>
          hthere (List.mem_map.2 ⟨g, hg, of_decide_eq_true heq⟩)
      have hothers : ∀ path ∈ firstUses (fs.map (·.location.path)), path ≠ f.location.path :=
        fun path hpath => ne_of_mem_of_not_mem (mem_firstUses.1 hpath) hthere
      rw [List.map_append, List.map_singleton, if_pos rfl, hnone]
      refine congrArg (· ++ _) (List.map_congr_left fun path hpath => ?_)
      rw [if_neg (hothers path hpath)]

theorem map_fst_groups (fs : List Finding) : (groups fs).map Prod.fst = pathsOf fs := by
  rw [groups_eq, List.map_map]
  exact List.map_id _

theorem byFile_groups (fs : List Finding) : ByFile fs (groups fs) where
  paths path := by rw [map_fst_groups, pathsOf, mem_firstUses]
  order := by
    rw [map_fst_groups]
    exact pairwise_firstUses _
  members g hg := by
    rw [groups_eq] at hg
    obtain ⟨path, -, rfl⟩ := List.mem_map.1 hg
    rfl

/-- Files that are told apart share out the findings among them. -/
theorem flatMap_filter_path_perm {paths : List String} (hnodup : paths.Nodup) {fs : List Finding}
    (h : ∀ f ∈ fs, f.location.path ∈ paths) :
    (paths.flatMap fun path => fs.filter (·.location.path = path)).Perm fs := by
  induction paths generalizing fs with
  | nil =>
    have hnone : fs = [] := List.eq_nil_iff_forall_not_mem.2 fun f hf => by simpa using h f hf
    rw [hnone]
    exact .nil
  | cons p paths ih =>
    obtain ⟨hp, hnodup⟩ := List.nodup_cons.1 hnodup
    -- what is not in the first file is left for the others
    let others := fs.filter fun f => !decide (f.location.path = p)
    have hothers : ∀ f ∈ others, f.location.path ∈ paths := by
      intro f hf
      obtain ⟨hf, hne⟩ := List.mem_filter.1 hf
      exact (List.mem_cons.1 (h f hf)).resolve_left (by simpa using hne)
    have hsame : (paths.flatMap fun path => fs.filter (·.location.path = path)) =
        paths.flatMap fun path => others.filter (·.location.path = path) := by
      refine List.flatMap_congr fun path hpath => ?_
      rw [List.filter_filter]
      refine List.filter_congr fun f _ => ?_
      by_cases hf : f.location.path = path
      · have hne : path ≠ p := fun heq => hp (heq ▸ hpath)
        simp [hf, hne]
      · simp [hf]
    rw [List.flatMap_cons, hsame]
    exact ((ih hnodup hothers).append_left _).trans (List.filter_append_perm _ fs)

theorem groups_perm (fs : List Finding) : ((groups fs).flatMap Prod.snd).Perm fs := by
  rw [groups_eq, List.flatMap_map]
  exact flatMap_filter_path_perm (nodup_firstUses _) fun f hf =>
    mem_firstUses.2 (List.mem_map_of_mem hf)

/-- Findings that are in the order of their files stay in their order. -/
theorem groups_of_pairwise {fs : List Finding}
    (h : fs.Pairwise fun f g => Text.Collated.mk f.location.path ≤ ⟨g.location.path⟩) :
    (groups fs).flatMap Prod.snd = fs := by
  rw [groups_eq, List.flatMap_map]
  induction fs with
  | nil => rfl
  | cons f rest ih =>
    obtain ⟨hle, hrest⟩ := List.pairwise_cons.1 h
    have hothers : ((pathsOf rest).filter (· != f.location.path)).flatMap
        (fun path => (f :: rest).filter (·.location.path = path)) =
        ((pathsOf rest).filter (· != f.location.path)).flatMap
          fun path => rest.filter (·.location.path = path) := by
      refine List.flatMap_congr fun path hpath => List.filter_cons_of_neg ?_
      simpa using (bne_iff_ne.1 (List.mem_filter.1 hpath).2).symm
    rw [pathsOf_cons, List.flatMap_cons, hothers, List.filter_cons_of_pos (by simp),
      List.cons_append]
    congr 1
    by_cases hsame : ∃ g ∈ rest, g.location.path = f.location.path
    · obtain ⟨g, hg, hgpath⟩ := hsame
      cases rest with
      | nil => cases hg
      | cons first rest =>
        -- the next finding is in the same file, since none can come between
        have hle' : Text.Collated.mk first.location.path ≤ ⟨f.location.path⟩ := by
          rw [← hgpath]
          obtain rfl | hg := List.mem_cons.1 hg
          · exact le_refl _
          · exact (List.pairwise_cons.1 hrest).1 g hg
        have hfirst : first.location.path = f.location.path :=
          congrArg Text.Collated.text (le_antisymm hle' (hle first List.mem_cons_self))
        have hpaths : (pathsOf (first :: rest)).filter (· != f.location.path) =
            (pathsOf rest).filter (· != f.location.path) := by
          simp [pathsOf_cons, hfirst, List.filter_filter]
        have hgroups := ih hrest
        rw [pathsOf_cons, List.flatMap_cons, hfirst] at hgroups
        rw [hpaths]
        exact hgroups
    · have hnone : rest.filter (·.location.path = f.location.path) = [] := by
        refine List.filter_eq_nil_iff.2 fun g hg heq => hsame ⟨g, hg, of_decide_eq_true heq⟩
      have hall : (pathsOf rest).filter (· != f.location.path) = pathsOf rest := by
        refine List.filter_eq_self.2 fun path hpath => bne_iff_ne.2 fun heq => hsame ?_
        obtain ⟨g, hg, hgpath⟩ := List.mem_map.1 (mem_firstUses.1 hpath)
        exact ⟨g, hg, hgpath.trans heq⟩
      rw [hnone, hall, List.nil_append]
      exact ih hrest

theorem resultLines_eq (s : Style) (r : ScanResult) :
    resultLines s r =
      (groups (Finding.visible s.includeSuppressed r.findings)).flatMap
        (fun g => s.paint .cyanBold g.1 :: g.2.flatMap (findingLines s) ++ [""]) ++
        errorLines s r.errors ++ summaryLines s (summary r) := by
  have hlines : fileLines s = fun g =>
      s.paint .cyanBold g.1 :: g.2.flatMap (findingLines s) ++ [""] := by
    funext g
    rw [fileLines, groupLines, List.flatMap_map]
    rfl
  rw [resultLines, hlines]

end Report.Text

theorem Finding.path_le_of_key_le {f g : Finding} (h : f.key ≤ g.key) :
    Text.Collated.mk f.location.path ≤ ⟨g.location.path⟩ := by
  obtain h | h := Prod.Lex.toLex_le_toLex.1 h
  · exact le_of_lt h
  · exact le_of_eq h.1

namespace ReportFormat

open Report.Text

/-- The reports agree. Let the findings that are shown be those that are not suppressed, or all of
them if suppressed ones are included. The two formats for programs list them in their order. The
text shows each of them once, file by file, and in the same order if the findings are in order. The
numbers of the summary add up, and tell how many findings are shown. -/
theorem reports_agree (o : ReportOptions) (r : ScanResult) :
    let shown := r.findings.filter fun f => o.includeSuppressed || !f.suppressed
    let counts := r.counts
    (∃ record summary : Json, json.result o r = record.write (some 2) ∧
      record.get? "findings" = some (.array (shown.map Finding.toJson)) ∧
      record.get? "summary" = some summary ∧
      summary.get? "total_findings" = some (.int counts.total) ∧
      summary.get? "suppressed_findings" = some (.int counts.suppressed) ∧
      summary.get? "by_severity" = some (.object [("error", .int counts.errors),
        ("warning", .int counts.warnings), ("info", .int counts.infos)])) ∧
    (∃ record run : Json, sarif.result o r = record.write (some 2) ∧
      record.get? "runs" = some (.array [run]) ∧
      run.get? "results" = some (.array (shown.map Report.Sarif.result))) ∧
    (∃ groups, ByFile shown groups ∧ (groups.flatMap Prod.snd).Perm shown ∧
      (r.findings.Pairwise (fun f g => f.key ≤ g.key) → groups.flatMap Prod.snd = shown) ∧
      (summary r).counts = counts ∧
      text.result o r = Text.joinWith "\n"
        (groups.flatMap (fun g =>
          o.style.paint .cyanBold g.1 :: g.2.flatMap (findingLines o.style) ++ [""]) ++
          errorLines o.style r.errors ++ summaryLines o.style (summary r))) ∧
    counts.errors + counts.warnings + counts.infos = counts.total ∧
    counts.total + counts.suppressed = r.findings.length ∧
    shown.length = counts.total + if o.includeSuppressed then counts.suppressed else 0 := by
  intro shown counts
  refine ⟨⟨_, _, rfl, rfl, rfl, rfl, rfl, rfl⟩, ⟨_, _, rfl, rfl, rfl⟩,
    ⟨groups shown, byFile_groups shown, groups_perm shown, fun hsorted => ?_, rfl, ?_⟩,
    r.count_add_count_add_count, r.total_add_suppressedCount, r.length_visible _⟩
  · exact groups_of_pairwise ((hsorted.filter _).imp Finding.path_le_of_key_le)
  · exact congrArg (Text.joinWith "\n") (resultLines_eq o.style r)

/-- Two files, one of which has a suppressed finding between two others. -/
theorem reports_agree_on_two_files :
    let finding (path : String) (line : Int) (suppressed : Bool) : Finding :=
      { ruleId := "A", title := "A", description := "", severity := .error, confidence := .high,
        category := .sqlSyntax, location := ⟨path, ⟨line, 0, line, 0⟩⟩, snippet := none,
        language := "python", tags := [], metadata := [], suppressed, suppressionReason := none }
    let shown := [finding "a.py" 1 false, finding "a.py" 3 false, finding "b.py" 1 false]
    let r : ScanResult :=
      { findings := [finding "a.py" 1 false, finding "a.py" 2 true, finding "a.py" 3 false,
          finding "b.py" 1 false]
        filesScanned := 2, scanTime := .notANumber, languages := [], rules := [], errors := [] }
    r.findings.Pairwise (fun f g => f.key ≤ g.key) ∧
      ∃ groups, ByFile shown groups ∧ groups.flatMap Prod.snd = shown ∧
        r.counts = ⟨3, 0, 0, 3, 1⟩ := by
  intro finding shown r
  have hbefore : r.findings.Pairwise fun f g => f.comesBefore g = true := by decide +kernel
  have hsorted := hbefore.imp (Finding.comesBefore_iff _ _).1
  obtain ⟨-, -, ⟨groups, hgroups, -, horder, -⟩, -⟩ := reports_agree ⟨false, false, false, ""⟩ r
  exact ⟨hsorted, groups, hgroups, horder hsorted, rfl⟩

end ReportFormat

end QueryLint
