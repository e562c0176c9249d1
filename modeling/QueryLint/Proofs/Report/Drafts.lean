import QueryLint.Draft.Report
import QueryLint.Proofs.Engine.Anchors
import QueryLint.Proofs.Engine.Discovery
import QueryLint.Proofs.Report.Agreement
import QueryLint.Proofs.Report.Excerpts

/-!
# Reports about drafts of a result

A report for readers can be made from a result or from the drafts of its findings, whose numbers
may be of any size. From drafts there is none if a number has too many digits, or counts more
blanks or carets than there is room for. In every other case the two reports are the same, so a
report about a result is right wherever there is one. There always is one about the findings in
texts that there is room for, because these lie in the lines of their texts.
-/

namespace QueryLint

open Engine (bind_eq_ok_iff)

/-- Where each step does the same if it succeeds at all, so does the whole. -/
theorem mapM_eq_ok_iff_of {α β : Type} {make : α → Except Failure β} {P : α → Prop} {g : α → β}
    (h : ∀ a b, make a = .ok b ↔ P a ∧ b = g a) {as : List α} {bs : List β} :
    as.mapM make = .ok bs ↔ (∀ a ∈ as, P a) ∧ bs = as.map g := by
  induction as generalizing bs with
  | nil => simp [pure, Except.pure, eq_comm]
  | cons a as ih =>
    simp only [List.mapM_cons, bind_eq_ok_iff, h, ih, pure, Except.pure, Except.ok.injEq,
      List.forall_mem_cons, List.map_cons]
    constructor
    · rintro ⟨_, ⟨ha, rfl⟩, _, ⟨has, rfl⟩, rfl⟩
      exact ⟨⟨ha, has⟩, rfl⟩
    · rintro ⟨⟨ha, has⟩, rfl⟩
      exact ⟨_, ⟨ha, rfl⟩, _, ⟨has, rfl⟩, rfl⟩

namespace Json

theorem compare?_whole (m n : Int) : (Number.whole m).compare? (.whole n) = some (compare m n) := by
  have hscale : (0 : Int) < Binary64.pow2 (-Binary64.minExponent).toNat := by decide +kernel
  have hsame : ∀ k : Int, 0 < k → compare (m * k) (n * k) = compare m n := by
    intro k hk
    obtain h | h | h := lt_trichotomy m n
    · rw [compare_lt_iff_lt.2 h, compare_lt_iff_lt]
      exact Int.mul_lt_mul_of_pos_right h hk
    · rw [compare_eq_iff_eq.2 h, compare_eq_iff_eq, h]
    · rw [compare_gt_iff_gt.2 h, compare_gt_iff_gt]
      exact Int.mul_lt_mul_of_pos_right h hk
  exact congrArg some (hsame _ hscale)

theorem same_int (m n : Int) : (int m).same (int n) = decide (m = n) := by
  have hsame : (int m).same (int n) = (compare m n == .eq) := by
    rw [same]
    · simp only [number?, compare?_whole]
    all_goals nofun
  rw [hsame, Bool.eq_iff_iff, beq_iff_eq, decide_eq_true_iff, compare_eq_iff_eq]

theorem less_int (m n : Int) : (int m).less (int n) = .ok (decide (m < n)) := by
  have hless : (int m).less (int n) = .ok (some (compare m n) == some .lt) := by
    rw [less]
    · simp only [number?, compare?_whole]
    all_goals nofun
  rw [hless, Except.ok.injEq, Bool.eq_iff_iff, beq_iff_eq, decide_eq_true_iff, Option.some.injEq,
    compare_lt_iff_lt]

end Json

theorem Datum.ofItems_strings (ss : List String) : ofItems (ss.map Json.string) = ss.map text := by
  induction ss with
  | nil => rfl
  | cons s ss ih => rw [List.map_cons, List.map_cons, ofItems, ofJson, ih]

theorem Datum.items_ofJson_strings (ss : List String) :
    (ofJson (.strings ss)).items = .ok (ss.map text) := by
  rw [← ofItems_strings]
  rfl

namespace Report.Text

open QueryLint.Text (IsRepeatable joinWith padLeft newlineLines viewLines length_cutAt
  length_le_of_mem_cutAt length_viewLinesFrom_le length_le_of_mem_viewLinesFrom)

/-- A whole number that is written down. -/
def IsShort (n : Int) : Prop := n.natAbs < Binary64.pow10 Text.maxDecimalDigits

theorem numberText_eq_ok_iff {n : Int} {t : String} :
    LocationDraft.numberText (.int n) = .ok t ↔ IsShort n ∧ t = toString n := by
  rw [LocationDraft.numberText, IsShort]
  split_ifs with hlong
  · exact ⟨nofun, fun h => absurd h.1 (Nat.not_lt.2 hlong)⟩
  · rw [and_iff_right (Nat.not_le.1 hlong), Except.ok.injEq, eq_comm]

theorem display_eq_ok_iff {l : Location} {t : String} :
    l.draft.display = .ok t ↔ IsShort (l.span.startColumn + 1) ∧ t = l.display := by
  have hadd : l.draft.startColumn.add (.int 1) = .ok (.int (l.span.startColumn + 1)) := rfl
  simp only [LocationDraft.display, bind_eq_ok_iff, hadd, Except.ok.injEq, exists_eq_left',
    numberText_eq_ok_iff, pure, Except.pure]
  constructor
  · rintro ⟨_, ⟨hshort, rfl⟩, rfl⟩
    exact ⟨hshort, rfl⟩
  · rintro ⟨hshort, rfl⟩
    exact ⟨_, ⟨hshort, rfl⟩, rfl⟩

theorem numberField_eq_ok_iff {n : Int} {t : String} :
    numberField (.int n) = .ok t ↔ IsShort n ∧ t = padLeft numberWidth (toString n) := by
  have hfield : numberField (.int n) =
      padLeft numberWidth <$> LocationDraft.numberText (.int n) := rfl
  simp only [hfield, map_eq_pure_bind, bind_eq_ok_iff, numberText_eq_ok_iff, pure, Except.pure,
    Except.ok.injEq]
  constructor
  · rintro ⟨_, ⟨hshort, rfl⟩, rfl⟩
    exact ⟨hshort, rfl⟩
  · rintro ⟨hshort, rfl⟩
    exact ⟨_, ⟨hshort, rfl⟩, rfl⟩

/-- Consecutive numbers that are written down. -/
def AreShort (number : Int) (count : Nat) : Prop := ∀ i < count, IsShort (number + i)

theorem areShort_succ {number : Int} {count : Nat} :
    AreShort number (count + 1) ↔ IsShort number ∧ AreShort (number + 1) count := by
  have hshift : ∀ i : Nat, number + 1 + i = number + (i + 1 : Nat) := by omega
  simp only [AreShort, Nat.forall_lt_succ_left, hshift, Int.natCast_zero, Int.add_zero]

theorem rowsFrom_eq_ok_iff {start : Int} {codes : List String} {offset : Nat} {rows : List Row} :
    rowsFrom (.int start) offset (codes.map .text) = .ok rows ↔
      AreShort (start + offset) codes.length ∧ rows = numberedFrom (start + offset) codes := by
  induction codes generalizing offset rows with
  | nil => simp [rowsFrom, numberedFrom, AreShort, eq_comm]
  | cons code codes ih =>
    have hadd : (Json.int start).add (.int offset) = .ok (.int (start + offset)) := rfl
    have hnext : start + (offset + 1 : Nat) = start + offset + 1 := by omega
    simp only [List.map_cons, rowsFrom, bind_eq_ok_iff, hadd, Except.ok.injEq, exists_eq_left',
      numberField_eq_ok_iff, ih, hnext, pure, Except.pure, List.length_cons, areShort_succ]
    constructor
    · rintro ⟨_, ⟨hshort, rfl⟩, _, ⟨hshorts, rfl⟩, rfl⟩
      exact ⟨⟨hshort, hshorts⟩, rfl⟩
    · rintro ⟨⟨hshort, hshorts⟩, rfl⟩
      exact ⟨_, ⟨hshort, rfl⟩, _, ⟨hshorts, rfl⟩, rfl⟩

theorem draftStop_draft (l : Location) (code : String) :
    draftStop l.draft (.string code) = .ok (.int (caretStop l code)) := by
  have hsame : l.draft.endLine.same l.draft.startLine =
      decide (l.span.endLine = l.span.startLine) := Json.same_int ..
  have hlength : (Datum.ofJson (.string code)).length = .ok code.length := by
    simp [Datum.ofJson, Datum.length, Datum.items, String.length_toList]
  rw [draftStop, hsame, hlength, caretStop]
  by_cases hone : l.span.endLine = l.span.startLine
  · rw [if_pos (decide_eq_true hone), if_pos hone]
    rfl
  · rw [if_neg (by simpa using hone), if_neg hone]
    rfl

/-- The carets of a draft are counted as those of a finding, but repeated only where there is
room. -/
theorem draftCarets_draft (l : Location) (code : String) (room : Int) :
    draftCarets l.draft (.string code) room = (do
      return caretRow (← Text.repetitions l.span.startColumn room)
        (← Text.repetitions (caretWidth l code) room)) := by
  have hsubtract : (Json.int (caretStop l code)).subtract l.draft.startColumn =
      .ok (.int (caretStop l code - l.span.startColumn)) := rfl
  have hwidth : (if decide (1 < caretStop l code - l.span.startColumn) = true
      then Json.int (caretStop l code - l.span.startColumn) else .int 1) =
      .int (caretWidth l code) := by
    rw [caretWidth]
    split_ifs with h
    · rw [max_eq_right (le_of_lt (of_decide_eq_true h))]
    · rw [max_eq_left (not_lt.1 fun hlt => h (decide_eq_true hlt))]
  rw [draftCarets, draftStop_draft]
  simp only [bind, Except.bind, hsubtract, Json.less_int, hwidth]
  rfl

/-- There is a row of carets exactly if its blanks and its carets have room. -/
theorem draftCarets_eq_ok_iff {l : Location} {code row : String} {room : Int} :
    draftCarets l.draft (.string code) room = .ok row ↔
      (IsRepeatable room l.span.startColumn ∧ IsRepeatable room (caretWidth l code)) ∧
        row = carets l code := by
  simp only [draftCarets_draft, bind_eq_ok_iff, Text.repetitions_eq_ok_iff, pure, Except.pure,
    Except.ok.injEq]
  constructor
  · rintro ⟨_, ⟨hblanks, rfl⟩, _, ⟨hwidth, rfl⟩, rfl⟩
    exact ⟨⟨hblanks, hwidth⟩, rfl⟩
  · rintro ⟨⟨hblanks, hwidth⟩, rfl⟩
    exact ⟨_, ⟨hblanks, rfl⟩, _, ⟨hwidth, rfl⟩, rfl⟩

/-- A line of code that can be shown: the numbers of the lines are written down, those of the lines
around it too if they are shown, and there is room for the carets. -/
structure FitsExcerpt (room : Int) (verbose : Bool) (l : Location) (s : Snippet) : Prop where
  line : IsShort s.line
  blanks : IsRepeatable room l.span.startColumn
  carets : IsRepeatable room (caretWidth l s.code)
  before : verbose = true → AreShort (s.line - s.before.length) s.before.length
  after : verbose = true → AreShort (s.line + 1) s.after.length

/-- A finding that can be shown. -/
structure Fits (room : Int) (verbose : Bool) (f : Finding) : Prop where
  column : IsShort (f.location.span.startColumn + 1)
  excerpt : ∀ s ∈ f.snippet, FitsExcerpt room verbose f.location s

/-- What is shown of an excerpt. -/
def Excerpt.shown (verbose : Bool) (e : Excerpt) : Excerpt :=
  if verbose then e else { e with before := [], after := [] }

/-- What is shown of an entry. -/
def Entry.shown (verbose : Bool) (e : Entry) : Entry :=
  { e with
    excerpt := e.excerpt.map (Excerpt.shown verbose)
    trace := if verbose then e.trace else none }

theorem entryLines_shown (s : Style) (e : Entry) :
    entryLines s (e.shown s.verbose) = entryLines s e := by
  obtain ⟨_, _, _, _, _, excerpt, trace⟩ := e
  cases hverbose : s.verbose <;> cases excerpt <;> cases trace <;>
    simp [entryLines, Entry.shown, Excerpt.shown, headLine, excerptLines, traceLines, hverbose]

theorem rowsBefore_eq_ok_iff {s : Snippet} {rows : List Row} :
    rowsBefore s.draft = .ok rows ↔ AreShort (s.line - s.before.length) s.before.length ∧
      rows = numberedFrom (s.line - s.before.length) s.before := by
  have hitems : (Datum.ofJson s.draft.before).items = .ok (s.before.map .text) :=
    Datum.items_ofJson_strings s.before
  have hlength : (Datum.ofJson s.draft.before).length = .ok s.before.length := by
    rw [Datum.length, hitems]
    exact congrArg Except.ok (List.length_map _)
  have hsubtract : s.draft.line.subtract (.int s.before.length) =
      .ok (.int (s.line - s.before.length)) := rfl
  simp only [rowsBefore, bind_eq_ok_iff, hlength, hitems, hsubtract, Except.ok.injEq,
    exists_eq_left', rowsFrom_eq_ok_iff, Int.natCast_zero, Int.add_zero]

theorem rowsAfter_eq_ok_iff {s : Snippet} {rows : List Row} :
    rowsAfter s.draft = .ok rows ↔
      AreShort (s.line + 1) s.after.length ∧ rows = numberedFrom (s.line + 1) s.after := by
  have hitems : (Datum.ofJson s.draft.after).items = .ok (s.after.map .text) :=
    Datum.items_ofJson_strings s.after
  have hline : s.draft.line = .int s.line := rfl
  simp only [rowsAfter, bind_eq_ok_iff, hitems, Except.ok.injEq, exists_eq_left', hline,
    rowsFrom_eq_ok_iff, Int.natCast_one]

theorem draftExcerpt_eq_ok_iff {verbose : Bool} {l : Location} {s : Snippet} {room : Int}
    {e : Excerpt} : draftExcerpt verbose l.draft s.draft room = .ok e ↔
      FitsExcerpt room verbose l s ∧ e = (excerptOf l s).shown verbose := by
  have hline : s.draft.line = .int s.line := rfl
  have hcode : s.draft.code = .string s.code := rfl
  cases verbose with
  | false =>
    simp only [draftExcerpt, bind_eq_ok_iff, hline, hcode, numberField_eq_ok_iff,
      draftCarets_eq_ok_iff, pure, Except.pure, Except.ok.injEq, Bool.false_eq_true, if_false,
      exists_eq_left']
    constructor
    · rintro ⟨_, ⟨hnumber, rfl⟩, _, ⟨⟨hblanks, hcarets⟩, rfl⟩, rfl⟩
      exact ⟨⟨hnumber, hblanks, hcarets, nofun, nofun⟩, rfl⟩
    · rintro ⟨hfits, rfl⟩
      exact ⟨_, ⟨hfits.line, rfl⟩, _, ⟨⟨hfits.blanks, hfits.carets⟩, rfl⟩, rfl⟩
  | true =>
    simp only [draftExcerpt, bind_eq_ok_iff, hline, hcode, numberField_eq_ok_iff,
      draftCarets_eq_ok_iff, rowsBefore_eq_ok_iff, rowsAfter_eq_ok_iff, pure, Except.pure,
      Except.ok.injEq, if_true]
    constructor
    · rintro ⟨_, ⟨hbefore, rfl⟩, _, ⟨hnumber, rfl⟩, _, ⟨⟨hblanks, hcarets⟩, rfl⟩, _, ⟨hafter, rfl⟩,
        rfl⟩
      exact ⟨⟨hnumber, hblanks, hcarets, fun _ => hbefore, fun _ => hafter⟩, rfl⟩
    · rintro ⟨hfits, rfl⟩
      exact ⟨_, ⟨hfits.before rfl, rfl⟩, _, ⟨hfits.line, rfl⟩, _,
        ⟨⟨hfits.blanks, hfits.carets⟩, rfl⟩, _, ⟨hfits.after rfl, rfl⟩, rfl⟩

theorem find?_ofFields (key : String) (entries : List (String × Json)) :
    Datum.find? key (Datum.ofFields entries) = (entries.lookup key).map Datum.ofJson := by
  induction entries with
  | nil => rfl
  | cons entry entries ih =>
    obtain ⟨k, j⟩ := entry
    rw [Datum.ofFields, Datum.find?, List.lookup_cons, ih, Bool.beq_comm]
    cases key == k <;> rfl

theorem draftTrace_object (metadata : List (String × Json)) :
    draftTrace (.object metadata) = .ok (traceOf metadata) := by
  have hmember : (Datum.ofJson (.object metadata)).member "identifier" =
      .ok (((metadata.lookup "identifier").map Datum.ofJson).getD .null) := by
    rw [← find?_ofFields]
    rfl
  rw [draftTrace, hmember, traceOf]
  cases metadata.lookup "identifier" <;> rfl

theorem mapM_draftExcerpt_eq_ok_iff {verbose : Bool} {l : Location} {snippet : Option Snippet}
    {room : Int} {excerpt : Option Excerpt} :
    (snippet.map Snippet.draft).mapM (draftExcerpt verbose l.draft · room) = .ok excerpt ↔
      (∀ s ∈ snippet, FitsExcerpt room verbose l s) ∧
        excerpt = (snippet.map (excerptOf l)).map (Excerpt.shown verbose) := by
  cases snippet with
  | none => simp [pure, Except.pure, eq_comm]
  | some s =>
    simp only [Option.map_some, Option.mapM_some, map_eq_pure_bind, bind_eq_ok_iff,
      draftExcerpt_eq_ok_iff, pure, Except.pure, Except.ok.injEq, Option.mem_some_iff, forall_eq']
    constructor
    · rintro ⟨_, ⟨hfits, rfl⟩, rfl⟩
      exact ⟨hfits, rfl⟩
    · rintro ⟨hfits, rfl⟩
      exact ⟨_, ⟨hfits, rfl⟩, rfl⟩

/-- The steps in which the entry of a draft can fail. -/
theorem draftEntry_draft (verbose : Bool) (f : Finding) (room : Int) :
    draftEntry verbose f.draft room = (do
      let place ← f.location.draft.display
      let excerpt ← (f.snippet.map Snippet.draft).mapM
        (draftExcerpt verbose f.location.draft · room)
      let trace := if verbose then traceOf f.metadata else none
      return { entry f with place, excerpt, trace }) := by
  cases verbose with
  | false => rfl
  | true =>
    have hdraft : draftEntry true f.draft room = (do
        let place ← f.location.draft.display
        let excerpt ← (f.snippet.map Snippet.draft).mapM
          (draftExcerpt true f.location.draft · room)
        let trace ← draftTrace (.object f.metadata)
        return { entry f with place, excerpt, trace }) := rfl
    rw [hdraft, draftTrace_object]
    rfl

theorem draftEntry_eq_ok_iff {verbose : Bool} {f : Finding} {room : Int} {e : Entry} :
    draftEntry verbose f.draft room = .ok e ↔
      Fits room verbose f ∧ e = (entry f).shown verbose := by
  simp only [draftEntry_draft, bind_eq_ok_iff, display_eq_ok_iff, mapM_draftExcerpt_eq_ok_iff, pure,
    Except.pure, Except.ok.injEq]
  constructor
  · rintro ⟨_, ⟨hcolumn, rfl⟩, _, ⟨hexcerpt, rfl⟩, rfl⟩
    exact ⟨⟨hcolumn, hexcerpt⟩, rfl⟩
  · rintro ⟨hfits, rfl⟩
    exact ⟨_, ⟨hfits.column, rfl⟩, _, ⟨hfits.excerpt, rfl⟩, rfl⟩

theorem addToGroup_map_draft (path : String) (f : Finding) (gs : List (String × List Finding)) :
    addToGroup Json.same (.string path) f.draft
        (gs.map fun g => (.string g.1, g.2.map Finding.draft)) =
      (addToGroup (· == ·) path f gs).map fun g => (.string g.1, g.2.map Finding.draft) := by
  induction gs with
  | nil => rfl
  | cons g gs ih =>
    have hsame : (Json.string g.1).same (.string path) = (g.1 == path) := by rw [Json.same]
    rw [List.map_cons, addToGroup, addToGroup, hsame, ih]
    cases g.1 == path <;> simp

/-- Drafts are gathered as findings are. -/
theorem draftGroups_map_draft (fs : List Finding) :
    draftGroups (fs.map Finding.draft) =
      .ok ((groups fs).map fun g => (.string g.1, g.2.map Finding.draft)) := by
  have hfold : ∀ gs : List (String × List Finding),
      (fs.map Finding.draft).foldlM (fun groups d => do
          let path := Datum.ofJson d.location.path
          if !path.isHashable then throw (.unhashable path.typeName)
          return addToGroup Json.same d.location.path d groups)
        (gs.map fun g => (.string g.1, g.2.map Finding.draft)) =
      Except.ok (ε := Failure)
        ((fs.foldl (fun groups f => addToGroup (· == ·) f.location.path f groups) gs).map
          fun g => (.string g.1, g.2.map Finding.draft)) := by
    induction fs with
    | nil => exact fun gs => rfl
    | cons f fs ih =>
      intro gs
      rw [List.foldl_cons, ← ih, ← addToGroup_map_draft]
      rfl
  exact hfold []

theorem visible_map_draft (includeSuppressed : Bool) (fs : List Finding) :
    FindingDraft.visible includeSuppressed (fs.map Finding.draft) =
      (Finding.visible includeSuppressed fs).map Finding.draft :=
  List.filter_map

theorem counts_draft (r : ScanResult) : r.draft.counts = r.counts := by
  have hcount : ∀ severity, r.draft.count severity = r.count severity := fun severity =>
    List.countP_map
  have htotal : r.draft.findings.countP (fun d => !d.isSuppressed) = r.total := List.countP_map
  have hsuppressed : r.draft.findings.countP FindingDraft.isSuppressed = r.suppressedCount :=
    List.countP_map
  simp only [ResultDraft.counts, ScanResult.counts, hcount, htotal, hsuppressed]

theorem textsOf_strings (ss : List String) : textsOf (.strings ss) = .ok ss := by
  rw [textsOf, Datum.items_ofJson_strings]
  change (ss.map Datum.text).mapM _ = _
  rw [List.mapM_map]
  exact (mapM_eq_ok_iff_of (P := fun _ => True) (g := id) fun s t => by simp [eq_comm]).2
    ⟨fun _ _ => trivial, (List.map_id ss).symm⟩

/-- What is shown of a summary. -/
def Summary.shown (verbose : Bool) (m : Summary) : Summary :=
  { m with rules := if verbose then m.rules else [] }

theorem summaryLines_shown (s : Style) (m : Summary) :
    summaryLines s (m.shown s.verbose) = summaryLines s m := by
  cases hverbose : s.verbose <;> simp [summaryLines, Summary.shown, hverbose]

theorem draftSummary_draft (verbose : Bool) (r : ScanResult) :
    draftSummary verbose r.draft = .ok ((summary r).shown verbose) := by
  have hrules : textsOf r.draft.rules = .ok r.rules := textsOf_strings r.rules
  have hseconds : draftSeconds r.draft.scanTime = .ok (summary r).seconds := rfl
  rw [draftSummary, hseconds, hrules, counts_draft]
  cases verbose <;> rfl

theorem draftErrors_strings (errors : List String) :
    draftErrors (.strings errors) = .ok errors := by
  cases errors with
  | nil => rfl
  | cons error errors =>
    have hfilled : (Json.strings (error :: errors)).isFilled = true := rfl
    have hplain : (error :: errors).map (Datum.plain ∘ Datum.text) = error :: errors :=
      List.map_id _
    rw [draftErrors, if_pos hfilled, Datum.items_ofJson_strings]
    change Except.ok (List.map _ (List.map _ _)) = _
    rw [List.map_map, hplain]

theorem draftFile_eq_ok_iff {s : Style} {g : String × List Finding} {room : Int}
    {lines : List String} : draftFile s (.string g.1, g.2.map Finding.draft) room = .ok lines ↔
      (∀ f ∈ g.2, Fits room s.verbose f) ∧ lines = fileLines s g := by
  have hentries : ∀ es, (g.2.map Finding.draft).mapM (draftEntry s.verbose · room) = .ok es ↔
      (∀ f ∈ g.2, Fits room s.verbose f) ∧
        es = g.2.map fun f => (entry f).shown s.verbose := by
    intro es
    rw [List.mapM_map]
    exact mapM_eq_ok_iff_of fun f e => draftEntry_eq_ok_iff
  have hlines : groupLines s g.1 (g.2.map fun f => (entry f).shown s.verbose) = fileLines s g := by
    simp only [fileLines, groupLines, List.flatMap_map, entryLines_shown]
  rw [draftFile, bind_eq_ok_iff]
  constructor
  · rintro ⟨es, hes, h⟩
    obtain ⟨hfits, rfl⟩ := (hentries es).1 hes
    cases h
    exact ⟨hfits, hlines⟩
  · rintro ⟨hfits, rfl⟩
    exact ⟨_, (hentries _).2 ⟨hfits, rfl⟩, congrArg Except.ok hlines⟩

theorem forM_checkPath (s : Style) (gs : List (String × List Finding)) :
    (gs.map fun g => (Json.string g.1, g.2.map Finding.draft)).forM (fun g => checkPath s g.1) =
      .ok () := by
  induction gs with
  | nil => rfl
  | cons g gs ih => exact ih

/-- The report about the drafts of a result is the report about the result, and there is one exactly
if every finding that is shown can be. -/
theorem draftResult_eq_ok_iff {s : Style} {r : ScanResult} {room : Int} {report : String} :
    draftResult s r.draft room = .ok report ↔
      (∀ f ∈ Finding.visible s.includeSuppressed r.findings, Fits room s.verbose f) ∧
        report = result s r := by
  let shown := Finding.visible s.includeSuppressed r.findings
  have hgroups : draftGroups (FindingDraft.visible s.includeSuppressed r.draft.findings) =
      .ok ((groups shown).map fun g => (.string g.1, g.2.map Finding.draft)) := by
    rw [← draftGroups_map_draft, ← visible_map_draft]
    rfl
  have herrors : draftErrors r.draft.errors = .ok r.errors := draftErrors_strings r.errors
  have hfiles : ∀ files, ((groups shown).map fun g =>
      (Json.string g.1, g.2.map Finding.draft)).mapM (draftFile s · room) = .ok files ↔
        (∀ g ∈ groups shown, ∀ f ∈ g.2, Fits room s.verbose f) ∧
          files = (groups shown).map (fileLines s) := by
    intro files
    rw [List.mapM_map]
    exact mapM_eq_ok_iff_of fun g lines => draftFile_eq_ok_iff
  -- the groups hold the findings that are shown
  have hall : (∀ g ∈ groups shown, ∀ f ∈ g.2, Fits room s.verbose f) ↔
      ∀ f ∈ shown, Fits room s.verbose f := by
    simp only [← (groups_perm shown).mem_iff, List.mem_flatMap]
    exact ⟨fun h f ⟨g, hg, hf⟩ => h g hg f hf, fun h g hg f hf => h f ⟨g, hg, hf⟩⟩
  have hresult : joinWith "\n" (((groups shown).map (fileLines s)).flatten ++
      errorLines s r.errors ++ summaryLines s ((summary r).shown s.verbose)) = result s r := by
    rw [summaryLines_shown, ← List.flatMap_def]
    rfl
  simp only [draftResult, bind_eq_ok_iff, hgroups, Except.ok.injEq, exists_eq_left', hfiles,
    herrors, draftSummary_draft, forM_checkPath, hall, exists_const, true_and]
  constructor
  · rintro ⟨_, ⟨hfits, rfl⟩, h⟩
    exact ⟨hfits, (Except.ok.inj h).symm.trans hresult⟩
  · rintro ⟨hfits, rfl⟩
    exact ⟨_, ⟨hfits, rfl⟩, congrArg Except.ok hresult⟩

/-- There is room for a text, and its characters can be counted. -/
structure HasRoom (room : Int) (cs : List Char) : Prop where
  room : cs.length < room
  count : cs.length < Text.maxCount

/-- Whatever is not much more than can be counted can be written down. -/
theorem isShort_of_le {n : Int} (h : n.natAbs ≤ 4 * Text.maxCount.natAbs) : IsShort n := by
  have hcount : 4 * Text.maxCount.natAbs < 10 ^ 20 := by decide
  have hdigits : ∀ k, 20 ≤ k → 10 ^ 20 ≤ Binary64.pow10 k :=
    fun k => Nat.pow_le_pow_right (by decide)
  exact h.trans_lt (hcount.trans_le (hdigits Text.maxDecimalDigits (by decide)))

theorem HasRoom.isRepeatable {room n : Int} {cs : List Char} (h : HasRoom room cs) (hn : 0 ≤ n)
    (hle : n ≤ max (1 : Int) cs.length) : IsRepeatable room n := by
  obtain ⟨hroom, hcount⟩ := h
  exact ⟨by omega, by omega, by omega⟩

/-- A finding that lies in a text and shows a stretch of its lines can be shown, if there is room
for the text. -/
theorem HasRoom.fits {room : Int} {cs : List Char} {f : Finding} (hroom : HasRoom room cs)
    (hinside : f.location.span.InLines (newlineLines cs))
    (hsnippet : f.snippet = some (Context.snippetOf (viewLines (String.ofList cs))
      f.location.span.startLine Context.snippetSize)) (verbose : Bool) :
    Fits room verbose f := by
  generalize hlines : viewLines (String.ofList cs) = lines at hsnippet
  obtain ⟨hfirst, hle, hlast, hstart, hstart', hend, hend'⟩ := hinside
  -- all that is counted is bounded by the length of the text
  have hcount : (newlineLines cs).length ≤ cs.length + 1 := by
    rw [newlineLines, length_cutAt]
    exact Nat.succ_le_succ List.count_le_length
  have hcolumn : ∀ n : Nat, (lineAt (newlineLines cs) n).length ≤ cs.length := by
    intro n
    rw [lineAt]
    cases hline : (newlineLines cs)[n - 1]? with
    | none => exact Nat.zero_le _
    | some line => exact length_le_of_mem_cutAt (List.mem_of_getElem? hline)
  have hstartColumn := hcolumn f.location.span.startLine.toNat
  have hendColumn := hcolumn f.location.span.endLine.toNat
  have hview : lines.length ≤ cs.length + 1 := by
    rw [← hlines, viewLines, List.length_map, String.toList_ofList]
    exact length_viewLinesFrom_le [] cs
  have hwidth : ∀ l ∈ lines, l.length ≤ cs.length := by
    rw [← hlines, viewLines, String.toList_ofList, List.forall_mem_map]
    intro l hl
    rw [String.length_ofList]
    exact (length_le_of_mem_viewLinesFrom l hl).trans_eq (Nat.zero_add _)
  have hbound := hroom.count
  refine ⟨isShort_of_le (by omega), fun s hs => ?_⟩
  obtain rfl := Option.some.inj (hsnippet.symm.trans hs)
  have hcode := Context.length_code_snippetOf_le hwidth f.location.span.startLine
    Context.snippetSize
  have hbefore := Context.length_before_snippetOf_le lines f.location.span.startLine
    Context.snippetSize
  have hafter := Context.length_after_snippetOf_le lines f.location.span.startLine
    Context.snippetSize
  have hline : (Context.snippetOf lines f.location.span.startLine Context.snippetSize).line =
    f.location.span.startLine := rfl
  refine ⟨?_, hroom.isRepeatable hstart (by omega), hroom.isRepeatable ?_ ?_, fun _ i hi => ?_,
    fun _ i hi => ?_⟩
  · exact isShort_of_le (by omega)
  · exact le_max_of_le_left (by decide)
  · rw [caretWidth, caretStop]
    refine max_le_max (le_refl 1) ?_
    split <;> omega
  · exact isShort_of_le (by omega)
  · exact isShort_of_le (by omega)

end Report.Text

namespace Engine

variable {judge : SqlRules.Judge} {settings : Datum} {limits : Document.Limits} {e : Engine}

open Report.Text (Fits HasRoom draftResult draftResult_eq_ok_iff)

/-- What is found in a text that there is room for can be shown. -/
theorem fits_of_mem_scanContent (he : ofSettings (SqlRules.registry judge) settings limits = .ok e)
    {language path source : String} {room : Int} (hroom : HasRoom room (Document.normalize source))
    {f : Finding} (hf : f ∈ (e.scanContent language path source).findings) (verbose : Bool) :
    Fits room verbose f := by
  obtain ⟨d, hread, hf⟩ := exists_read_of_mem hf
  obtain ⟨a, hroot, htexts, -, htokens⟩ := placed_of_read hread
  obtain ⟨candidate, text, hstands⟩ := exists_standsFor_of_mem he hf
  have hinside := hstands.inLines hroot htexts htokens
  rw [lines_of_read hread] at hinside
  have hview : (contextOf language path d).lines =
      Text.viewLines (String.ofList (Document.normalize source)) := by
    rw [← source_of_read hread]
    rfl
  exact hroom.fits hinside (hview ▸ hstands.snippet_eq) verbose

/-- There is a report about everything that is found in texts that there is room for. -/
theorem draftResult_of_scanned (he : ofSettings (SqlRules.registry judge) settings limits = .ok e)
    {r : ScanResult} {room : Int} (hfound : ∀ f ∈ r.findings, ∃ language path source,
      HasRoom room (Document.normalize source) ∧
        f ∈ (e.scanContent language path source).findings) (s : Report.Text.Style) :
    draftResult s r.draft room = .ok (Report.Text.result s r) := by
  refine draftResult_eq_ok_iff.2 ⟨fun f hf => ?_, rfl⟩
  obtain ⟨language, path, source, hroom, hf⟩ := hfound f (List.mem_of_mem_filter hf)
  exact fits_of_mem_scanContent he hroom hf s.verbose

end Engine

end QueryLint
