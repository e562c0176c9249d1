import QueryLint.Proofs.Engine.Discovery
import QueryLint.Proofs.Engine.LineNumbers
import QueryLint.Proofs.Engine.Rules
import QueryLint.Proofs.Engine.Workers

/-!
# Scans of whole trees

A scan of a tree is put together from the scans of its files, and these do not touch one
another: a file that cannot be opened, or that is no program, has an error of its own. Workers
that share the files come to the same result in whatever order they finish. There is one
exception. A program that is too much for the reader makes it break off, and that ends the scan
of all the other files as well.
-/

namespace QueryLint

/-- The validators of a judge come to a verdict about every text, be it by a crash. -/
def SqlRules.Judge.Answers (judge : Judge) : Prop :=
  ∀ settings validator, judge.validator settings = .ok validator →
    ∀ sql, validator.validate sql ≠ .interrupted

theorem SqlRules.Judge.answers_given {v : Validator}
    (h : ∀ sql, v.validate sql ≠ .interrupted) : (Judge.given v).Answers := by
  intro settings validator hvalidator
  cases hvalidator
  exact h

/-- Numbers, and nothing else, can be compared with a number. -/
theorem Datum.exceeds_eq_ok_iff (d : Datum) (n : Int) :
    (∃ b, d.exceeds n = .ok b) ↔ Registry.isNumber d = true := by
  unfold exceeds
  split
  · simp [Registry.isNumber]
  · simp [Registry.isNumber]
  · cases d with
    | float x => cases x <;> simp_all [fraction?, Registry.isNumber]
    | _ => simp [fraction?, Registry.isNumber]

namespace Engine

open SqlRules

/-- Two engines with the same limits differ about a source only in what their rules make of
it. -/
theorem scanContent_related {P : Outcome → Outcome → Prop} (e e' : Engine)
    (hlimits : e.limits = e'.limits) (hsame : ∀ o : Outcome, o.findings = [] → P o o)
    {language path source : String}
    (hrules : ∀ d, P (runRules e.threshold e.rules (contextOf language path d))
      (runRules e'.threshold e'.rules (contextOf language path d))) :
    P (e.scanContent language path source) (e'.scanContent language path source) := by
  simp only [scanContent, scanText, hlimits]
  cases read language path source e'.limits with
  | error failure => exact hsame _ rfl
  | ok parsed =>
    cases parsed with
    | none => exact hsame _ rfl
    | some d => exact hrules d

theorem pairwise_scanContent (e : Engine) (language path content : String) :
    (e.scanContent language path content).findings.Pairwise fun f g => f.key ≤ g.key := by
  simp only [scanContent, scanText]
  cases read language path content e.limits with
  | error failure => exact .nil
  | ok parsed =>
    cases parsed with
    | none => exact .nil
    | some d => exact Finding.pairwise_sort _

theorem pairwise_scanFile (e : Engine) (fs : FileSystem) (path : String) :
    (e.scanFile fs path).findings.Pairwise fun f g => f.key ≤ g.key := by
  unfold scanFile
  split
  · exact .nil
  · split
    · exact .nil
    · exact .nil
    · exact .nil
    · exact pairwise_scanContent ..

/-- The failure that a step ends in, if it does. -/
def failureOf? {α : Type} : Except Failure α → Option Failure
  | .error failure => some failure
  | .ok _ => none

/-- The failure that reading the file at a path breaks off with. A file that is not looked into,
that cannot be opened or that is no program is none of these. -/
def breakOff? (limits : Document.Limits) (fs : FileSystem) (path : String) : Option Failure :=
  match languageOf? path, contentOf fs path with
  | some language, .ok content => failureOf? (read language.name path content limits)
  | _, _ => none

section

variable {judge : Judge} {settings : Datum} {limits : Document.Limits} {e : Engine}
  {fs : FileSystem} {path : String}

theorem path_of_mem_scanContent
    (hmade : ofSettings (SqlRules.registry judge) settings limits = .ok e)
    {language content : String} {f : Finding}
    (hf : f ∈ (e.scanContent language path content).findings) : f.location.path = path := by
  cases hread : read language path content e.limits with
  | error failure => simp [scanContent, scanText, hread] at hf
  | ok parsed =>
    cases parsed with
    | none => simp [scanContent, scanText, hread, scanParsed] at hf
    | some d =>
      obtain ⟨site, -, markers, text, errors, -, rfl⟩ := exists_of_mem_findings hmade hread hf
      rw [settle_location]
      rfl

theorem path_of_mem_scanFile (hmade : ofSettings (SqlRules.registry judge) settings limits = .ok e)
    {f : Finding} (hf : f ∈ (e.scanFile fs path).findings) : f.location.path = path := by
  unfold scanFile at hf
  split at hf
  · cases hf
  · split at hf
    · cases hf
    · cases hf
    · cases hf
    · exact path_of_mem_scanContent hmade hf

/-- With validators that answer, no rule is interrupted. -/
theorem ending_of_mem_rules (hmade : ofSettings (SqlRules.registry judge) settings limits = .ok e)
    (hanswers : judge.Answers) {r : Rule} (hr : r ∈ e.rules) {context : Context} {d : Document}
    (hd : context.document = some d) : (r.analyze context).ending ≠ .interrupted := by
  obtain ⟨s, hrules⟩ := exists_of_mem_rules hmade
  obtain ⟨origin, markers, validator, hvalidator, rfl⟩ := hrules r hr
  have hdone := (analyze_of_total origin markers validator context d hd
    (hanswers s validator hvalidator)).2
  exact ne_of_eq_of_ne hdone (by simp)

/-- With validators that answer, only the reader can stop the scan of a source. -/
theorem stopped_scanContent (hmade : ofSettings (SqlRules.registry judge) settings limits = .ok e)
    (hanswers : judge.Answers) (language path content : String) :
    (e.scanContent language path content).stopped =
      failureOf? (read language path content e.limits) := by
  simp only [scanContent, scanText]
  cases read language path content e.limits with
  | error failure => rfl
  | ok parsed =>
    cases parsed with
    | none => rfl
    | some d =>
      exact (collect_eq e.threshold (contextOf language path d) e.rules fun r hr =>
        ending_of_mem_rules hmade hanswers hr rfl).2.2

theorem contentOf_eq_error {failure : Failure} (h : contentOf fs path = .error failure) :
    fs.readBytes path = .error failure := by
  unfold contentOf at h
  cases hbytes : fs.readBytes path with
  | ok bytes => rw [hbytes] at h; cases h
  | error failure' => rw [hbytes] at h; cases h; rfl

theorem stopped_scanFile (hmade : ofSettings (SqlRules.registry judge) settings limits = .ok e)
    (hanswers : judge.Answers) (hpath : Path.isSpeakable path = true) :
    (e.scanFile fs path).stopped = breakOff? e.limits fs path := by
  unfold scanFile breakOff?
  cases languageOf? path with
  | none => rfl
  | some language =>
    cases hcontent : contentOf fs path with
    | ok content => exact stopped_scanContent hmade hanswers language.name path content
    | error failure =>
      obtain ⟨hnull, hcode⟩ :=
        FileSystem.readBytes_of_isSpeakable hpath (contentOf_eq_error hcontent)
      -- the two failures that would stop the scan are those of a path that cannot be handed on
      dsimp only
      split
      next heq => cases heq; exact absurd rfl hnull
      next heq => cases heq; exact absurd rfl (hcode _ _ _)
      next => rfl
      next heq => cases heq

end

theorem scanFile_eq_scanContent (e : Engine) {fs : FileSystem} {path content : String}
    {language : Language} (hlanguage : languageOf? path = some language)
    (hcontent : contentOf fs path = .ok content) :
    e.scanFile fs path = e.scanContent language.name path content := by
  unfold scanFile
  rw [hlanguage, hcontent]

/-- What a scan finds in a file depends on the text of that file only. -/
theorem scanFile_congr (e : Engine) {fs fs' : FileSystem} {path : String}
    (h : contentOf fs path = contentOf fs' path) : e.scanFile fs path = e.scanFile fs' path := by
  unfold scanFile
  rw [h]

/-- The result of a scan is put together from the outcomes of the files: all findings in order,
those of each file as they were, and the errors file by file. -/
structure JoinsFiles (outcome : String → Outcome) (paths : List String) (r : ScanResult) :
    Prop where
  perm : r.findings.Perm (paths.flatMap fun p => (outcome p).findings)
  ordered : r.findings.Pairwise fun f g => f.key ≤ g.key
  of_file : ∀ p ∈ paths, r.findings.filter (·.location.path = p) = (outcome p).findings
  errors_eq : r.errors = paths.flatMap fun p => (outcome p).errors
  filesScanned_eq : r.filesScanned = paths.length

theorem joinsFiles_resultOf (e : Engine) {outcome : String → Outcome} {paths : List String}
    (hnodup : paths.Nodup)
    (hown : ∀ p ∈ paths, ∀ f ∈ (outcome p).findings, f.location.path = p)
    (hordered : ∀ p ∈ paths, (outcome p).findings.Pairwise fun f g => f.key ≤ g.key) :
    JoinsFiles outcome paths (e.resultOf paths (paths.map outcome)) := by
  have hfindings : (e.resultOf paths (paths.map outcome)).findings =
      Finding.sort (paths.flatMap fun p => (outcome p).findings) := by
    simp only [resultOf, List.flatMap_map]
  refine ⟨?_, ?_, ?_, ?_, rfl⟩
  · rw [hfindings]
    exact Finding.sort_perm _
  · rw [hfindings]
    exact Finding.pairwise_sort _
  · intro p hp
    -- the findings with this path are those of the one file there, and these are in order
    have honce : paths.filter (· = p) = [p] := by
      rw [List.filter_eq, List.count_eq_one_of_mem hnodup hp]
      rfl
    rw [hfindings, Finding.filter_sort,
      Finding.filter_flatMap_of_label (·.location.path) id _ paths hown]
    simp only [id_eq, honce, List.flatMap_singleton]
    exact Finding.sort_eq_self (hordered p hp)
  · simp only [resultOf, List.flatMap_map]

theorem conclude_eq_ok_iff {e : Engine} {paths : List String} {outcomes : List Outcome}
    {r : ScanResult} :
    e.conclude paths outcomes = .ok r ↔
      (∀ o ∈ outcomes, o.stopped = none) ∧ e.resultOf paths outcomes = r := by
  rw [← List.findSome?_eq_none_iff]
  unfold conclude
  cases outcomes.findSome? (·.stopped) <;> simp

/-- A scan of some files can start: its target is there, and the number of workers is a number,
unless there is no work to share. -/
def CanStart (e : Engine) (fs : FileSystem) (target : String) (paths : List String) : Prop :=
  fs.exists_ target = true ∧ (paths.length ≤ 1 ∨ Registry.isNumber e.maxWorkers = true)

theorem checkWorkers_eq_ok_iff (e : Engine) (paths : List String) :
    e.checkWorkers paths = .ok () ↔
      paths.length ≤ 1 ∨ Registry.isNumber e.maxWorkers = true := by
  unfold checkWorkers
  by_cases hfew : paths.length ≤ 1
  · simp [hfew]
  · rw [if_neg hfew, bind_eq_ok_iff, ← Datum.exceeds_eq_ok_iff e.maxWorkers 1]
    simp [hfew, pure, Except.pure]

section

variable {e : Engine} {fs : FileSystem} {target : String} {paths : List String}

theorem scan_eq_conclude (hfound : e.discover fs target = .ok paths)
    (hstart : e.CanStart fs target paths) :
    e.scan fs target = e.conclude paths (paths.map (e.scanFile fs)) := by
  have hworkers := (checkWorkers_eq_ok_iff e paths).2 hstart.2
  simp only [scan, hstart.1, hfound, bind, Except.bind, hworkers]
  rfl

theorem canStart_of_scan (hfound : e.discover fs target = .ok paths) {r : ScanResult}
    (hscan : e.scan fs target = .ok r) : e.CanStart fs target paths := by
  unfold scan at hscan
  cases hexists : fs.exists_ target with
  | false => rw [hexists] at hscan; cases hscan
  | true =>
    rw [hexists] at hscan
    obtain ⟨found, hfound', hscan⟩ := bind_eq_ok_iff.1 hscan
    rw [hfound] at hfound'
    cases hfound'
    obtain ⟨_, hworkers, -⟩ := bind_eq_ok_iff.1 hscan
    exact ⟨hexists, (checkWorkers_eq_ok_iff e paths).1 hworkers⟩

theorem scan_eq_ok_iff (hfound : e.discover fs target = .ok paths) {r : ScanResult} :
    e.scan fs target = .ok r ↔ e.CanStart fs target paths ∧
      (∀ p ∈ paths, (e.scanFile fs p).stopped = none) ∧
      e.resultOf paths (paths.map (e.scanFile fs)) = r := by
  constructor
  · intro hscan
    have hstart := canStart_of_scan hfound hscan
    rw [scan_eq_conclude hfound hstart, conclude_eq_ok_iff, List.forall_mem_map] at hscan
    exact ⟨hstart, hscan⟩
  · rintro ⟨hstart, hends⟩
    rw [scan_eq_conclude hfound hstart, conclude_eq_ok_iff, List.forall_mem_map]
    exact hends

end

section

variable {judge : Judge} {settings : Datum} {limits : Document.Limits} {e : Engine}
  {fs : FileSystem} {target : String} {paths : List String}

theorem joinsFiles_of_scan (hmade : ofSettings (SqlRules.registry judge) settings limits = .ok e)
    (htree : fs.root.isProper = true) (hfound : e.discover fs target = .ok paths)
    {r : ScanResult} (hscan : e.scan fs target = .ok r) :
    JoinsFiles (e.scanFile fs) paths r := by
  obtain ⟨-, -, rfl⟩ := (scan_eq_ok_iff hfound).1 hscan
  exact joinsFiles_resultOf e (nodup_of_discover htree hfound).1
    (fun p _ f hf => path_of_mem_scanFile hmade hf) fun p _ => pairwise_scanFile e fs p

/-- The files of a tree are scanned one by one. A scan that can start has a result exactly if no
file makes the reader break off, and the result is then put together from the outcomes of the
files, however many workers share them and in whatever order they finish. What the other files
hold makes no difference to the findings of a file. -/
theorem scan_joins_files (hmade : ofSettings (SqlRules.registry judge) settings limits = .ok e)
    (hanswers : judge.Answers) (htree : fs.root.isProper = true)
    (hfound : e.discover fs target = .ok paths) :
    ((∃ r, e.scan fs target = .ok r) ↔
        e.CanStart fs target paths ∧ ∀ p ∈ paths, breakOff? e.limits fs p = none) ∧
      (∀ r, e.scan fs target = .ok r → JoinsFiles (e.scanFile fs) paths r) ∧
      (∀ workers, 0 < workers →
        ∃ moves, (Pool.complete? workers (e.scanFile fs) paths moves).isSome) ∧
      (∀ workers moves outcomes,
        Pool.complete? workers (e.scanFile fs) paths moves = some outcomes →
          e.CanStart fs target paths → e.conclude paths outcomes = e.scan fs target) ∧
      ∀ fs' paths' r r', fs'.root.isProper = true → e.discover fs' target = .ok paths' →
        e.scan fs target = .ok r → e.scan fs' target = .ok r' →
          ∀ p ∈ paths, p ∈ paths' → contentOf fs p = contentOf fs' p →
            r.findings.filter (·.location.path = p) =
              r'.findings.filter (·.location.path = p) := by
  refine ⟨?_, fun r => joinsFiles_of_scan hmade htree hfound, ?_, ?_, ?_⟩
  · have hstopped : (∀ p ∈ paths, (e.scanFile fs p).stopped = none) ↔
        ∀ p ∈ paths, breakOff? e.limits fs p = none := by
      refine forall₂_congr fun p hp => ?_
      rw [stopped_scanFile hmade hanswers ((nodup_of_discover htree hfound).2 p hp)]
    simp [scan_eq_ok_iff hfound, hstopped]
  · intro workers hworkers
    obtain ⟨moves, hmoves⟩ := Pool.exists_complete? hworkers (e.scanFile fs) paths
    exact ⟨moves, by simp [hmoves]⟩
  · intro workers moves outcomes hmoves hstart
    rw [Pool.complete?_eq_map hmoves, scan_eq_conclude hfound hstart]
  · intro fs' paths' r r' htree' hfound' hscan hscan' p hp hp' hsame
    rw [(joinsFiles_of_scan hmade htree hfound hscan).of_file p hp,
      (joinsFiles_of_scan hmade htree' hfound' hscan').of_file p hp', scanFile_congr e hsame]

end

/-- Two files in one folder: one with a command, and one that is no program. -/
def twoFiles : FileSystem where
  root := .folder [("a.py", .file "SqlCommand(\"SELEKT 1\")\n".toUTF8.toList),
    ("b.py", .file "x = (\n".toUTF8.toList)]
  current := []

theorem walk_twoFiles (sieve : Discovery.Sieve) :
    Discovery.walk sieve "." twoFiles.root = [.file "./a.py" 23, .file "./b.py" 6] := by
  have hsorted : Discovery.byName
      [("a.py", Entry.file "SqlCommand(\"SELEKT 1\")\n".toUTF8.toList),
        ("b.py", .file "x = (\n".toUTF8.toList)] = _ := Discovery.byName_of_pairwise (by decide)
  rw [twoFiles, Discovery.walk, Discovery.fileStops, hsorted]
  simp only [Discovery.walkFolders, Discovery.isFolder_file, Bool.false_and, Bool.false_eq_true,
    if_false]
  rw [Discovery.byName_of_pairwise .nil]
  decide +kernel

theorem discover_twoFiles :
    (frameOf [] .info).discover twoFiles "." = .ok ["./a.py", "./b.py"] := by
  have hplain : Path.plain "." = "." := rfl
  unfold discover
  rw [hplain]
  change ((Discovery.walk _ "." twoFiles.root).forM _ >>= fun _ =>
    pure (Discovery.files _ "." twoFiles.root)) = _
  rw [Discovery.files, walk_twoFiles]
  refine eq_ok_of_toOption ?_
  decide +kernel

/-- The second worker finishes first, with a file that is no program. -/
theorem scan_joins_two_files :
    let objecting : Validator := ⟨fun _ => .messages ["no such statement"], fun _ => []⟩
    let paths := ["./a.py", "./b.py"]
    ∃ e r outcomes, ofSettings (SqlRules.registry (.given objecting)) .null = .ok e ∧
      twoFiles.root.isProper = true ∧ e.discover twoFiles "." = .ok paths ∧
      e.scan twoFiles "." = .ok r ∧ JoinsFiles (e.scanFile twoFiles) paths r ∧
      Pool.complete? 2 (e.scanFile twoFiles) paths [.take, .take, .finish 1, .finish 0] =
        some outcomes ∧
      e.conclude paths outcomes = .ok r ∧ r.findings.length = 1 ∧
      r.errors = ["Could not parse ./b.py"] := by
  intro objecting paths
  have hmade := ofSettings_null objecting
  generalize he : Engine.mk _ _ _ _ _ _ _ = e at hmade
  have hfound : e.discover twoFiles "." = .ok paths := by
    subst he
    exact discover_twoFiles
  have hanswers : (Judge.given objecting).Answers := by
    intro settings validator hvalidator sql
    cases hvalidator
    simp [objecting]
  have htree : twoFiles.root.isProper = true := by decide +kernel
  have hstart : e.CanStart twoFiles "." paths := by
    subst he
    exact ⟨by decide +kernel, .inr rfl⟩
  have hnone : paths.all (fun p => (breakOff? e.limits twoFiles p).isNone) = true := by
    subst he
    decide +kernel
  obtain ⟨hends, hjoins, -, hshared, -⟩ := scan_joins_files hmade hanswers htree hfound
  obtain ⟨r, hscan⟩ := hends.2 ⟨hstart, by simpa [paths] using hnone⟩
  have hjoined := hjoins r hscan
  have hpool : Pool.complete? 2 (e.scanFile twoFiles) paths
      [.take, .take, .finish 1, .finish 0] = some (paths.map (e.scanFile twoFiles)) := rfl
  refine ⟨e, r, _, hmade, htree, hfound, hscan, hjoined, hpool,
    (hshared 2 _ _ hpool hstart).trans hscan, ?_, ?_⟩
  · have htext : contentOf twoFiles "./a.py" = .ok "SqlCommand(\"SELEKT 1\")\n" :=
      eq_ok_of_toOption (by decide +kernel)
    have hfirst : (e.scanFile twoFiles "./a.py").findings.length = 1 := by
      rw [scanFile_eq_scanContent e (by decide +kernel : _ = some .python) htext]
      refine length_findings ?_
      subst he
      decide +kernel
    have hsecond : (e.scanFile twoFiles "./b.py").findings.length = 0 := by
      subst he
      decide +kernel
    rw [hjoined.perm.length_eq]
    simp [paths, hfirst, hsecond]
  · rw [hjoined.errors_eq]
    subst he
    decide +kernel

end Engine

end QueryLint
