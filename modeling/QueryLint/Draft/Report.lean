import QueryLint.Draft.Result
import QueryLint.Json.Indent
import QueryLint.Report.Format

/-!
# Reports about drafts

Drafts are reported as findings are. A value of the wrong kind fails where the report
shows it, and one that the report does not show does no harm. Not every format can show
drafts on their own.
-/

namespace QueryLint

/-! ### For readers -/

namespace Report.Text

open QueryLint.Text (joinWith padLeft padRight viewLines)

/-- A value in the field of a line number: numbers stand on the right, texts on the
left. -/
def numberField (j : Json) : Except Failure String :=
  match j with
  | .string s => .ok (padRight numberWidth s)
  | j =>
      match j.number? with
      | some n => padLeft numberWidth <$> LocationDraft.numberText n.toJson
      | none => .error (.noLayout j.typeName)

/-- Lines whose numbers are counted from a value. -/
def rowsFrom (start : Json) (offset : Nat) : List Datum → Except Failure (List Row)
  | [] => .ok []
  | code :: rest => do
      let number ← numberField (← start.add (.int offset))
      return ⟨number, code.plain⟩ :: (← rowsFrom start (offset + 1) rest)

/-- Where the carets under the first line of a draft end. -/
def draftStop (l : LocationDraft) (code : Json) : Except Failure Json :=
  if l.endLine.same l.startLine then .ok l.endColumn
  else do return .int (← (Datum.ofJson code).length : Nat)

/-- The row of carets under the first line of a draft. -/
def draftCarets (l : LocationDraft) (code : Json) (room : Int) : Except Failure String := do
  let stop ← draftStop l code
  let width ← stop.subtract l.startColumn
  let isWide ← (Json.int 1).less width
  let width := if isWide then width else .int 1
  return caretRow (← l.startColumn.repetitions room) (← width.repetitions room)

/-- The lines before a snippet's line. -/
def rowsBefore (s : SnippetDraft) : Except Failure (List Row) := do
  let before := Datum.ofJson s.before
  let first ← s.line.subtract (.int (← before.length))
  rowsFrom first 0 (← before.items)

/-- The lines after a snippet's line. -/
def rowsAfter (s : SnippetDraft) : Except Failure (List Row) := do
  rowsFrom s.line 1 (← (Datum.ofJson s.after).items)

def draftExcerpt (verbose : Bool) (l : LocationDraft) (s : SnippetDraft) (room : Int) :
    Except Failure Excerpt := do
  let before ← if verbose then rowsBefore s else pure []
  let number ← numberField s.line
  let carets ← draftCarets l s.code room
  let after ← if verbose then rowsAfter s else pure []
  return { before, line := ⟨number, s.code.plain⟩, carets, after }

/-- The name that a text was traced from. -/
def draftTrace (metadata : Json) : Except Failure (Option String) := do
  let name ← (Datum.ofJson metadata).member "identifier"
  return if name.isFilled then some name.plain else none

/-- What a report shows of a draft. -/
def draftEntry (verbose : Bool) (d : FindingDraft) (room : Int := QueryLint.Text.usualRoom) :
    Except Failure Entry := do
  let place ← d.location.display
  let severity ← d.severity.get
  let ruleId ← match d.ruleId with
    | .string s => pure s
    | j => throw (.operands "+" "str" j.typeName)
  let messages ← match d.description with
    | .string s => pure (viewLines s)
    | j => throw (.noMember j.typeName "splitlines")
  let excerpt ← d.snippet.mapM (draftExcerpt verbose d.location · room)
  let trace ← if verbose then draftTrace d.metadata else pure none
  return { place, severity, ruleId, title := titleOf d.title.plain d.isSuppressed, messages,
           excerpt, trace }

/-- The report about one draft. -/
def draft (s : Style) (d : FindingDraft) : Except Failure String := do
  return joinWith "\n" (entryLines s (← draftEntry s.verbose d))

/-- Drafts by file, in the order in which the files first appear. -/
def draftGroups (drafts : List FindingDraft) :
    Except Failure (List (Json × List FindingDraft)) :=
  drafts.foldlM (fun groups d => do
    let path := Datum.ofJson d.location.path
    if !path.isHashable then throw (.unhashable path.typeName)
    return addToGroup Json.same d.location.path d groups) []

/-- A number of seconds. -/
def draftSeconds (j : Json) : Except Failure String :=
  match j with
  | .string _ => .error (.template (.unknownType 'f' "str"))
  | j =>
      match j.number? with
      | some n => do return (← n.toDouble).fixed secondPlaces
      | none => .error (.noLayout j.typeName)

/-- The texts that a value holds. -/
def textsOf (j : Json) : Except Failure (List String) := do
  (← (Datum.ofJson j).items).mapM fun
    | .text s => .ok s
    | d => .error (.notText d.typeName)

def draftSummary (verbose : Bool) (r : ResultDraft) : Except Failure Summary := do
  let seconds ← draftSeconds r.scanTime
  let rules ← if verbose then textsOf r.rules else pure []
  return { counts := r.counts, files := r.filesScanned.plain, seconds, rules }

def draftErrors (errors : Json) : Except Failure (List String) := do
  if errors.isFilled then return (← (Datum.ofJson errors).items).map Datum.plain else return []

/-- Fails if a path is no text. Painted paths are texts, whatever they were. -/
def checkPath (s : Style) (path : Json) : Except Failure Unit :=
  match path with
  | .string _ => .ok ()
  | j => if s.color then .ok () else .error (.notText j.typeName)

/-- The lines about the drafts of one file. -/
def draftFile (s : Style) (group : Json × List FindingDraft) (room : Int) :
    Except Failure (List String) := do
  return groupLines s group.1.plain (← group.2.mapM (draftEntry s.verbose · room))

/-- The report about the draft of a result. -/
def draftResult (s : Style) (r : ResultDraft) (room : Int := QueryLint.Text.usualRoom) :
    Except Failure String := do
  let groups ← draftGroups (FindingDraft.visible s.includeSuppressed r.findings)
  let files ← groups.mapM (draftFile s · room)
  let errors ← draftErrors r.errors
  let summary ← draftSummary s.verbose r
  groups.forM fun group => checkPath s group.1
  return joinWith "\n" (files.flatten ++ errorLines s errors ++ summaryLines s summary)

end Report.Text

/-! ### In the interchange format -/

namespace Report.Sarif

def draftLevel : Choice Severity → Except Failure String
  | .member s => .ok (level s)
  | .other j =>
      if (Datum.ofJson j).isHashable then .ok "warning" else .error (.unhashable j.typeName)

def draftRule (d : FindingDraft) : Except Failure Json := do
  let level ← draftLevel d.severity
  return ruleWith d level (← d.category.get)

/-- The rules of drafts in order of first use, except those already seen. -/
def draftRules (seen : List Json) : List FindingDraft → Except Failure (List Json)
  | [] => .ok []
  | d :: rest => do
      if !(Datum.ofJson d.ruleId).isHashable then throw (.unhashable d.ruleId.typeName)
      if seen.any d.ruleId.same then draftRules seen rest
      else
        let rule ← draftRule d
        return rule :: (← draftRules (d.ruleId :: seen) rest)

/-- The text that a draft is about. -/
def draftSql (metadata : Json) : Except Failure (Option Json) := do
  let metadata := Datum.ofJson metadata
  if ← metadata.contains "sql" then return some (← metadata.at_ "sql").toJson else return none

def draftResultOf (d : FindingDraft) : Except Failure Json := do
  let startColumn ← d.location.startColumn.add (.int 1)
  let endColumn ← d.location.endColumn.add (.int 1)
  let level ← draftLevel d.severity
  let confidence ← d.confidence.get
  return resultWith d level confidence (regionWith d startColumn endColumn)
    (← draftSql d.metadata)

def draftInvocation (finishedAt : String) (errors : Json) : Except Failure Json := do
  let errors := Datum.ofJson errors
  let _ ← errors.length
  return invocationWith finishedAt ((← errors.items).map Datum.toJson)

/-- The report about the draft of a result. -/
def draftReport (includeSuppressed : Bool) (finishedAt : String) (r : ResultDraft) :
    Except Failure String := do
  let shown := FindingDraft.visible includeSuppressed r.findings
  let rules ← draftRules [] shown
  let results ← shown.mapM draftResultOf
  let run := runWith rules results (← draftInvocation finishedAt r.errors)
  if run.isHuge then throw .hugeNumber
  return reportWith run

end Report.Sarif

/-! ### In every format -/

namespace ReportFormat

/-- The report about the draft of a result, with the layout of data. -/
def draftResult (format : ReportFormat) (o : ReportOptions) (layout : Except Failure Json.Layout)
    (r : ResultDraft) : Except Failure String :=
  match format with
  | text => Report.Text.draftResult o.style r
  | json => do
      let record ← r.toJsonWith (FindingDraft.visible o.includeSuppressed r.findings)
      record.writeUnder layout
  | sarif => Report.Sarif.draftReport o.includeSuppressed o.finishedAt r

/-- The report about the finding of a record, with the layout of data. -/
def recorded (format : ReportFormat) (o : ReportOptions) (layout : Except Failure Json.Layout)
    (j : Json) : Except Failure String :=
  match format with
  | text => do Report.Text.draft o.style (← FindingDraft.ofJson j)
  | json => do
      let record ← (← FindingDraft.ofJson j).toJson
      record.writeUnder layout
  | sarif => .error (.noMember format.writer "format_finding")

/-- The report about the findings of records, with the layout of data. -/
def recordedAll (format : ReportFormat) (o : ReportOptions) (layout : Except Failure Json.Layout)
    (j : Json) : Except Failure String :=
  match format with
  | json => do
      let shown := FindingDraft.visible o.includeSuppressed (← FindingDraft.listOfJson j)
      (Json.array (← shown.mapM FindingDraft.toJson)).writeUnder layout
  | format => .error (.noMember format.writer "format_findings")

end ReportFormat

end QueryLint
