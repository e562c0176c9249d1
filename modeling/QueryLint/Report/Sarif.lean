import QueryLint.About
import QueryLint.Finding.Result
import QueryLint.Json.Writer

/-!
# Reports in the interchange format for static analysis

One run with the rules that the shown findings refer to, in order of first use, a
result for each finding, and an account of the invocation. Columns count from one.
-/

namespace QueryLint.Report.Sarif

def formatVersion : String := "2.1.0"

def schemaUri : String :=
  "https://raw.githubusercontent.com/oasis-tcs/sarif-spec/master/Schemata/sarif-schema-2.1.0.json"

def level : Severity → String
  | .error => "error"
  | .warning => "warning"
  | .info => "note"

/-! ### Layout -/

/-- A rule, described by a finding of it. -/
def ruleWith (d : FindingDraft) (level : String) (category : Category) : Json :=
  .object [("id", d.ruleId), ("name", d.title), ("shortDescription", .object [("text", d.title)]),
    ("defaultConfiguration", .object [("level", .string level)]),
    ("properties", .object [("tags", d.tags), ("category", .string category.label)])]

/-- The place of a finding, given its columns. -/
def regionWith (d : FindingDraft) (startColumn endColumn : Json) : Json :=
  .object ([("startLine", d.location.startLine), ("endLine", d.location.endLine),
    ("startColumn", startColumn), ("endColumn", endColumn)] ++
    match d.snippet with
    | some snippet => [("snippet", .object [("text", snippet.code)])]
    | none => [])

/-- Why a finding is suppressed. -/
def justification (d : FindingDraft) : Json :=
  d.suppressionReason.orElse (.string "Suppressed by inline comment")

/-- The result for a finding, given its place and the text that it is about. -/
def resultWith (d : FindingDraft) (level : String) (confidence : Confidence) (region : Json)
    (sql : Option Json) : Json :=
  .object ([("ruleId", d.ruleId), ("level", .string level),
    ("message", .object [("text", d.description)]),
    ("locations", .array [.object [("physicalLocation", .object [
      ("artifactLocation", .object [("uri", d.location.path)]), ("region", region)])]]),
    ("properties", .object ([("confidence", .string confidence.label),
      ("language", d.language)] ++
      match sql with
      | some sql => [("sql", sql)]
      | none => []))] ++
    if d.isSuppressed then
      [("suppressions", .array [.object [("kind", .string "inSource"),
        ("justification", justification d)]])]
    else [])

def invocationWith (finishedAt : String) (errors : List Json) : Json :=
  .object [("executionSuccessful", .bool errors.isEmpty), ("endTimeUtc", .string finishedAt),
    ("toolExecutionNotifications", .array (errors.map fun e =>
      .object [("message", .object [("text", e)]), ("level", .string "error")]))]

def runWith (rules results : List Json) (invocation : Json) : Json :=
  .object [("tool", .object [("driver", .object [("name", .string About.programName),
      ("version", .string About.version), ("rules", .array rules)])]),
    ("results", .array results), ("invocations", .array [invocation])]

/-- The whole report, given its run. -/
def reportWith (run : Json) : String :=
  Json.write (some 2) (.object [("$schema", .string schemaUri), ("version", .string formatVersion),
    ("runs", .array [run])])

/-! ### Findings -/

/-- The first finding of each rule, in order. -/
def firstOfRules : List Finding → List Finding
  | [] => []
  | f :: rest => f :: (firstOfRules rest).filter (·.ruleId != f.ruleId)

def rule (f : Finding) : Json := ruleWith f.draft (level f.severity) f.category

def region (f : Finding) : Json :=
  regionWith f.draft (.int (f.location.span.startColumn + 1)) (.int (f.location.span.endColumn + 1))

/-- The result for a finding. -/
def result (f : Finding) : Json :=
  resultWith f.draft (level f.severity) f.confidence (region f) (f.metadata.lookup "sql")

def invocation (finishedAt : String) (errors : List String) : Json :=
  invocationWith finishedAt (errors.map .string)

def run (includeSuppressed : Bool) (finishedAt : String) (r : ScanResult) : Json :=
  let shown := Finding.visible includeSuppressed r.findings
  runWith ((firstOfRules shown).map rule) (shown.map result) (invocation finishedAt r.errors)

/-- The report about a result. -/
def report (includeSuppressed : Bool) (finishedAt : String) (r : ScanResult) : String :=
  reportWith (run includeSuppressed finishedAt r)

end QueryLint.Report.Sarif
