import QueryLint.Draft.Basic

/-!
# Drafts of results

The result of a scan as a record describes it. Its findings are drafts, and what it
says about the scan may be of any kind.
-/

namespace QueryLint

/-- The numbers of findings: of each severity and in all those that are not suppressed,
and those that are. -/
structure Counts where
  errors : Nat
  warnings : Nat
  infos : Nat
  total : Nat
  suppressed : Nat
deriving DecidableEq

def Counts.of (c : Counts) : Severity → Nat
  | .error => c.errors
  | .warning => c.warnings
  | .info => c.infos

structure ResultDraft where
  findings : List FindingDraft
  filesScanned : Json
  scanTime : Json
  languages : Json
  rules : Json
  errors : Json

namespace ResultDraft

/-- Reads the fields of a result. The findings are read before anything else. -/
def ofJson (j : Json) : Except Failure ResultDraft := do
  let findings ← match j.get? "findings" with
    | some fs => FindingDraft.listOfJson fs
    | none => pure []
  let fields ← Record.fields "ScanResult"
    ["findings", "files_scanned", "scan_time_seconds", "languages_detected", "rules_applied"]
    ["errors"] j
  return {
    findings
    filesScanned := Record.get "files_scanned" fields
    scanTime := Record.get "scan_time_seconds" fields
    languages := Record.get "languages_detected" fields
    rules := Record.get "rules_applied" fields
    errors := Record.getOr (.array []) "errors" fields }

def count (r : ResultDraft) (severity : Severity) : Nat :=
  r.findings.countP fun d => d.severity.get? == some severity && !d.isSuppressed

def counts (r : ResultDraft) : Counts where
  errors := r.count .error
  warnings := r.count .warning
  infos := r.count .info
  total := r.findings.countP fun d => !d.isSuppressed
  suppressed := r.findings.countP FindingDraft.isSuppressed

/-- The record of a result with the given numbers and records of findings. -/
def recordWith (r : ResultDraft) (c : Counts) (findings : List Json) : Json :=
  .object [("summary", .object [("files_scanned", r.filesScanned),
      ("scan_time_seconds", r.scanTime), ("languages_detected", r.languages),
      ("rules_applied", r.rules), ("total_findings", .int c.total),
      ("suppressed_findings", .int c.suppressed),
      ("by_severity", .object [("error", .int c.errors), ("warning", .int c.warnings),
        ("info", .int c.infos)])]),
    ("findings", .array findings), ("errors", r.errors)]

/-- The record of a result that shows the given findings. Every finding has to have a
record. -/
def toJsonWith (r : ResultDraft) (findings : List FindingDraft) : Except Failure Json := do
  let _ ← r.findings.mapM FindingDraft.toJson
  return r.recordWith r.counts (← findings.mapM FindingDraft.toJson)

def toJson (r : ResultDraft) : Except Failure Json := r.toJsonWith r.findings

end ResultDraft

end QueryLint
