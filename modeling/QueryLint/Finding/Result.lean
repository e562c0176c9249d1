import QueryLint.Draft.Result
import QueryLint.Finding.Record

/-!
# Results of a scan

All findings of a scan with what there is to say about the scan itself.
-/

namespace QueryLint

structure ScanResult where
  findings : List Finding
  filesScanned : Int
  /-- A number of seconds. -/
  scanTime : Binary64
  languages : List String
  rules : List String
  errors : List String
deriving Inhabited

namespace ScanResult

/-- The number of findings of a severity that are not suppressed. -/
def count (r : ScanResult) (severity : Severity) : Nat :=
  r.findings.countP fun f => f.severity == severity && !f.suppressed

def total (r : ScanResult) : Nat := r.findings.countP fun f => !f.suppressed

def suppressedCount (r : ScanResult) : Nat := r.findings.countP fun f => f.suppressed

def counts (r : ScanResult) : Counts where
  errors := r.count .error
  warnings := r.count .warning
  infos := r.count .info
  total := r.total
  suppressed := r.suppressedCount

def draft (r : ScanResult) : ResultDraft where
  findings := r.findings.map Finding.draft
  filesScanned := .int r.filesScanned
  scanTime := .float r.scanTime
  languages := .strings r.languages
  rules := .strings r.rules
  errors := .strings r.errors

/-- The record of a result that shows the given findings. -/
def toJsonWith (r : ScanResult) (findings : List Finding) : Json :=
  r.draft.recordWith r.counts (findings.map Finding.toJson)

def toJson (r : ScanResult) : Json := r.toJsonWith r.findings

end ScanResult

end QueryLint
