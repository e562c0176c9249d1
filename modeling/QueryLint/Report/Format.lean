import QueryLint.Report.Sarif
import QueryLint.Report.Text
import QueryLint.Text.Lowercase

/-!
# Formats of reports

A report is for readers, for programs, or in the interchange format for static
analysis.
-/

namespace QueryLint

inductive ReportFormat where
  | text
  | json
  | sarif
deriving DecidableEq

/-- How a report is written. A format looks only at what concerns it. -/
structure ReportOptions where
  color : Bool := false
  verbose : Bool := false
  includeSuppressed : Bool := false
  /-- The time at which the scan ended. -/
  finishedAt : String

namespace ReportOptions

def style (o : ReportOptions) : Report.Text.Style := ⟨o.color, o.verbose, o.includeSuppressed⟩

end ReportOptions

namespace ReportFormat

/-- The format of a name in any case. -/
def ofName (name : String) : Except Failure ReportFormat :=
  match Text.lower name with
  | "text" | "cli" => .ok text
  | "json" => .ok json
  | "sarif" => .ok sarif
  | _ => .error (.unknownFormat name)

/-- The name of the writer of a format. -/
def writer : ReportFormat → String
  | text => "CLIFormatter"
  | json => "JSONFormatter"
  | sarif => "SARIFFormatter"

/-- The format that a setting names. -/
def ofDatum : Datum → Except Failure ReportFormat
  | .text s => ofName s
  | .bytes bs => .error (.unknownFormat (Datum.bytes bs).display)
  | d => .error (.noMember d.typeName "lower")

/-- The report about a result. -/
def result (format : ReportFormat) (o : ReportOptions) (r : ScanResult) : String :=
  match format with
  | text => Report.Text.result o.style r
  | json => (r.toJsonWith (Finding.visible o.includeSuppressed r.findings)).write (some 2)
  | sarif => Report.Sarif.report o.includeSuppressed o.finishedAt r

end ReportFormat

end QueryLint
