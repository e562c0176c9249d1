import QueryLint.Finding.Result
import QueryLint.Text.Lines
import QueryLint.Text.Search

/-!
# Reports for readers

Findings are grouped by file, in the order in which the files first appear. Each is
shown in the manner of a compiler, with its messages, the line of code and a row of
carets under the reported stretch. A summary closes the report. What is shown of a
finding is an entry, so that findings and drafts of findings are laid out alike.
-/

namespace QueryLint.Report.Text

open QueryLint.Text (joinWith padLeft viewLines)

structure Style where
  color : Bool
  verbose : Bool
  includeSuppressed : Bool

/-- Terminal codes. -/
inductive Paint where
  | bold
  | dim
  | red
  | green
  | yellow
  | blue
  | cyanBold

def Paint.code : Paint → String
  | bold => "\x1b[1m"
  | dim => "\x1b[2m"
  | red => "\x1b[91m"
  | green => "\x1b[92m"
  | yellow => "\x1b[93m"
  | blue => "\x1b[94m"
  | cyanBold => "\x1b[96m\x1b[1m"

def resetCode : String := "\x1b[0m"

def Style.paint (s : Style) (p : Paint) (text : String) : String :=
  if s.color then p.code ++ text ++ resetCode else text

def severityPaint : Severity → Paint
  | .error => .red
  | .warning => .yellow
  | .info => .blue

def Style.severity (s : Style) (severity : Severity) : String :=
  s.paint (severityPaint severity) severity.label

/-! ### Entries -/

/-- A line of code behind its number. -/
structure Row where
  number : String
  code : String

/-- A line of code with the lines around it and the carets below it. -/
structure Excerpt where
  before : List Row
  line : Row
  carets : String
  after : List Row

/-- What a report shows of a finding. -/
structure Entry where
  place : String
  severity : Severity
  ruleId : String
  title : String
  messages : List String
  excerpt : Option Excerpt
  /-- The name that a text was traced from. -/
  trace : Option String

def Row.display (r : Row) : String := "    " ++ r.number ++ " | " ++ r.code

def excerptLines (s : Style) (severity : Severity) (e : Excerpt) : List String :=
  let around (rows : List Row) : List String :=
    if s.verbose then rows.map fun r => s.paint .dim r.display else []
  around e.before ++
    [e.line.display, "          | " ++ s.paint (severityPaint severity) e.carets] ++
    around e.after

def traceLines (s : Style) (trace : Option String) : List String :=
  match trace with
  | some name => if s.verbose then [s.paint .dim ("    traced from '" ++ name ++ "'")] else []
  | none => []

def headLine (s : Style) (e : Entry) : String :=
  "  " ++ e.place ++ ": " ++ s.severity e.severity ++ " " ++
    s.paint .dim ("[" ++ e.ruleId ++ "]") ++ " " ++ s.paint .bold e.title

/-- The lines about one entry. -/
def entryLines (s : Style) (e : Entry) : List String :=
  headLine s e :: e.messages.map ("    " ++ ·) ++
    (match e.excerpt with
      | some excerpt => excerptLines s e.severity excerpt
      | none => []) ++
    traceLines s e.trace

/-! ### Findings -/

/-- Carets behind blanks. -/
def caretRow (blanks width : Nat) : String :=
  String.ofList (List.replicate blanks ' ' ++ List.replicate width '^')

/-- Where the carets under the first line of a finding end. -/
def caretStop (location : Location) (code : String) : Int :=
  if location.span.endLine = location.span.startLine then location.span.endColumn else code.length

/-- How many carets there are: one at least. -/
def caretWidth (location : Location) (code : String) : Int :=
  max 1 (caretStop location code - location.span.startColumn)

/-- The row of carets under the first line of a finding. -/
def carets (location : Location) (code : String) : String :=
  caretRow location.span.startColumn.toNat (caretWidth location code).toNat

/-- The field of a line number. -/
def numberWidth : Nat := 5

def numbered (number : Int) (code : String) : Row := ⟨padLeft numberWidth (toString number), code⟩

/-- Lines with consecutive numbers. -/
def numberedFrom (number : Int) : List String → List Row
  | [] => []
  | code :: rest => numbered number code :: numberedFrom (number + 1) rest

def excerptOf (location : Location) (snippet : Snippet) : Excerpt where
  before := numberedFrom (snippet.line - snippet.before.length) snippet.before
  line := numbered snippet.line snippet.code
  carets := carets location snippet.code
  after := numberedFrom (snippet.line + 1) snippet.after

/-- The mark of a finding that is suppressed. -/
def titleOf (title : String) (suppressed : Bool) : String :=
  if suppressed then title ++ " (suppressed)" else title

def traceOf (metadata : List (String × Json)) : Option String :=
  match metadata.lookup "identifier" with
  | some name => if name.isFilled then some name.plain else none
  | none => none

def entry (f : Finding) : Entry where
  place := f.location.display
  severity := f.severity
  ruleId := f.ruleId
  title := titleOf f.title f.suppressed
  messages := viewLines f.description
  excerpt := f.snippet.map (excerptOf f.location)
  trace := traceOf f.metadata

/-- The lines about one finding. -/
def findingLines (s : Style) (f : Finding) : List String := entryLines s (entry f)

/-! ### The whole report -/

/-- The lines about the entries of one file. -/
def groupLines (s : Style) (path : String) (entries : List Entry) : List String :=
  s.paint .cyanBold path :: entries.flatMap (entryLines s) ++ [""]

/-- Adds an item to the group of its key, or a new group at the end. -/
def addToGroup {κ α : Type} (same : κ → κ → Bool) (key : κ) (item : α) :
    List (κ × List α) → List (κ × List α)
  | [] => [(key, [item])]
  | (k, items) :: rest =>
      if same k key then (k, items ++ [item]) :: rest
      else (k, items) :: addToGroup same key item rest

/-- Findings by file, in the order in which the files first appear. -/
def groups (findings : List Finding) : List (String × List Finding) :=
  findings.foldl (fun groups f => addToGroup (· == ·) f.location.path f groups) []

/-- The lines about the findings of one file. -/
def fileLines (s : Style) (group : String × List Finding) : List String :=
  groupLines s group.1 (group.2.map entry)

def errorLines (s : Style) (errors : List String) : List String :=
  if errors.isEmpty then []
  else
    let title := if s.color then "\x1b[91m\x1b[1mErrors:" ++ resetCode else "Errors:"
    title :: errors.map ("  - " ++ ·) ++ [""]

/-- What a report says about a scan. -/
structure Summary where
  counts : Counts
  files : String
  seconds : String
  rules : List String

def summaryLines (s : Style) (m : Summary) : List String :=
  let counted (severity : Severity) : String :=
    toString (m.counts.of severity) ++ " " ++ s.severity severity
  let head :=
    if m.counts.total = 0 then s.paint .green "No invalid SQL found."
    else
      "Found " ++ toString m.counts.total ++ " issue(s): " ++
        joinWith ", " [counted .error, counted .warning, counted .info]
  let suppressed :=
    if m.counts.suppressed = 0 then [] else ["Suppressed: " ++ toString m.counts.suppressed]
  let rules :=
    if s.verbose then [s.paint .dim ("Rules: " ++ joinWith ", " m.rules)] else []
  head :: suppressed ++
    [s.paint .dim ("Scanned " ++ m.files ++ " file(s) in " ++ m.seconds ++ "s")] ++ rules

/-- The places after the point of a number of seconds. -/
def secondPlaces : Nat := 2

def summary (r : ScanResult) : Summary where
  counts := r.counts
  files := toString r.filesScanned
  seconds := r.scanTime.fixed secondPlaces
  rules := r.rules

def resultLines (s : Style) (r : ScanResult) : List String :=
  let shown := Finding.visible s.includeSuppressed r.findings
  (groups shown).flatMap (fileLines s) ++ errorLines s r.errors ++ summaryLines s (summary r)

/-- The report about a result. -/
def result (s : Style) (r : ScanResult) : String := joinWith "\n" (resultLines s r)

end QueryLint.Report.Text
