import QueryLint.Command.Line
import QueryLint.Engine.Scan
import QueryLint.Report.Format
import QueryLint.Settings.File
import QueryLint.SqlRules

/-!
# Running commands

A command reads files, prints, and may write a file. What it does is a value: the
exit status, what was printed and the files afterwards.
-/

namespace QueryLint.Command

/-- What a command finds when it is run. -/
structure Session where
  files : FileSystem
  registry : Registry
  /-- Whether the output goes to a terminal. -/
  isTerminal : Bool := false
  /-- Whether failures are passed on after they were shown. -/
  passesFailures : Bool := false
  /-- The time at which a scan ends. -/
  finishedAt : String
  /-- What reading a source has room for. -/
  limits : Document.Limits := .usual

/-- How a command ends. -/
inductive Status where
  | exited (code : Nat)
  | failed (failure : Failure)

structure Ending where
  status : Status
  output : String := ""
  errors : String := ""
  files : FileSystem

/-! ### Scan -/

namespace ScanRequest

/-- Replaces a setting if a value is given that is not empty. -/
def override (given : Option String) (setting : Datum) : Datum :=
  match given.filter (!·.isEmpty) with
  | some s => .text s
  | none => setting

/-- The patterns to exclude: those of the settings, or the engine's own, and those of
the request. -/
def excluding (r : ScanRequest) (s : Settings) : Except Failure Datum :=
  if r.exclude.isEmpty then .ok s.excludePatterns
  else do
    let known ← (s.excludePatterns.orElse (.texts Engine.defaultIgnorePatterns)).items
    return .list (known ++ r.exclude.map .text)

/-- Changes an option of the output if a value is given that is not empty. -/
def changing (name : String) (given : Option String) (o : OutputSettings) :
    Except Failure OutputSettings :=
  match given.filter (!·.isEmpty) with
  | some s => o.change name (.text s)
  | none => .ok o

/-- Settings as the request changes them. -/
def settings (r : ScanRequest) (s : Settings) : Except Failure Settings := do
  let excludePatterns ← r.excluding s
  let rules ← if r.disable.isEmpty then pure s.rules else s.rules.disable r.disable
  let output ← changing "format" r.format s.output
  let output ← changing "output_file" r.output output
  return { s with
    severityThreshold := override r.severity s.severityThreshold
    maxWorkers := (r.jobs.map Datum.int).getD s.maxWorkers
    dialect := override r.dialect s.dialect
    includePatterns := if r.include_.isEmpty then s.includePatterns else .texts r.include_
    excludePatterns
    rules
    output }

end ScanRequest

/-- The options of the output. -/
def outputOptions : OutputSettings → Except Failure OutputOptions
  | .options o => .ok o
  | .other d =>
      .error (if OutputSettings.isFixed d "format" then .noMember "builtin_function_or_method" "lower"
        else .noMember d.typeName "format")

/-- The exit code of a scan: one if there are errors that are not suppressed. -/
def exitCode (result : ScanResult) : Nat := if 0 < result.count .error then 1 else 0

/-- The greatest number of an open file. -/
def maxDescriptor : Int := 2147483647

/-- The name of the file that a setting names; none if it is empty. A number stands for
an open file, and none is open. -/
def fileOf (d : Datum) : Except Failure (Option String) :=
  if !d.isFilled then .ok none
  else
    match d with
    | .text s => .ok (some s)
    | .bytes bs => .ok (some (String.ofList (Text.decodeUtf8 bs)))
    | .int n =>
        .error (if maxDescriptor < n ∨ n < -maxDescriptor - 1 then .notAPath d.shortTypeName
          else if n < 0 then .negativeDescriptor
          else .badDescriptor)
    | d => .error (.notAPath d.shortTypeName)

namespace Session

/-- The engine that a scan uses. -/
def engine (s : Session) (settings : Settings) : Except Failure Engine := do
  Engine.ofSettings s.registry (← settings.forEngine) s.limits

/-- The report about a result. -/
def report (s : Session) (r : ScanRequest) (o : OutputOptions) (result : ScanResult) :
    Except Failure String := do
  let format ← ReportFormat.ofDatum o.format
  return format.result
    { color := s.isTerminal && o.color.isFilled && !r.noColor
      verbose := r.verbose || o.verbose.isFilled
      includeSuppressed := r.showSuppressed || o.showSuppressed.isFilled
      finishedAt := s.finishedAt }
    result

/-- Prints a report, or writes it to the file that is asked for. -/
def deliver (s : Session) (o : OutputOptions) (code : Nat) (report : String) :
    Except Failure Ending := do
  match ← fileOf o.file with
  | none => return { status := .exited code, output := report ++ "\n", files := s.files }
  | some path =>
      -- the file is opened before the report is encoded
      let opened ← s.files.write path []
      let files ← opened.write path (← FileText.encode report)
      let output :=
        if o.format.sameKey (.text "text") then "Results written to " ++ o.file.plain ++ "\n" else ""
      return { status := .exited code, output, files }

def scan (s : Session) (r : ScanRequest) : Except Failure Ending := do
  let settings ← r.settings (← Settings.load s.files r.config r.target)
  let engine ← s.engine settings
  let result ← engine.scan s.files r.target
  let o ← outputOptions settings.output
  s.deliver o (exitCode result) (← s.report r o result)

/-! ### Other commands -/

/-- Writes a settings file with the default settings. -/
def init (s : Session) (force : Bool) : Except Failure Ending := do
  let name := Settings.fileNames.headD ""
  if s.files.exists_ name && !force then
    return {
      status := .exited 1
      output := "Configuration file " ++ name ++ " already exists.\nUse --force to overwrite.\n"
      files := s.files }
  let files ← s.files.write name (← FileText.encode Settings.defaultFile)
  return { status := .exited 0, output := "Created configuration file: " ++ name ++ "\n", files }

/-- The lines about a rule. -/
def ruleLines (r : Registry) (d : Descriptor) : String :=
  "  " ++ (if r.isDefault d.ruleId then "+" else "-") ++ " " ++ Text.padRight 16 d.ruleId ++ " " ++
    Text.padRight 30 d.name ++ " [" ++ d.severity.label ++ "]\n      " ++ d.description ++ "\n"

def ruleList (r : Registry) : String :=
  let rules := (r.ruleIds.filterMap r.find?).map (·.descriptor)
  "\nAvailable Rules\n" ++ String.ofList (List.replicate 70 '=') ++ "\n" ++
    String.join (rules.map (ruleLines r)) ++
    "\nTotal: " ++ toString r.count ++ " rules\n" ++
    "+ = enabled by default, - = disabled by default\n"

def dialectList : String :=
  String.join (Dialect.names.map fun d => d ++ (if d == Dialect.default then " (default)" else "") ++ "\n")

/-! ### All commands -/

/-- The end of a command that failed. Interrupting it is no failure. -/
def failed (s : Session) : Failure → Ending
  | .interrupted => { status := .exited 130, output := "\nScan interrupted.\n", files := s.files }
  | failure =>
      { status := if s.passesFailures then .failed failure else .exited 1
        errors := "Error: " ++ failure.message ++ "\n"
        files := s.files }

def ended (s : Session) : Except Failure Ending → Ending
  | .ok e => e
  | .error failure => s.failed failure

def print (s : Session) (output : String) : Ending := { status := .exited 0, output, files := s.files }

/-- Does what is asked for. -/
def run (s : Session) : Request → Ending
  | .scan r => s.ended (s.scan r)
  | .init force => s.ended (s.init force)
  | .listRules => s.print (ruleList s.registry)
  | .listDialects => s.print dialectList
  | .print text => s.print text
  | .complain text => { status := .exited 2, errors := text, files := s.files }

end Session

end QueryLint.Command
