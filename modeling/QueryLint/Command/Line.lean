import QueryLint.About
import QueryLint.Command.Help
import QueryLint.Grammar.Dialect

/-!
# The command line

The commands of the program with their switches, and what a list of arguments asks
for.
-/

namespace QueryLint.Command

open About (programName version)

def helpSwitch : Switch where
  names := ["-h", "--help"]
  help := "show this help message and exit"
  role := .help

def versionSwitch : Switch where
  names := ["--version"]
  help := "show program's version number and exit"
  role := .version

/-- A value with a placeholder. -/
def text (placeholder : String) : Option SwitchValue := some { placeholder }

/-- One of some values. -/
def oneOf (choices : List String) : Option SwitchValue :=
  some { placeholder := braces choices, choices }

def root : CommandSpec where
  name := programName
  switches := [helpSwitch, versionSwitch]
  operand := .command "command" "Available commands"
    [("scan", "Scan code for invalid SQL"),
      ("init", "Create a configuration file"),
      ("list-rules", "List available rules"),
      ("list-dialects", "List SQL dialects the validator understands")]

def scan : CommandSpec where
  name := programName ++ " scan"
  switches :=
    [helpSwitch,
      { names := ["-c", "--config"], value := text "CONFIG", help := "Path to configuration file" },
      { names := ["-f", "--format"], value := oneOf ["text", "json", "sarif"]
        help := "Output format (default: text)" },
      { names := ["-o", "--output"], value := text "OUTPUT", help := "Output file (default: stdout)" },
      { names := ["-s", "--severity"], value := oneOf ["error", "warning", "info"]
        help := "Minimum severity to report (default: info)" },
      { names := ["-d", "--dialect"], value := text "DIALECT"
        help := "SQL dialect to validate against (default: " ++ Dialect.default ++ ")" },
      { names := ["--include"], value := text "INCLUDE"
        help := "Include patterns (can be specified multiple times)" },
      { names := ["--exclude"], value := text "EXCLUDE"
        help := "Exclude patterns (can be specified multiple times)" },
      { names := ["--disable"], value := text "RULE_ID"
        help := "Disable a rule (can be specified multiple times)" },
      { names := ["-v", "--verbose"], help := "Verbose output and debug logging" },
      { names := ["--no-color"], help := "Disable colored output" },
      { names := ["--show-suppressed"], help := "Show suppressed findings" },
      { names := ["-j", "--jobs"], value := some { placeholder := "JOBS", isWhole := true }
        help := "Number of parallel workers (default: 4)" }]
  operand := .optional "target" "Target file or directory to scan (default: current directory)"

def init : CommandSpec where
  name := programName ++ " init"
  switches :=
    [helpSwitch, { names := ["-f", "--force"], help := "Overwrite existing config file" }]
  operand := .none

/-- A command without arguments. -/
def bare (name : String) : CommandSpec where
  name := programName ++ " " ++ name
  switches := [helpSwitch]
  operand := .none

def description : String := "Find SQL command text embedded in source code and report invalid SQL."

def examples : String :=
  "Examples:
  embedsql scan ./src                    # Scan a directory
  embedsql scan app.py                   # Scan a single file
  embedsql scan . --format json          # Output as JSON
  embedsql scan . --format sarif -o out  # SARIF output to file
  embedsql scan . --dialect postgres     # Validate against another dialect
  embedsql init                          # Create config file
        "

def rootHelp : String := root.help (some description) (some examples)

/-- What a scan is asked for on the command line. -/
structure ScanRequest where
  target : String := "."
  config : Option String := none
  format : Option String := none
  output : Option String := none
  severity : Option String := none
  dialect : Option String := none
  include_ : List String := []
  exclude : List String := []
  disable : List String := []
  verbose : Bool := false
  noColor : Bool := false
  showSuppressed : Bool := false
  jobs : Option Int := none

def ScanRequest.ofUsage (u : Usage) : ScanRequest where
  target := (u.operands.bind List.head?).getD "."
  config := u.last? "--config"
  format := u.last? "--format"
  output := u.last? "--output"
  severity := u.last? "--severity"
  dialect := u.last? "--dialect"
  include_ := u.all "--include"
  exclude := u.all "--exclude"
  disable := u.all "--disable"
  verbose := u.has "--verbose"
  noColor := u.has "--no-color"
  showSuppressed := u.has "--show-suppressed"
  jobs := (u.last? "--jobs").bind wholeNumber?

/-- What the program is asked to do. -/
inductive Request where
  | scan (request : ScanRequest)
  | init (force : Bool)
  | listRules
  | listDialects
  /-- Only to print something. -/
  | print (text : String)
  /-- The arguments are wrong. -/
  | complain (text : String)

/-- The request of a command, if all arguments are understood. Arguments left over by
the program and by the command are reported together. -/
def requestOf (extras : List String) (c : CommandSpec) (args : List String)
    (request : Usage → Request) : Request :=
  match c.read args with
  | .error .help => .print (c.help none none)
  | .error .version => .print (programName ++ " " ++ version ++ "\n")
  | .error (.misuse message) => .complain (c.complaint message)
  | .ok u =>
      match extras ++ u.extras with
      | [] => request u
      | left => .complain (root.complaint ("unrecognized arguments: " ++ Text.joinWith " " left))

/-- What a list of arguments asks for. -/
def parse (args : List String) : Request :=
  match root.read args with
  | .error .help => .print rootHelp
  | .error .version => .print (programName ++ " " ++ version ++ "\n")
  | .error (.misuse message) => .complain (root.complaint message)
  | .ok u =>
      match u.operands with
      | some ("scan" :: rest) => requestOf u.extras scan rest (.scan ∘ ScanRequest.ofUsage)
      | some ("init" :: rest) => requestOf u.extras init rest fun u => .init (u.has "--force")
      | some ("list-rules" :: rest) =>
          requestOf u.extras (bare "list-rules") rest fun _ => .listRules
      | some ("list-dialects" :: rest) =>
          requestOf u.extras (bare "list-dialects") rest fun _ => .listDialects
      | _ =>
          match u.extras with
          | [] => .print rootHelp
          | left => .complain (root.complaint ("unrecognized arguments: " ++ Text.joinWith " " left))

end QueryLint.Command
