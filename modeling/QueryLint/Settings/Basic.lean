import QueryLint.Candidate
import QueryLint.Datum.Shape
import QueryLint.Engine.Basic
import QueryLint.Grammar.Dialect

/-!
# Settings

Settings are made from a mapping with the sections `scan`, `sql`, `rules` and
`output`. Single settings are kept as they are and fail, if they are of the wrong
shape, where they are used.
-/

namespace QueryLint

/-- Which rules are asked for. A section that is no mapping is kept as it is. -/
inductive RuleSettings where
  | lists (enabled disabled : List Datum)
  | other (value : Datum)
deriving Inhabited

structure OutputOptions where
  format : Datum := .text "text"
  file : Datum := .null
  verbose : Datum := .bool false
  showSuppressed : Datum := .bool false
  color : Datum := .bool true
deriving Inhabited

/-- How results are put out. A section that is no mapping is kept as it is. -/
inductive OutputSettings where
  | options (o : OutputOptions)
  | other (value : Datum)
deriving Inhabited

structure Settings where
  target : Datum := .text "."
  excludePatterns : Datum := .null
  includePatterns : Datum := .null
  maxFileSize : Datum := .int Engine.defaultFileSize
  maxWorkers : Datum := .int Engine.defaultWorkers
  dialect : Datum := .text Dialect.default
  constructorMarkers : Datum := .texts Markers.default.constructors
  propertyMarkers : Datum := .texts Markers.default.properties
  rules : RuleSettings := .lists [] []
  severityThreshold : Datum := .text "info"
  output : OutputSettings := .options {}
deriving Inhabited

/-! ### Rules and output -/

namespace RuleSettings

def toDatum : RuleSettings → Datum
  | lists enabled disabled => .ofEntries [("enabled", .list enabled), ("disabled", .list disabled)]
  | other value => value

def ofDatum (d : Datum) : Except Failure RuleSettings :=
  match d with
  | .mapping _ => do
      let enabled ← (← d.member "enabled").orElse (.list []) |>.items
      let disabled ← (← d.member "disabled").orElse (.list []) |>.items
      return lists enabled disabled
  | d => .ok (other d)

/-- The two lists, as an engine takes them. -/
def forEngine : RuleSettings → Except Failure Datum
  | lists enabled disabled => .ok (lists enabled disabled).toDatum
  | other value => .error (.noMember value.typeName "enabled")

/-- Disables some rules more. -/
def disable (ids : List String) : RuleSettings → Except Failure RuleSettings
  | lists enabled disabled => .ok (lists enabled (disabled ++ ids.map .text))
  | other value => .error (.noMember value.typeName "disabled")

end RuleSettings

namespace OutputOptions

/-- Sets the option of a name. -/
def set (o : OutputOptions) (name : String) (value : Datum) : Except Failure OutputOptions :=
  match name with
  | "format" => .ok { o with format := value }
  | "output_file" => .ok { o with file := value }
  | "verbose" => .ok { o with verbose := value }
  | "show_suppressed" => .ok { o with showSuppressed := value }
  | "color" => .ok { o with color := value }
  | _ => .error (.unexpectedOption "OutputConfig" name)

def entries (o : OutputOptions) : List (String × Datum) :=
  [("format", o.format), ("output_file", o.file), ("verbose", o.verbose),
    ("show_suppressed", o.showSuppressed), ("color", o.color)]

/-- The options that a list of entries sets, one after the other. -/
def ofEntries : OutputOptions → List (String × Datum) → Except Failure OutputOptions
  | o, [] => .ok o
  | o, (name, value) :: rest => do (← o.set name value).ofEntries rest

end OutputOptions

namespace OutputSettings

def toDatum : OutputSettings → Datum
  | options o => .ofEntries o.entries
  | other value => value

/-- Whether all keys of a mapping are texts. -/
def hasNames (entries : List (Datum × Datum)) : Bool := (Datum.textEntries entries).length == entries.length

def ofDatum (d : Datum) : Except Failure OutputSettings :=
  match d with
  | .mapping entries => do
      if !hasNames entries then throw .optionNotText
      return options (← OutputOptions.ofEntries {} (Datum.textEntries entries))
  | d => .ok (other d)

/-- Whether values of a type have a member of this name that cannot be changed. -/
def isFixed (value : Datum) (name : String) : Bool :=
  match value with
  | .text _ => name == "format"
  | _ => false

/-- Changes the option of a name. -/
def change (name : String) (value : Datum) : OutputSettings → Except Failure OutputSettings
  | options o => do return options (← o.set name value)
  | other d =>
      .error (if isFixed d name then .fixedMember d.typeName name else .noMember d.typeName name)

end OutputSettings

namespace Settings

/-! ### As a mapping -/

def entries (s : Settings) : List (String × Datum) :=
  [("target", s.target),
    ("exclude_patterns", s.excludePatterns),
    ("include_patterns", s.includePatterns),
    ("max_file_size", s.maxFileSize),
    ("max_workers", s.maxWorkers),
    ("dialect", s.dialect),
    ("constructor_markers", s.constructorMarkers),
    ("property_markers", s.propertyMarkers),
    ("rules", s.rules.toDatum),
    ("severity_threshold", s.severityThreshold),
    ("output", s.output.toDatum)]

def toDatum (s : Settings) : Datum := .ofEntries s.entries

/-- Takes a key out of a mapping. -/
def takeOut (key : String) (entries : List (String × Datum)) : Datum × List (String × Datum) :=
  ((entries.lookup key).getD .null, entries.filter fun (k, _) => k != key)

/-- A list of markers replaces the one at a key, if there are any. -/
def setMarkers (key : String) (markers : Datum) (entries : List (String × Datum)) :
    Except Failure (List (String × Datum)) :=
  if markers.isFilled then do return Json.setKey key (.list (← markers.items)) entries
  else .ok entries

/-- Lifts the sections `scan` and `sql` to the top. -/
def flatten (entries : List (String × Datum)) : Except Failure (List (String × Datum)) := do
  let (scan, entries) := takeOut "scan" entries
  let entries ← (scan.orElse (.mapping [])).addEntries entries
  let (sql, entries) := takeOut "sql" entries
  let sql := sql.orElse (.mapping [])
  let entries ←
    if ← sql.contains "dialect" then pure (Json.setKey "dialect" (← sql.at_ "dialect") entries)
    else pure entries
  let markers := (← sql.member "markers").orElse (.mapping [])
  let entries ← setMarkers "constructor_markers" (← markers.member "constructors") entries
  setMarkers "property_markers" (← markers.member "properties") entries

/-- The settings of a flat mapping. Unknown keys are left out; `exclude` and `include`
win over the long names of the same settings. -/
def ofFlat (entries : List (String × Datum)) : Except Failure Settings := do
  let get (key : String) (default : Datum) : Datum := (entries.lookup key).getD default
  let d : Settings := {}
  let rules ←
    match entries.lookup "rules" with
    | some section_ => RuleSettings.ofDatum section_
    | none => pure d.rules
  let output ←
    match entries.lookup "output" with
    | some section_ => OutputSettings.ofDatum section_
    | none => pure d.output
  return {
    target := get "target" d.target
    excludePatterns := get "exclude" (get "exclude_patterns" d.excludePatterns)
    includePatterns := get "include" (get "include_patterns" d.includePatterns)
    maxFileSize := get "max_file_size" d.maxFileSize
    maxWorkers := get "max_workers" d.maxWorkers
    dialect := get "dialect" d.dialect
    constructorMarkers := get "constructor_markers" d.constructorMarkers
    propertyMarkers := get "property_markers" d.propertyMarkers
    rules
    severityThreshold := get "severity_threshold" d.severityThreshold
    output }

/-- The settings of a mapping with sections. -/
def ofDatum (d : Datum) : Except Failure Settings := do ofFlat (← flatten (← d.toEntries))

/-! ### For an engine -/

/-- The settings as an engine takes them. Without patterns of what to exclude the
engine has its own. -/
def forEngine (s : Settings) : Except Failure Datum := do
  let constructors ← s.constructorMarkers.items
  let properties ← s.propertyMarkers.items
  let rules ← s.rules.forEngine
  let entries : List (String × Datum) :=
    [("max_file_size", s.maxFileSize),
      ("max_workers", s.maxWorkers),
      ("include_patterns", s.includePatterns),
      ("severity_threshold", s.severityThreshold),
      ("dialect", s.dialect),
      ("markers", .ofEntries [("constructors", .list constructors), ("properties", .list properties)]),
      ("rules", rules)]
  match s.excludePatterns with
  | .null => return .ofEntries entries
  | patterns => return .ofEntries (entries ++ [("ignore_patterns", .list (← patterns.items))])

end Settings

end QueryLint
