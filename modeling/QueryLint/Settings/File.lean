import QueryLint.FileText
import QueryLint.Json.Reader
import QueryLint.Settings.Basic
import QueryLint.Yaml.Value
import QueryLint.Yaml.Writer

/-!
# Settings files

Settings stand in a file of one of a few names, in the folder where the work starts
or in one above it. A file is in YAML unless its name ends in `.json`.
-/

namespace QueryLint

/-- The failure of a settings file that is not well-formed, or whose values are not
what their tags say. -/
def Failure.ofYaml (path : String) : Yaml.Fault → Failure
  | .malformed => .configInvalid path
  | .tooDeep => .tooDeep .composing
  | .noCharacter => .noCharacter
  | .overflow => .overflow
  | .number fault => .number fault
  | .noDigits => .noDigits
  | .notATruth text => .missingKey text
  | .notATime => .noMember "NoneType" "groupdict"
  | .calendar fault => .calendar fault
  | .notText => .notText "list"

def Failure.ofJson (path : String) : Json.ReadFault → Failure
  | .malformed => .configInvalid path
  | .tooManyDigits count => .number (.tooManyDigits count)
  | .tooDeep isObject => .tooDeep (if isObject then .readingObject else .readingList)

namespace Settings

/-- The names of settings files, the earlier ones first. -/
def fileNames : List String :=
  [".embedsql.yaml", ".embedsql.yml", ".embedsql.json", "embedsql.yaml", "embedsql.yml",
    "embedsql.json"]

/-- Values in a settings file may lie this deep in one another. -/
def maxDepth : Nat := 990

/-- The value of a settings file. An empty YAML file is an empty mapping. -/
def contentOf (path text : String) : Except Failure Datum :=
  if Path.suffix path == ".json" then
    match Json.readWithin maxDepth text.toList with
    | .ok j => .ok (.ofJson j)
    | .error fault => .error (.ofJson path fault)
  else
    match Yaml.read text.toList with
    | .ok d => .ok (d.orElse (.mapping []))
    | .error fault => .error (.ofYaml path fault)

/-- The mapping in a settings file. -/
def loadMapping (fs : FileSystem) (path : String) : Except Failure Datum := do
  let path := Path.plain path
  if !Path.hasNull path && (Path.unencodable? path).isNone && fs.isTooLong path then
    throw (.nameTooLong path)
  if !fs.exists_ path then throw (.configMissing path)
  let text ← FileText.strict (← fs.readBytes path)
  match ← contentOf path text with
  | .mapping entries => return .mapping entries
  | _ => throw (.configNotMapping path)

/-- The folders from one up to the root. -/
def upward : List String → List (List String)
  | [] => [[]]
  | name :: rest => (upward rest).map (name :: ·) ++ [[]]

/-- The names on the way to the settings file in a folder. -/
def fileIn? (root : Entry) (folder : List String) : Option (List String) :=
  (fileNames.find? fun name => (root.find? (folder ++ [name])).isSome).map fun name => folder ++ [name]

/-- The names on the way to the settings file in a folder or, if there is none, in the
nearest one above it that has one. The names of the folder are held in reverse. -/
def searchUp (root : Entry) : List String → Option (List String)
  | [] => fileIn? root []
  | name :: above =>
      match fileIn? root (name :: above).reverse with
      | some way => some way
      | none => searchUp root above

/-- The folder in which a search starts: that of the start, if it is a file. -/
def startFolder (root : Entry) (start : List String) : List String :=
  match root.find? start with
  | some (.file _) => start.dropLast
  | _ => start

/-- The nearest settings file, in the folder of the start or above. -/
def find? (fs : FileSystem) (start : String) : Option String :=
  (searchUp fs.root (startFolder fs.root (Path.resolve fs.current start)).reverse).map Path.absolute

/-- The path that a search tries first. No other one that it tries is longer. -/
def firstTried (fs : FileSystem) (start : String) : String :=
  Path.absolute (startFolder fs.root (Path.resolve fs.current start) ++ [fileNames.headD ""])

/-- The nearest settings file, if the start and the paths that are tried can be looked up. -/
def locate (fs : FileSystem) (start : String) : Except Failure (Option String) := do
  match Path.unencodable? start with
  | some failure => throw failure
  | none => if Path.hasNull start then throw .nullInPath
  fs.checkPath (Path.absolute (Path.resolve fs.current start))
  fs.checkPath (firstTried fs start)
  return find? fs start

/-- The settings in a file; in the nearest one if none is named. -/
def load (fs : FileSystem) (path : Option String) (start : String) : Except Failure Settings := do
  let path ←
    match path with
    | some path => pure (some path)
    | none => locate fs start
  match path with
  | some path => ofDatum (← loadMapping fs path)
  | none => return {}

/-! ### The default file -/

/-- The mapping that a new settings file holds. -/
def defaultMapping : List (String × Json) :=
  [("scan", .object
      [("exclude", .strings [".git/**", "__pycache__/**", ".venv/**", "build/**", "dist/**"]),
        ("max_file_size", .int Engine.defaultFileSize),
        ("max_workers", .int Engine.defaultWorkers)]),
    ("sql", .object
      [("dialect", .string Dialect.default),
        ("markers", .object
          [("constructors", .strings Markers.default.constructors),
            ("properties", .strings Markers.default.properties)])]),
    ("rules", .object [("enabled", .array []), ("disabled", .array [])]),
    ("severity_threshold", .string "info"),
    ("output", .object
      [("format", .string "text"), ("verbose", .bool false), ("color", .bool true)])]

def defaultFile : String := Yaml.writeMapping defaultMapping

end Settings

/-- An engine with the settings of a file, if one is named, and some more. -/
def Engine.ofFile (registry : Registry) (fs : FileSystem) (path : Option String)
    (more : List (String × Datum)) : Except Failure Engine := do
  let settings ←
    match path.filter (!·.isEmpty) with
    | some path => do (← Settings.load fs (some path) ".").forEngine
    | none => pure (.mapping [])
  Engine.ofSettings registry
    (.ofEntries (← (Datum.ofEntries more).addEntries (← settings.toEntries)))

end QueryLint
