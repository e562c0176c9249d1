import QueryLint.Engine.Patterns
import QueryLint.Engine.Run
import QueryLint.Registry

/-!
# The engine

An engine is made from settings: its rules, the least severity that it reports, and
which files it looks at. Settings about files are kept as they are and fail, if they
are of the wrong shape, when files are looked at.
-/

namespace QueryLint

structure Engine where
  maxFileSize : Datum
  maxWorkers : Datum
  ignorePatterns : Datum
  includePatterns : Datum
  threshold : Severity
  rules : List Rule
  /-- What reading a source has room for. -/
  limits : Document.Limits := .usual

namespace Engine

/-- Ten megabytes. -/
def defaultFileSize : Int := 10 * 1024 * 1024

def defaultWorkers : Int := 4

def defaultIgnorePatterns : List String :=
  [".git", ".git/**", ".hg/**", "__pycache__", "__pycache__/**", ".tox/**", ".nox/**", "venv/**",
    ".venv/**", "env/**", "build/**", "dist/**", "*.egg-info/**", ".mypy_cache/**",
    ".pytest_cache/**"]

/-- The severity that a setting names. -/
def severityOf (d : Datum) : Except Failure Severity :=
  match d with
  | .text s =>
      match Severity.ofLabel? s with
      | some severity => .ok severity
      | none => .error (.notAMember "Severity" d)
  | d => .error (.notAMember "Severity" d)

/-- The engine for given settings. -/
def ofSettings (registry : Registry) (settings : Datum) (limits : Document.Limits := .usual) :
    Except Failure Engine := do
  let entries ← (settings.orElse (.mapping [])).toEntries
  let settings := Datum.ofEntries entries
  let maxFileSize := (entries.lookup "max_file_size").getD (.int defaultFileSize)
  let maxWorkers := (entries.lookup "max_workers").getD (.int defaultWorkers)
  let ignorePatterns := ((entries.lookup "ignore_patterns").getD .null).orElse
    (.texts defaultIgnorePatterns)
  let includePatterns := (entries.lookup "include_patterns").getD .null
  let threshold ← severityOf ((entries.lookup "severity_threshold").getD (.text "info"))
  let selection := ((entries.lookup "rules").getD .null).orElse (.mapping [])
  let enabled ← selection.memberOr "enabled" (.list [])
  let disabled ← selection.memberOr "disabled" (.list [])
  let rules ← registry.create settings (← Selection.ofDatum enabled) (← Selection.ofDatum disabled)
  return { maxFileSize, maxWorkers, ignorePatterns, includePatterns, threshold, rules, limits }

/-- The language of a file, by its extension. -/
def languageOf? (path : String) : Option Language := Language.ofExtension? (Path.extension path)

/-- Whether a path is ignored below a base folder. -/
def ignores (e : Engine) (current : List String) (path base : String) : Except Failure Bool := do
  let rel ← Path.relative current path base
  (Patterns.ofDatum e.ignorePatterns).ask rel (Path.baseName path)

/-- Whether a path is among those included below a base folder. -/
def includes (e : Engine) (current : List String) (path base : String) : Except Failure Bool :=
  if !e.includePatterns.isFilled then .ok true
  else do
    let rel ← Path.relative current path base
    (Patterns.ofDatum e.includePatterns).ask rel (Path.baseName path)

def scanContent (e : Engine) (language path content : String) : Outcome :=
  scanText e.threshold e.rules language path content e.limits

end Engine

end QueryLint
