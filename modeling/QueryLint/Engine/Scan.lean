import QueryLint.Engine.Basic
import QueryLint.Engine.Discovery
import QueryLint.FileText
import QueryLint.Finding.Result

/-!
# Scanning files

A scan finds the files below its target, scans each of them by itself and puts the
findings together in order.
-/

namespace QueryLint.Engine

/-! ### Finding the files -/

/-- The answer of a test, taken as no when the test fails. -/
def decided (r : Except Failure Bool) : Bool :=
  match r with
  | .ok b => b
  | .error _ => false

/-- The tests of an engine below a target. -/
def sieve (e : Engine) (current : List String) (target : String) : Discovery.Sieve where
  ignored path := decided (e.ignores current path target)
  included path := decided (e.includes current path target)
  fits path size := !Path.isOverlong path && !decided (e.maxFileSize.isExceededBy size)
  known path := (languageOf? path).isSome

/-- Fails if one of the tests made at a stop fails. Tests are made only as far as
they are needed. -/
def checkStop (e : Engine) (current : List String) (target : String) :
    Discovery.Stop → Except Failure Unit
  | .folder path => do
      let _ ← e.ignores current path target
  | .file path size => do
      if ← e.ignores current path target then return
      if !(← e.includes current path target) then return
      if Path.isOverlong path then return
      let _ ← e.maxFileSize.isExceededBy size

/-- The files to scan for a target, in order. A target that is a file is taken as it
is. -/
def discover (e : Engine) (fs : FileSystem) (target : String) : Except Failure (List String) :=
  let path := Path.plain target
  match fs.find? path with
  | none => .ok []
  | some (.folder entries) => do
      let sieve := e.sieve fs.current target
      (Discovery.walk sieve path (.folder entries)).forM (e.checkStop fs.current target)
      return Discovery.files sieve path (.folder entries)
  | some _ => .ok [path]

/-! ### Scanning -/

def contentOf (fs : FileSystem) (path : String) : Except Failure String := do
  return FileText.lenient (← fs.readBytes path)

/-- Scans one file. A file in no known language has no findings. -/
def scanFile (e : Engine) (fs : FileSystem) (path : String) : Outcome :=
  match languageOf? path with
  | none => {}
  | some language =>
      match contentOf fs path with
      | .error .nullInPath => { stopped := some .nullInPath }
      | .error (.unencodable code first last) => { stopped := some (.unencodable code first last) }
      | .error failure => { errors := ["Error reading " ++ path ++ ": " ++ failure.message] }
      | .ok content => e.scanContent language.name path content

/-- The time a scan takes is not measured here. -/
def noTime : Binary64 := .finite false 0 0

/-- The result of scanning the given files. -/
def resultOf (e : Engine) (paths : List String) (outcomes : List Outcome) : ScanResult where
  findings := Finding.sort (outcomes.flatMap (·.findings))
  filesScanned := paths.length
  scanTime := noTime
  languages := Registry.sortIds ((paths.filterMap languageOf?).map Language.name)
  rules := (e.rules.map (·.descriptor.ruleId)).mergeSort Text.comesNoLater
  errors := outcomes.flatMap (·.errors)

/-- Several files are scanned side by side if there are workers for it. -/
def checkWorkers (e : Engine) (paths : List String) : Except Failure Unit :=
  if paths.length ≤ 1 then .ok ()
  else do
    let _ ← e.maxWorkers.exceeds 1

/-- The result of a scan, from what scanning each file led to. A file whose scan was stopped
stops all. -/
def conclude (e : Engine) (paths : List String) (outcomes : List Outcome) :
    Except Failure ScanResult :=
  match outcomes.findSome? (·.stopped) with
  | some failure => .error failure
  | none => .ok (e.resultOf paths outcomes)

/-- Scans a file or a folder. -/
def scan (e : Engine) (fs : FileSystem) (target : String) : Except Failure ScanResult := do
  if !fs.exists_ target then throw (.targetMissing target)
  let paths ← e.discover fs target
  e.checkWorkers paths
  e.conclude paths (paths.map (e.scanFile fs))

end QueryLint.Engine
