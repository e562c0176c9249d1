import QueryLint.Command.Run
import QueryLint.Grammar.WordTable
import Std.Time.Format

/-!
# The program

Reads the files that a request may look at into a tree, runs the request on it, and
puts out what it printed and wrote.
-/

namespace QueryLint.Main

/-- Reads a file or folder. What cannot be looked up is left out. -/
partial def readEntry (e : IO.FS.DirEntry) : IO (Option Entry) := do
  let path := e.path
  if ← path.isDir then
    let inside ← try path.readDir catch _ => pure #[]
    let mut entries := []
    for inner in inside do
      if let some entry ← readEntry inner then
        entries := (inner.fileName, entry) :: entries
    return some (.folder entries)
  else
    try return some (.file (← IO.FS.readBinFile path).toList)
    catch _ =>
      try return some (.locked (← path.metadata).byteSize.toNat)
      catch _ => return none

/-- Adds what stands at a place to a tree. -/
def addPlace (root : Entry) (names : List String) : IO Entry := do
  let entry ← readEntry { root := Path.absolute names.dropLast, fileName := names.getLastD "" }
  return (entry.map fun e => e.put names root).getD root

/-- The places that a request may look at, besides the current folder. -/
def placesOf (current : List String) : Command.Request → List (List String)
  | .scan r =>
      let target := Path.resolve current r.target
      let settings := (Settings.upward target).flatMap fun folder =>
        Settings.fileNames.map fun name => folder ++ [name]
      target :: settings ++ (r.config.map (Path.resolve current)).toList
  | _ => []

/-- The tree that a request may look at. -/
def readFiles (request : Command.Request) : IO FileSystem := do
  let current := Path.resolve [] (← IO.FS.realPath ".").toString
  let root ← (current :: placesOf current request).foldlM addPlace (.folder [])
  return ⟨root, current⟩

/-- The current time, to the second. -/
def now : IO String := do
  let time := Std.Time.DateTime.ofTimestamp (← Std.Time.Timestamp.now) Std.Time.TimeZone.ZoneRules.UTC
  return time.format "uuuu-MM-dd'T'HH:mm:ss'Z'"

end QueryLint.Main

open QueryLint in
def main (args : List String) : IO UInt32 := do
  let request := Command.parse args
  let files ← Main.readFiles request
  let stdout ← IO.getStdout
  let session : Command.Session :=
    { files
      registry := SqlRules.registry (.configured WordTable.misspellings.grammar)
      isTerminal := ← stdout.isTty
      passesFailures := ((← IO.getEnv "DEBUG").filter (!·.isEmpty)).isSome
      finishedAt := ← Main.now }
  let ending := session.run request
  for (names, bytes) in files.changes ending.files do
    IO.FS.writeBinFile (Path.absolute names) ⟨bytes.toArray⟩
  stdout.putStr ending.output
  (← IO.getStderr).putStr ending.errors
  match ending.status with
  | .exited code => return code.toUInt32
  | .failed _ => return 1
