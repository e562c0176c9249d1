import QueryLint.FileTree
import QueryLint.Text.CodePoint

/-!
# Which files are scanned

A folder is walked from the top: first its own files in order of their names, then
its folders, each walked in turn. Ignored folders are not entered.
-/

namespace QueryLint.Discovery

/-- The tests that decide about folders and files, by path and by size. -/
structure Sieve where
  ignored : String → Bool
  included : String → Bool
  /-- The size of the file at a path can be looked up and is small enough. -/
  fits : String → Nat → Bool
  known : String → Bool

/-- Something the walk comes across. -/
inductive Stop where
  | folder (path : String)
  | file (path : String) (size : Nat)
deriving DecidableEq

/-- Named things in order of their names. -/
def byName {α : Type} (items : List (String × α)) : List (String × α) :=
  items.mergeSort fun a b => Text.comesNoLater a.1 b.1

def isFolder (e : Entry) : Bool := !e.isFile

/-- The files of a folder, in order. -/
def fileStops (path : String) (entries : List (String × Entry)) : List Stop :=
  (byName entries).filterMap fun (name, e) =>
    e.size?.map fun size => .file (Path.join path name) size

/-- The folders of a folder, as far as they are looked at here. -/
def folderStops (path : String) (entries : List (String × Entry)) : List Stop :=
  (entries.filter fun x => isFolder x.2).map fun (name, _) => .folder (Path.join path name)

mutual

/-- All stops of a walk, in order. -/
def walk (sieve : Sieve) (path : String) : Entry → List Stop
  | .file bytes => [.file path bytes.length]
  | .locked size => [.file path size]
  | .folder entries =>
      folderStops path entries ++ fileStops path entries ++
        (byName (walkFolders sieve path entries)).flatMap Prod.snd

/-- The walks of the folders that are not ignored, by name. -/
def walkFolders (sieve : Sieve) (path : String) :
    List (String × Entry) → List (String × List Stop)
  | [] => []
  | (name, entry) :: rest =>
      if isFolder entry && !sieve.ignored (Path.join path name) then
        (name, walk sieve (Path.join path name) entry) :: walkFolders sieve path rest
      else walkFolders sieve path rest

end

/-- The path of a stop that is to be scanned. -/
def accept? (sieve : Sieve) : Stop → Option String
  | .folder _ => none
  | .file path size =>
      if !sieve.ignored path && sieve.included path && sieve.fits path size &&
          sieve.known path then
        some path
      else none

/-- The files to scan below a folder, in order. -/
def files (sieve : Sieve) (path : String) (e : Entry) : List String :=
  (walk sieve path e).filterMap (accept? sieve)

end QueryLint.Discovery
