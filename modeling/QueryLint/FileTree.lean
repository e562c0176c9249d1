import QueryLint.Path
import QueryLint.Text.Utf8

/-!
# Trees of files

A folder holds files and folders by name. There are no links, so a tree is all
there is to it. Some files may be looked up but not opened. A folder that may not be
looked into is as good as an empty one, and the tree shows it so.
-/

namespace QueryLint

inductive Entry where
  | file (bytes : List UInt8)
  | folder (entries : List (String × Entry))
  /-- A file of the given size that may not be opened. -/
  | locked (size : Nat)
deriving Inhabited

namespace Entry

/-- The size of a file. -/
def size? : Entry → Option Nat
  | file bytes => some bytes.length
  | locked size => some size
  | folder _ => none

def isFile (e : Entry) : Bool := e.size?.isSome

/-- The entry at the end of a way through folders. -/
def find? : Entry → List String → Option Entry
  | e, [] => some e
  | folder entries, name :: rest =>
      match entries.lookup name with
      | some e => find? e rest
      | none => none
  | _, _ :: _ => none

/-- Sets a name in a folder. -/
def setEntry (name : String) (e : Entry) : List (String × Entry) → List (String × Entry)
  | [] => [(name, e)]
  | (n, old) :: rest => if n == name then (n, e) :: rest else (n, old) :: setEntry name e rest

/-- Puts an entry at the end of a way, making the folders on the way. A file in the
way is left alone. -/
def put (new : Entry) : List String → Entry → Entry
  | [], _ => new
  | name :: rest, folder entries =>
      folder (setEntry name (put new rest ((entries.lookup name).getD (folder []))) entries)
  | _ :: _, e => e

mutual

/-- All files of a tree that may be opened, with the names on the way to each. -/
def files (path : List String) : Entry → List (List String × List UInt8)
  | file bytes => [(path, bytes)]
  | folder entries => filesIn path entries
  | locked _ => []

def filesIn (path : List String) : List (String × Entry) → List (List String × List UInt8)
  | [] => []
  | (name, e) :: rest => files (path ++ [name]) e ++ filesIn path rest

end

/-- Whether an entry is the file of these bytes. -/
def isFileOf (bytes : List UInt8) : Entry → Bool
  | file b => b == bytes
  | _ => false

end Entry

/-- A tree of files as seen from a current folder. -/
structure FileSystem where
  root : Entry
  /-- The names from the root to the current folder. -/
  current : List String
deriving Inhabited

namespace FileSystem

/-- The way that the parts of a path take. Every part must start from a folder; the
names so far are held in reverse. -/
def follow (root : Entry) : List String → List String → Option (List String)
  | done, [] => some done.reverse
  | done, part :: rest =>
      match root.find? done.reverse with
      | some (.folder _) => follow root (Path.step done part) rest
      | _ => none

/-- The names from the root to where a path leads, if it leads somewhere. -/
def way? (fs : FileSystem) (path : String) : Option (List String) :=
  if path.isEmpty then none
  else follow fs.root (if Path.isAbsolute path then [] else fs.current.reverse) (Path.parts path)

/-- The entry a path leads to. -/
def find? (fs : FileSystem) (path : String) : Option Entry := (fs.way? path).bind fs.root.find?

def isFile (fs : FileSystem) (path : String) : Bool := ((fs.find? path).map Entry.isFile).getD false

/-- Whether a name that is too long is looked up on the way that the parts of a path take.
The names so far are held in reverse. -/
def meetsLongName (root : Entry) : List String → List String → Bool
  | _, [] => false
  | done, part :: rest =>
      match root.find? done.reverse with
      | some (.folder _) =>
          Path.maxNameSize < Path.byteSize part || meetsLongName root (Path.step done part) rest
      | _ => false

/-- Whether a path cannot be looked up because it is too long. -/
def isTooLong (fs : FileSystem) (path : String) : Bool :=
  Path.isOverlong path ||
    meetsLongName fs.root (if Path.isAbsolute path then [] else fs.current.reverse)
      (Path.parts path)

/-- Whether looking up a path finds something. -/
def exists_ (fs : FileSystem) (path : String) : Bool :=
  (fs.find? path).isSome && !fs.isTooLong path

/-- Fails if a path cannot be looked up. -/
def checkPath (fs : FileSystem) (path : String) : Except Failure Unit :=
  match Path.unencodable? path with
  | some failure => .error failure
  | none =>
      if Path.hasNull path then .error .nullInPath
      else if fs.isTooLong path then .error (.nameTooLong path)
      else .ok ()

/-- Whether the way to a place goes through a file. -/
def passesFile : Entry → List String → Bool
  | .folder _, [] => false
  | .folder entries, name :: rest =>
      match entries.lookup name with
      | some e => passesFile e rest
      | none => false
  | _, rest => !rest.isEmpty

/-- The failure to open what is not there. -/
def missing (fs : FileSystem) (path : String) : Failure :=
  if passesFile fs.root (Path.resolve fs.current path ++
      (if path.toList.getLast? = some '/' then [""] else [])) then .notAFolder path
  else .noSuchFile path

/-- The bytes of a file. -/
def readBytes (fs : FileSystem) (path : String) : Except Failure (List UInt8) := do
  fs.checkPath path
  match fs.find? path with
  | some (.file bytes) => return bytes
  | some (.folder _) => throw (.isFolder path)
  | some (.locked _) => throw (.noPermission path)
  | none => throw (fs.missing path)

/-- Writes a file into a folder that exists. -/
def write (fs : FileSystem) (path : String) (bytes : List UInt8) : Except Failure FileSystem := do
  fs.checkPath path
  let names := Path.resolve fs.current path
  match fs.find? path with
  | some (.folder _) => throw (.isFolder path)
  | some (.locked _) => throw (.noPermission path)
  | some (.file _) => return { fs with root := Entry.put (.file bytes) names fs.root }
  | none =>
      match fs.root.find? names.dropLast with
      | some (.folder _) =>
          if path.isEmpty then throw (.noSuchFile path)
          else if path.toList.getLast? = some '/' then throw (.isFolder path)
          else return { fs with root := Entry.put (.file bytes) names fs.root }
      | _ => throw (fs.missing path)

/-- The files that are new or differ from what they were. -/
def changes (before after : FileSystem) : List (List String × List UInt8) :=
  (after.root.files []).filter fun (path, bytes) =>
    !((before.root.find? path).any (Entry.isFileOf bytes))

end FileSystem

end QueryLint
