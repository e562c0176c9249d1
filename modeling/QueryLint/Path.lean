import QueryLint.Failure
import QueryLint.Text.Lines

/-!
# Paths

Paths are texts with slashes. A path that starts with a slash is absolute; others
are read from the current folder. The parts `.` and `..` stand for the folder itself
and the one above.
-/

namespace QueryLint.Path

/-- The parts of a path between its slashes. -/
def parts (path : String) : List String := (Text.cutAt '/' path.toList).map String.ofList

def isAbsolute (path : String) : Bool := path.toList.head? = some '/'

def join (folder name : String) : String :=
  if isAbsolute name then name
  else if folder.isEmpty || folder.toList.getLast? = some '/' then folder ++ name
  else folder ++ "/" ++ name

/-- The part after the last slash. -/
def baseName (path : String) : String := (parts path).getLastD ""

/-- The extension of the last part of a path, with its dot. Leading dots do not
count. -/
def extension (path : String) : String :=
  let name := (baseName path).toList
  let body := name.dropWhile (· == '.')
  if body.contains '.' then
    String.ofList ('.' :: (body.reverse.takeWhile (· != '.')).reverse)
  else ""

/-- Nulls cannot stand in the name of a file. -/
def hasNull (path : String) : Bool := path.toList.contains '\x00'

/-- Halves of characters that stand for single bytes. -/
def isByteHalf (c : Char) : Bool :=
  Text.isHalf c && 0xDC80 ≤ Text.codePoint c && Text.codePoint c ≤ 0xDCFF

/-- The failure of a path with halves of characters that stand for nothing, if it is
one. -/
def unencodable? (path : String) : Option Failure :=
  Failure.unencodable? (fun c => Text.isHalf c && !isByteHalf c) path.toList

/-- The number of bytes in a path. A half that stands for a byte is that byte. -/
def byteSize (path : String) : Nat :=
  path.toList.foldl (fun size c => size + if isByteHalf c then 1 else c.utf8Size) 0

/-- The greatest number of bytes in a name. -/
def maxNameSize : Nat := 255

/-- The greatest number of bytes in a path. -/
def maxPathSize : Nat := 4095

/-- Whether a path as a whole is too long to be looked up. -/
def isOverlong (path : String) : Bool := maxPathSize < byteSize path

/-- One step of a walk from the root; the steps so far are held in reverse. -/
def step (done : List String) (part : String) : List String :=
  if part == "" || part == "." then done
  else if part == ".." then done.drop 1
  else part :: done

/-- The names from the root to where a path leads from a folder. -/
def resolve (current : List String) (path : String) : List String :=
  ((parts path).foldl step (if isAbsolute path then [] else current.reverse)).reverse

/-- What two lists start with in common is left out of both. -/
def dropCommon : List String → List String → List String × List String
  | a :: as, b :: bs => if a == b then dropCommon as bs else (a :: as, b :: bs)
  | as, bs => (as, bs)

/-- The way from one folder to another place. -/
def between (base target : List String) : String :=
  let (up, down) := dropCommon base target
  let steps := up.map (fun _ => "..") ++ down
  if steps.isEmpty then "." else Text.joinWith "/" steps

/-- The path relative to a base; both are read from the current folder. -/
def relative (current : List String) (path base : String) : Except Failure String :=
  if path.isEmpty then .error .emptyPath
  else .ok (between (resolve current base) (resolve current path))

/-- An absolute path, from the names on the way to it. -/
def absolute (names : List String) : String := "/" ++ Text.joinWith "/" names

/-- A path in its plain form: no empty parts and no single dots. -/
def plain (path : String) : String :=
  let names := (parts path).filter fun p => p != "" && p != "."
  let slashes := path.toList.takeWhile (· == '/')
  let root := if slashes.length = 2 then "//" else if slashes.isEmpty then "" else "/"
  let text := root ++ Text.joinWith "/" names
  if text.isEmpty then "." else text

/-- The extension of a path in plain form. A name that starts with its only dot, or
ends in a dot, has none. -/
def suffix (path : String) : String :=
  let name := (((parts path).filter fun p => p != "" && p != ".").getLastD "").toList
  let rest := (name.reverse.dropWhile (· != '.')).reverse
  let ending := (name.reverse.takeWhile (· != '.')).reverse
  if rest.length ≤ 1 || ending.isEmpty then "" else String.ofList ('.' :: ending)

end QueryLint.Path
