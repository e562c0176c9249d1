import QueryLint.FileTree
import QueryLint.Text.Lines

/-!
# The text of a file

Sources are read leniently: a byte-order mark is dropped, and bytes that are no text
become replacement characters. Settings are read strictly. Either way line ends are
unified. Halves of characters have no bytes, so a text that holds one is not written.
-/

namespace QueryLint.FileText

/-- The bytes of a byte-order mark. -/
def mark : List UInt8 := [0xEF, 0xBB, 0xBF]

/-- The bytes after a byte-order mark. A file that holds just the beginning of one is
empty. -/
def dropMarkBytes (bytes : List UInt8) : List UInt8 :=
  if mark.isPrefixOf bytes then bytes.drop 3
  else if bytes.isPrefixOf mark then []
  else bytes

/-- The text of a source file. -/
def lenient (bytes : List UInt8) : String :=
  String.ofList (Text.unifyNewlines (Text.decodeUtf8 (dropMarkBytes bytes)))

/-- The text of a settings file. -/
def strict (bytes : List UInt8) : Except Failure String :=
  match Text.firstFault? bytes with
  | some fault => .error (.undecodable fault.byte fault.first fault.last fault.reason)
  | none => .ok (String.ofList (Text.unifyNewlines (Text.decodeUtf8 bytes)))

/-- The bytes of a text. -/
def encode (text : String) : Except Failure (List UInt8) :=
  match Failure.unencodable? Text.isHalf text.toList with
  | some failure => .error failure
  | none => .ok text.toUTF8.toList

end QueryLint.FileText
