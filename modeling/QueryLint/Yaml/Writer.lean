import QueryLint.Json.Writer
import QueryLint.Yaml.Scalar

/-!
# Writing YAML

Values in block style: a mapping has one entry a line, and what is inside is indented
by two. The items of a sequence stand below its key without being indented.
-/

namespace QueryLint.Yaml

/-- Texts that can stand without quotes, of those made of letters, digits and a few
marks. -/
def isPlainText (s : String) : Bool :=
  Scalar.implicitTag s == .text &&
    s.toList.all (fun c => c.isAlphanum || "._-/*".toList.contains c) &&
    (s.toList.head?.any fun c => c.isAlphanum || c == '.' || c == '_')

/-- A value on one line. Collections are empty here. -/
def inline : Json → String
  | .null => "null"
  | .bool true => "true"
  | .bool false => "false"
  | .int n => toString n
  | .float x => x.text
  | .string s => if isPlainText s then s else (Json.string s).write none
  | .array _ => "[]"
  | .object _ => "\x7b\x7d"

def spaces (n : Nat) : String := String.ofList (List.replicate n ' ')

mutual

/-- A value below the line that it belongs to. -/
def below (indent : Nat) : Json → String
  | .object (e :: es) => "\n" ++ writeEntries (indent + 2) (e :: es)
  | .array (v :: vs) => "\n" ++ writeItems indent (v :: vs)
  | j => " " ++ inline j ++ "\n"

def writeEntries (indent : Nat) : List (String × Json) → String
  | [] => ""
  | (k, v) :: rest =>
      spaces indent ++ inline (.string k) ++ ":" ++ below indent v ++ writeEntries indent rest

def writeItems (indent : Nat) : List Json → String
  | [] => ""
  | v :: rest => spaces indent ++ "-" ++ below indent v ++ writeItems indent rest

end

/-- A mapping as the text of a file. -/
def writeMapping (entries : List (String × Json)) : String := writeEntries 0 entries

end QueryLint.Yaml
