import QueryLint.Text.Lowercase

/-!
# Languages

The languages whose sources can be read, by name and by file extension.
-/

namespace QueryLint

inductive Language where
  | python
deriving DecidableEq

namespace Language

def name : Language → String
  | python => "python"

def all : List Language := [python]

/-- Short names. -/
def aliases : List (String × Language) := [("py", python)]

/-- The extensions of a language's files. -/
def extensions : Language → List String
  | python => [".py", ".pyw"]

/-- The language of a name in any case. -/
def ofName? (s : String) : Option Language :=
  let key := Text.lower s
  match all.find? (·.name == key) with
  | some l => some l
  | none => aliases.lookup key

/-- The language of a file extension in any case. -/
def ofExtension? (ext : String) : Option Language :=
  all.find? fun l => l.extensions.contains (Text.lower ext)

end Language

end QueryLint
