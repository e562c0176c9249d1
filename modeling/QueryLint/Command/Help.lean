import QueryLint.Command.Argument

/-!
# Help on commands

The usage line and the help of a command, laid out for lines of eighty columns. Help
on an argument stands beside it, or below it if the argument is too wide.
-/

namespace QueryLint.Command

/-- The widest line: eighty columns less two. -/
def textWidth : Nat := 78

/-- The column at which help on arguments starts at the latest. -/
def maxHelpColumn : Nat := 24

def blanks (n : Nat) : String := String.ofList (List.replicate n ' ')

/-- Fills lines with words, each line as far as it goes. -/
def fillFrom (width : Nat) : List String → List String → List String
  | line, [] => if line.isEmpty then [] else [Text.joinWith " " line]
  | line, word :: rest =>
      if !line.isEmpty && width < (Text.joinWith " " line).length + 1 + word.length then
        Text.joinWith " " line :: fillFrom width [word] rest
      else fillFrom width (line ++ [word]) rest

def fill (width : Nat) (words : List String) : List String := fillFrom width [] words

def Switch.withValue (s : Switch) (name : String) : String :=
  match s.value with
  | some v => name ++ " " ++ v.placeholder
  | none => name

/-- The switch in a usage line. -/
def Switch.usage (s : Switch) : String := "[" ++ s.withValue (s.names.headD "") ++ "]"

/-- The switch in the list of switches. -/
def Switch.invocation (s : Switch) : String := Text.joinWith ", " (s.names.map s.withValue)

def braces (names : List String) : String := "\x7b" ++ Text.joinWith "," names ++ "\x7d"

namespace Operand

def usage : Operand → List String
  | none => []
  | optional name _ => ["[" ++ name ++ "]"]
  | command _ _ commands => [braces (commands.map Prod.fst) ++ " ..."]

/-- The lines about the operand: indentation, what it is called, and help on it. -/
def entries : Operand → List (Nat × String × String)
  | none => []
  | optional name help => [(2, name, help)]
  | command _ help commands =>
      (2, braces (commands.map Prod.fst), help) :: commands.map fun (n, h) => (4, n, h)

end Operand

namespace CommandSpec

/-- The usage line. One that is too long is broken, and operands start a new line. -/
def usage (c : CommandSpec) : String :=
  let start := "usage: " ++ c.name
  let switches := c.switches.map Switch.usage
  let line := Text.joinWith " " (start :: switches ++ c.operand.usage)
  if line.length ≤ textWidth then line ++ "\n"
  else
    let indent := blanks (start.length + 1)
    let lines := fill (textWidth - start.length - 1) switches ++
      fill (textWidth - start.length - 1) c.operand.usage
    start ++ " " ++ Text.joinWith ("\n" ++ indent) lines ++ "\n"

/-- One argument and the help on it. -/
def helpEntry (column : Nat) : Nat × String × String → String
  | (indent, name, help) =>
      let lines := Text.joinWith ("\n" ++ blanks column) (fill (textWidth - column) (Text.words help))
      let head := blanks indent ++ name
      if head.length + 2 ≤ column then head ++ blanks (column - head.length) ++ lines
      else head ++ "\n" ++ blanks column ++ lines

def section_ (column : Nat) (title : String) (entries : List (Nat × String × String)) :
    List String :=
  if entries.isEmpty then []
  else [title ++ ":\n" ++ Text.joinWith "\n" (entries.map (helpEntry column))]

/-- The help of a command, with a text before the lists of arguments and one after
them. -/
def help (c : CommandSpec) (intro outro : Option String) : String :=
  let operands := c.operand.entries
  let switches := c.switches.map fun s => (2, s.invocation, s.help)
  let widest := (operands ++ switches).foldl (fun n (i, name, _) => max n (i + name.length)) 0
  let column := min (widest + 2) maxHelpColumn
  c.usage ++ "\n" ++
    Text.joinWith "\n\n"
      (intro.toList ++ section_ column "positional arguments" operands ++
        section_ column "options" switches ++ outro.toList) ++ "\n"

/-- What is printed on misuse. -/
def complaint (c : CommandSpec) (message : String) : String :=
  c.usage ++ c.name ++ ": error: " ++ message ++ "\n"

end CommandSpec

end QueryLint.Command
