import QueryLint.Number.Reading
import QueryLint.Text.Lines
import QueryLint.Text.Quoted
import QueryLint.Text.Search

/-!
# Arguments of commands

A command has switches and takes operands. Arguments are first told apart, then used
in order. A switch may be shortened as long as it stays unambiguous, short switches
may be joined, and a value may follow its switch directly.
-/

namespace QueryLint.Command

/-- What a switch takes as its value. -/
structure SwitchValue where
  placeholder : String
  choices : List String := []
  isWhole : Bool := false
deriving DecidableEq

/-- What a switch is for. -/
inductive SwitchRole where
  | option
  | help
  | version
deriving DecidableEq

structure Switch where
  names : List String
  value : Option SwitchValue := none
  help : String
  role : SwitchRole := .option
deriving DecidableEq

/-- The operands that a command takes. -/
inductive Operand where
  | none
  /-- One operand, which may be left out. -/
  | optional (name help : String)
  /-- The name of a command and all arguments after it. -/
  | command (name help : String) (commands : List (String × String))

structure CommandSpec where
  name : String
  switches : List Switch
  operand : Operand

/-- Why arguments are not used up: help is asked for, or they are wrong. -/
inductive Stop where
  | help
  | version
  | misuse (message : String)
deriving DecidableEq

namespace Switch

/-- The switch as messages name it. -/
def label (s : Switch) : String := Text.joinWith "/" s.names

/-- The name that stands for the switch: its last, which is the long one. -/
def key (s : Switch) : String := s.names.getLastD ""

def misuse (s : Switch) (message : String) : Stop :=
  .misuse ("argument " ++ s.label ++ ": " ++ message)

end Switch

def listChoices (choices : List String) : String := Text.joinWith ", " (choices.map Text.quoted)

def invalidChoice (value : String) (choices : List String) : String :=
  "invalid choice: " ++ Text.quoted value ++ " (choose from " ++ listChoices choices ++ ")"

/-! ### Whole numbers -/

/-- The whole number that a text denotes. -/
def wholeNumber? (s : String) : Option Int := (Number.whole 10 s).toOption

/-! ### Telling arguments apart -/

/-- What an argument is. -/
inductive ArgumentKind where
  | operand
  /-- The mark after which there are only operands. -/
  | mark
  /-- A switch under one of its names, and a value in the same argument. -/
  | switch (s : Switch) (name : String) (attached : Option String)
  | unknown

structure Argument where
  text : String
  kind : ArgumentKind

def cutAtSign (s : String) : Option (String × String) :=
  let cs := s.toList
  match cs.dropWhile (· != '=') with
  | _ :: rest => some (String.ofList (cs.takeWhile (· != '=')), String.ofList rest)
  | [] => none

/-- Whether an argument looks like a number below zero. A newline at the end is
overlooked. -/
def isNegativeNumber (s : String) : Bool :=
  match s.toList with
  | '-' :: cs =>
      let cs := if cs.getLast? == some '\n' then cs.dropLast else cs
      let whole := cs.takeWhile Text.isDecimal
      match cs.drop whole.length with
      | [] => !whole.isEmpty
      | '.' :: part => !part.isEmpty && part.all Text.isDecimal
      | _ => false
  | _ => false

namespace CommandSpec

/-- All names of switches, with their switches. -/
def names (c : CommandSpec) : List (String × Switch) :=
  c.switches.flatMap fun s => s.names.map fun n => (n, s)

def find? (c : CommandSpec) (name : String) : Option Switch := c.names.lookup name

/-- The switches that an argument may stand for, with the names it stands for. -/
def candidates (c : CommandSpec) (arg : String) : List (String × Switch × Option String) :=
  let cs := arg.toList
  if cs.take 2 == ['-', '-'] then
    let (stem, attached) : String × Option String :=
      match cutAtSign arg with
      | some (stem, value) => (stem, some value)
      | none => (arg, none)
    (c.names.filter fun (n, _) => stem.toList.isPrefixOf n.toList).map fun (n, s) => (n, s, attached)
  else
    c.names.filterMap fun (n, s) =>
      if n.toList == cs.take 2 then some (n, s, some (String.ofList (cs.drop 2)))
      else if cs.isPrefixOf n.toList then some (n, s, none)
      else none

/-- Tells what an argument is before any mark. -/
def kindOf (c : CommandSpec) (arg : String) : Except Stop ArgumentKind :=
  if arg.toList.head? != some '-' then .ok .operand
  else
    match c.find? arg with
    | some s => .ok (.switch s arg none)
    | none =>
        if arg.length = 1 then .ok .operand
        else
          match (cutAtSign arg).bind fun (n, v) => (c.find? n).map fun s => (n, s, v) with
          | some (n, s, v) => .ok (.switch s n (some v))
          | none =>
              match c.candidates arg with
              | [(n, s, attached)] => .ok (.switch s n attached)
              | [] => .ok (if isNegativeNumber arg || arg.toList.contains ' ' then .operand else .unknown)
              | several =>
                  .error (.misuse ("ambiguous option: " ++ arg ++ " could match " ++
                    Text.joinWith ", " (several.map Prod.fst)))

/-- Tells all arguments apart. After the first mark all are operands. -/
def tellApart (c : CommandSpec) : List String → Except Stop (List Argument)
  | [] => .ok []
  | "--" :: rest => .ok (⟨"--", .mark⟩ :: rest.map fun a => ⟨a, .operand⟩)
  | a :: rest => do
      let kind ← c.kindOf a
      return ⟨a, kind⟩ :: (← c.tellApart rest)

end CommandSpec

/-! ### Using arguments -/

/-- The switches used, with their values, the operands taken, and what is left over. -/
structure Usage where
  switches : List (String × String) := []
  /-- None as long as the operand is not taken. -/
  operands : Option (List String) := none
  extras : List String := []

namespace Usage

/-- The last value given for a switch. -/
def last? (u : Usage) (key : String) : Option String := u.switches.reverse.lookup key

/-- All values given for a switch. -/
def all (u : Usage) (key : String) : List String :=
  u.switches.filterMap fun (k, v) => if k == key then some v else none

def has (u : Usage) (key : String) : Bool := u.switches.any fun (k, _) => k == key

/-- Uses a switch. A value that is not allowed is misuse. -/
def take (u : Usage) (s : Switch) (value : String) : Except Stop Usage :=
  match s.role with
  | .help => .error .help
  | .version => .error .version
  | .option =>
      match s.value with
      | some spec =>
          if spec.isWhole && (wholeNumber? value).isNone then
            .error (s.misuse ("invalid int value: " ++ Text.quoted value))
          else if !spec.choices.isEmpty && !spec.choices.contains value then
            .error (s.misuse (invalidChoice value spec.choices))
          else .ok { u with switches := u.switches ++ [(s.key, value)] }
      | none => .ok { u with switches := u.switches ++ [(s.key, "")] }

def takeAll (u : Usage) : List (Switch × String) → Except Stop Usage
  | [] => .ok u
  | (s, v) :: rest => do (← u.take s v).takeAll rest

end Usage

/-- Switches read from one argument. -/
structure Cluster where
  switches : List (Switch × String)
  /-- The last switch takes the next argument as its value. -/
  open_ : Option Switch := none

def Switch.ignored (s : Switch) (text : List Char) : Stop :=
  s.misuse ("ignored explicit argument " ++ Text.quoted (String.ofList text))

/-- Reads the rest of an argument after a switch that takes no value: short switches,
the last of which may have a value. -/
def readCluster (c : CommandSpec) (first : Switch) : List Char → Except Stop Cluster
  | [] => .ok ⟨[(first, "")], none⟩
  | ch :: rest =>
      match c.find? (String.ofList ['-', ch]) with
      | none => .error (first.ignored (ch :: rest))
      | some s =>
          match s.value, rest with
          | some _, [] => .ok ⟨[(first, "")], some s⟩
          | some _, value => .ok ⟨[(first, ""), (s, String.ofList value)], none⟩
          | none, rest => do
              let more ← readCluster c s rest
              return { more with switches := (first, "") :: more.switches }

/-- Reads one argument that starts with a switch. -/
def readSwitch (c : CommandSpec) (s : Switch) (name : String) (attached : Option String) :
    Except Stop Cluster :=
  match s.value, attached with
  | none, none => .ok ⟨[(s, "")], none⟩
  | some _, none => .ok ⟨[], some s⟩
  | some _, some text => .ok ⟨[(s, text)], none⟩
  | none, some text =>
      if name.toList.take 2 == ['-', '-'] || text.isEmpty then .error (s.ignored text.toList)
      else readCluster c s text.toList

def isMark : Argument → Bool
  | ⟨_, .mark⟩ => true
  | _ => false

def isOperand : Argument → Bool
  | ⟨_, .operand⟩ => true
  | _ => false

/-- How many arguments an operand takes that may be left out: one, and the mark
before or after it. -/
def optionalCount : List Argument → Nat
  | a :: b :: _ =>
      if isMark a then (if isOperand b then 2 else 1)
      else if isMark b then 2
      else 1
  | [_] => 1
  | [] => 0

/-- The first mark does not count as an operand. -/
def dropMark (args : List String) : List String := args.erase "--"

/-- Uses the arguments of a command in order. `fuel` is their number. -/
def useFrom (c : CommandSpec) : Nat → Usage → List Argument → Except Stop Usage
  | 0, u, _ => .ok u
  | _, u, [] => .ok u
  | fuel + 1, u, a :: rest =>
      match a.kind with
      | .unknown => useFrom c fuel { u with extras := u.extras ++ [a.text] } rest
      | .switch s name attached => do
          let cluster ← readSwitch c s name attached
          match cluster.open_ with
          | none => useFrom c fuel (← u.takeAll cluster.switches) rest
          | some s =>
              match rest with
              | ⟨value, .operand⟩ :: rest =>
                  useFrom c fuel (← u.takeAll (cluster.switches ++ [(s, value)])) rest
              | _ => .error (s.misuse "expected one argument")
      | _ =>
          let skip := useFrom c fuel { u with extras := u.extras ++ [a.text] } rest
          match c.operand, u.operands with
          | .none, _ | _, some _ => skip
          | .optional .., none =>
              let args := a :: rest
              let n := optionalCount args
              useFrom c fuel { u with operands := some (dropMark ((args.take n).map (·.text))) }
                (args.drop n)
          | .command name _ commands, none =>
              if isMark a && rest.isEmpty then skip
              else
                let choices := commands.map Prod.fst
                if choices.contains a.text then
                  .ok { u with operands := some ((a :: rest).map (·.text)) }
                else .error (.misuse ("argument " ++ name ++ ": " ++ invalidChoice a.text choices))

/-- Reads the arguments of a command. -/
def CommandSpec.read (c : CommandSpec) (args : List String) : Except Stop Usage := do
  let told ← c.tellApart args
  useFrom c told.length {} told

end QueryLint.Command
