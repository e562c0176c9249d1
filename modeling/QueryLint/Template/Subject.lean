import QueryLint.Datum.Display
import QueryLint.Template.Fault

/-!
# What the fields of a template speak of

A field shows the argument, one of its items, or something about them: their type, what
is known of the type, or one of the routines that texts have.
-/

namespace QueryLint.Template

/-- A routine of texts. -/
structure Routine where
  name : String
  /-- The type that the routine comes with. -/
  owner : String
  /-- Whether it stands for an operator. -/
  isOperator : Bool
  /-- Whether it belongs to one text, not to the type of texts. -/
  isBound : Bool

inductive Subject where
  | datum (d : Datum)
  | type (name : String)
  | types (names : List String)
  | routine (r : Routine)

/-! ### Routines -/

/-- The routines of texts that stand for operators. -/
def textOperators : List String :=
  ["__add__", "__contains__", "__eq__", "__ge__", "__getattribute__", "__getitem__", "__gt__",
    "__hash__", "__iter__", "__le__", "__len__", "__lt__", "__mod__", "__mul__", "__ne__",
    "__repr__", "__rmod__", "__rmul__", "__str__"]

/-- The routines of everything that stand for operators. -/
def commonOperators : List String := ["__delattr__", "__init__", "__setattr__"]

/-- The other routines of texts. -/
def textRoutines : List String :=
  ["__format__", "__getnewargs__", "__new__", "__sizeof__", "capitalize", "casefold", "center",
    "count", "encode", "endswith", "expandtabs", "find", "format", "format_map", "index",
    "isalnum", "isalpha", "isascii", "isdecimal", "isdigit", "isidentifier", "islower",
    "isnumeric", "isprintable", "isspace", "istitle", "isupper", "join", "ljust", "lower",
    "lstrip", "maketrans", "partition", "removeprefix", "removesuffix", "replace", "rfind",
    "rindex", "rjust", "rpartition", "rsplit", "rstrip", "split", "splitlines", "startswith",
    "strip", "swapcase", "title", "translate", "upper", "zfill"]

/-- The other routines of everything. -/
def commonRoutines : List String :=
  ["__dir__", "__getstate__", "__init_subclass__", "__reduce__", "__reduce_ex__",
    "__subclasshook__"]

namespace Routine

/-- The routine of texts of a name. -/
def ofName? (isBound : Bool) (name : String) : Option Routine :=
  if textOperators.contains name then some ⟨name, "str", true, isBound⟩
  else if textRoutines.contains name then some ⟨name, "str", false, isBound⟩
  else if commonOperators.contains name then some ⟨name, "object", true, isBound⟩
  else if commonRoutines.contains name then some ⟨name, "object", false, isBound⟩
  else none

def typeName (r : Routine) : String :=
  match r.isBound, r.isOperator with
  | true, true => "method-wrapper"
  | true, false => "builtin_function_or_method"
  | false, true => "wrapper_descriptor"
  | false, false => "method_descriptor"

def display (r : Routine) : String :=
  match r.isBound, r.isOperator with
  | true, true => "<method-wrapper '" ++ r.name ++ "' of str object>"
  | true, false => "<built-in method " ++ r.name ++ " of str object>"
  | false, true => "<slot wrapper '" ++ r.name ++ "' of '" ++ r.owner ++ "' objects>"
  | false, false => "<method '" ++ r.name ++ "' of '" ++ r.owner ++ "' objects>"

end Routine

/-! ### Types -/

/-- What is said of a type. -/
def typeNote? : String → Option String
  | "str" => some
      ("str(object='') -> str\nstr(bytes_or_buffer[, encoding[, errors]]) -> str\n\n" ++
        "Create a new string object from the given object. If encoding or\n" ++
        "errors is specified, then the object must expose a data buffer\n" ++
        "that will be decoded using the given encoding and error handler.\n" ++
        "Otherwise, returns the result of object.__str__() (if defined)\n" ++
        "or repr(object).\nencoding defaults to sys.getdefaultencoding().\n" ++
        "errors defaults to 'strict'.")
  | "object" => some
      ("The base class of the class hierarchy.\n\n" ++
        "When called, it accepts no arguments and returns a new featureless\n" ++
        "instance that has no instance attributes and cannot be given any.\n")
  | "type" => some
      ("type(object) -> the object's type\n" ++ "type(name, bases, dict, **kwds) -> a new type")
  | "int" => some
      ("int([x]) -> integer\nint(x, base=10) -> integer\n\n" ++
        "Convert a number or string to an integer, or return 0 if no arguments\n" ++
        "are given.  If x is a number, return x.__int__().  For floating point\n" ++
        "numbers, this truncates towards zero.\n\n" ++
        "If x is not a number or if base is given, then x must be a string,\n" ++
        "bytes, or bytearray instance representing an integer literal in the\n" ++
        "given base.  The literal can be preceded by '+' or '-' and be surrounded\n" ++
        "by whitespace.  The base defaults to 10.  Valid bases are 0 and 2-36.\n" ++
        "Base 0 means to interpret the base from the string as an integer literal.\n" ++
        ">>> int('0b100', base=0)\n4")
  | "float" => some "Convert a string or number to a floating point number, if possible."
  | "bool" => some
      ("bool(x) -> bool\n\nReturns True when the argument x is true, False otherwise.\n" ++
        "The builtins True and False are the only two instances of the class bool.\n" ++
        "The class bool is a subclass of the class int, and cannot be subclassed.")
  | "list" => some
      ("Built-in mutable sequence.\n\n" ++
        "If no argument is given, the constructor creates a new empty list.\n" ++
        "The argument must be an iterable if specified.")
  | "dict" => some
      ("dict() -> new empty dictionary\n" ++
        "dict(mapping) -> new dictionary initialized from a mapping object's\n" ++
        "    (key, value) pairs\n" ++
        "dict(iterable) -> new dictionary initialized as if via:\n    d = \x7b\x7d\n" ++
        "    for k, v in iterable:\n        d[k] = v\n" ++
        "dict(**kwargs) -> new dictionary initialized with the name=value pairs\n" ++
        "    in the keyword argument list.  For example:  dict(one=1, two=2)")
  | "tuple" => some
      ("Built-in immutable sequence.\n\n" ++
        "If no argument is given, the constructor returns an empty tuple.\n" ++
        "If iterable is specified the tuple is initialized from iterable's items.\n\n" ++
        "If the argument is a tuple, the return value is the same object.")
  | _ => none

/-- A type and the more general ones, up to the most general. -/
def typeChain : String → List String
  | "object" => ["object"]
  | "bool" => ["bool", "int", "object"]
  | type => [type, "object"]

namespace Subject

def text (s : String) : Subject := datum (.text s)

def ofOption : Option String → Subject
  | some s => text s
  | none => datum .null

def typeName : Subject → String
  | datum d => d.typeName
  | type _ => "type"
  | types _ => "tuple"
  | routine r => r.typeName

/-- How messages speak of a subject. -/
def describe : Subject → String
  | type name => "type object '" ++ name ++ "'"
  | s => "'" ++ s.typeName ++ "' object"

def typeText (name : String) : String := "<class '" ++ name ++ "'>"

def display : Subject → String
  | datum d => d.display
  | type name => typeText name
  | types [name] => "(" ++ typeText name ++ ",)"
  | types names => "(" ++ ", ".intercalate (names.map typeText) ++ ")"
  | routine r => r.display

/-- A subject as it stands in running text. -/
def plain : Subject → String
  | datum d => d.plain
  | s => s.display

/-! ### Parts -/

def typeMember? (name : String) : String → Option Subject
  | "__name__" => some (text name)
  | "__qualname__" => some (text name)
  | "__module__" => some (text "builtins")
  | "__base__" => some (((typeChain name).drop 1).head?.elim (datum .null) type)
  | "__bases__" => some (types (((typeChain name).drop 1).take 1))
  | "__mro__" => some (types (typeChain name))
  | member => if name == "str" then (Routine.ofName? false member).map routine else none

def routineMember? (r : Routine) : String → Option Subject
  | "__name__" => some (text r.name)
  | "__qualname__" => some (text (r.owner ++ "." ++ r.name))
  | "__module__" => if r.isBound && !r.isOperator then some (datum .null) else none
  | "__objclass__" => if r.isBound && !r.isOperator then none else some (type r.owner)
  | _ => none

/-- The parts of a number. -/
def numberMember? : Datum → String → Option Datum
  | .bool b, name => wholeMember? (if b then 1 else 0) name
  | .int n, name => wholeMember? n name
  | .float x, "real" => some (.float x)
  | .float _, "imag" => some (.float (.ofInt 0))
  | _, _ => none
where
  wholeMember? (n : Int) : String → Option Datum
  | "real" | "numerator" => some (.int n)
  | "imag" => some (.int 0)
  | "denominator" => some (.int 1)
  | _ => none

/-- What a name behind a point stands for. -/
def member? (s : Subject) (name : String) : Option Subject :=
  match name with
  | "__class__" => some (type s.typeName)
  | name =>
      match s with
      | datum d =>
          if name == "__doc__" then some (ofOption (typeNote? d.typeName))
          else
            match d with
            | .text _ => (Routine.ofName? true name).map routine
            | d => (numberMember? d name).map datum
      | type t => if name == "__doc__" then some (ofOption (typeNote? t)) else typeMember? t name
      | types _ => none
      | routine r => routineMember? r name

def member (s : Subject) (name : String) : Except Fault Subject :=
  match s.member? name with
  | some found => .ok found
  | none => .error (.noMember s.describe name)

/-- The subject has no items. -/
def withoutItems (s : Subject) : Except Fault Subject :=
  match s with
  | type name => .error (.noItems ("type '" ++ name ++ "'"))
  | s => .error (.noItems s.describe)

/-- The item at a number. -/
def itemAt (s : Subject) (index : Nat) : Except Fault Subject :=
  match s with
  | datum (.text t) =>
      match t.toList[index]? with
      | some c => .ok (text c.toString)
      | none => .error .noCharacter
  | datum (.list items) =>
      match items[index]? with
      | some d => .ok (datum d)
      | none => .error (.noItem "list")
  | datum (.mapping entries) =>
      match entries.find? fun (k, _) => k.sameKey (.int index) with
      | some (_, d) => .ok (datum d)
      | none => .error (.noKey (toString index))
  | types names =>
      match names[index]? with
      | some name => .ok (type name)
      | none => .error (.noItem "tuple")
  | s => s.withoutItems

/-- The item under a text that is not a number. -/
def itemOf (s : Subject) (key : String) : Except Fault Subject :=
  match s with
  | datum (.text _) => .error (.badIndex "str")
  | datum (.list _) => .error (.badIndex "list")
  | datum (.mapping entries) =>
      match Datum.find? key entries with
      | some d => .ok (datum d)
      | none => .error (.noKey (Text.quoted key))
  | types _ => .error (.badIndex "tuple")
  | s => s.withoutItems

end Subject

end QueryLint.Template
