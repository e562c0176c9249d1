import QueryLint.Datum.Display
import QueryLint.Number.Reading
import QueryLint.Template.Fault

/-!
# Failures

Every way in which an operation can fail to give an answer, with the one place
where each is put into words. Settings are data of any shape, and one of the wrong
shape fails only when it is used, so the failures name the use.
-/

namespace QueryLint

/-- What cannot be done with something that is nested too deeply. -/
inductive Activity where
  /-- To put the nodes of a document together. -/
  | composing
  | readingList
  | readingObject
  /-- To build the syntax tree of a program. -/
  | building
  /-- To go through a syntax tree. -/
  | walking
deriving DecidableEq

/-- The activity as it is added to a message. -/
def Activity.phrase : Activity → String
  | composing => ""
  | readingList => " while decoding a JSON array from a unicode string"
  | readingObject => " while decoding a JSON object from a unicode string"
  | building => " during ast construction"
  | walking => " while calling a Python object"

/-- Why an operation gives no answer. -/
inductive Failure where
  /-- A name outside an enumeration. -/
  | notAMember (enumeration : String) (value : Datum)
  | unknownDialect (name : String) (closest : Option String)
  | invalidDialect (value : Datum)
  | unknownSetting (name : String) (closest : Option String)
  | unknownFormat (name : String)
  | template (fault : Template.Fault)
  /-- A list read as a mapping holds an item that is not a pair. -/
  | notAPair (index length : Nat)
  | emptyPath
  | configNotMapping (path : String)
  | configInvalid (path : String)
  /-- A text that has to be a number is none. -/
  | number (fault : Number.Fault)
  /-- A text that has to be a number is empty. -/
  | noDigits
  /-- A number has too many digits to be written. -/
  | hugeNumber
  | calendar (fault : Calendar.Fault)
  /-- A number is not that of a character. -/
  | noCharacter
  /-- A number is too great for its use. -/
  | overflow
  /-- A text is too long to be held. -/
  | outOfMemory
  /-- Something is nested too deeply for what is done with it. -/
  | tooDeep (activity : Activity)
  /-- A text that has to be a record is none. -/
  | notARecord
  /-- A list read as a mapping holds an item that is not even a sequence. -/
  | notASequence (index : Nat)
  | notIterable (type : String)
  | notAContainer (type : String)
  | textIndex (type : String)
  /-- Texts are looked for in bytes. -/
  | textInBytes
  /-- A pattern of bytes is tried on a text. -/
  | bytesPattern
  | notText (type : String)
  /-- A text is repeated a number of times that is no whole number. -/
  | notACount (type : String)
  /-- Something that has no length is measured. -/
  | noLength (type : String)
  /-- A value that cannot be laid out is given a width. -/
  | noLayout (type : String)
  /-- A name of an option is no text. -/
  | optionNotText
  | unhashable (type : String)
  | operands (operator left right : String)
  | unordered (relation left right : String)
  /-- A clock that says how far it is off is compared with one that does not. -/
  | unorderedClocks
  /-- A moment is compared with a day. -/
  | unorderedDay
  | notAPath (type : String)
  | unexpectedOption (owner key : String)
  /-- A record has unknown fields or lacks required ones. -/
  | wrongFields (owner : String)
  | noMember (type member : String)
  | fixedMember (type member : String)
  | missingKey (key : String)
  | targetMissing (path : String)
  | configMissing (path : String)
  | noSuchFile (path : String)
  | isFolder (path : String)
  | notAFolder (path : String)
  | nameTooLong (path : String)
  | noPermission (path : String)
  /-- A path holds a null. -/
  | nullInPath
  | badDescriptor
  | negativeDescriptor
  /-- Characters from `first` to `last`, the first of the given code point, have no bytes. -/
  | unencodable (code first last : Nat)
  /-- Bytes from `first` to `last` are not part of a text. -/
  | undecodable (byte first last : Nat) (reason : String)
  /-- The grammar failed in a way of its own. -/
  | grammarCrash (message : String)
  | interrupted
deriving Inhabited

namespace Failure

/-- The broad kinds of failures. -/
inductive Kind where
  | badValue
  | badType
  | noMember
  | noKey
  | noIndex
  | noFile
  | folder
  | noFolder
  | undecodable
  | unencodable
  | system
  | overflow
  | memory
  | depth
  | malformed
  | crash
  | interrupt
deriving DecidableEq

def templateKind : Template.Fault → Kind
  | .noArgument _ | .noCharacter | .noItem _ => .noIndex
  | .noName _ | .noKey _ => .noKey
  | .noMember .. => .noMember
  | .badIndex _ | .noItems _ | .noLayout _ => .badType
  | .notACharacter | .tooLargeForCharacter | .tooLargeForDouble => .overflow
  | .outOfMemory => .memory
  | _ => .badValue

def kind : Failure → Kind
  | notAMember .. | unknownDialect .. | invalidDialect _ | unknownSetting .. | unknownFormat _
  | notAPair .. | emptyPath | configNotMapping _ | configInvalid _ | number _ | hugeNumber
  | calendar _ | noCharacter | nullInPath | negativeDescriptor => .badValue
  | noDigits => .noIndex
  | overflow => .overflow
  | outOfMemory => .memory
  | tooDeep _ => .depth
  | notARecord => .malformed
  | template fault => templateKind fault
  | notASequence _ | notIterable _ | notAContainer _ | textIndex _ | textInBytes | bytesPattern
  | notText _ | notACount _ | noLength _ | noLayout _ | optionNotText | unhashable _ | operands ..
  | unordered .. | unorderedClocks | unorderedDay | notAPath _ | unexpectedOption ..
  | wrongFields _ => .badType
  | noMember .. | fixedMember .. => .noMember
  | missingKey _ => .noKey
  | targetMissing _ | configMissing _ | noSuchFile _ => .noFile
  | isFolder _ => .folder
  | notAFolder _ => .noFolder
  | nameTooLong _ | noPermission _ | badDescriptor => .system
  | undecodable .. => .undecodable
  | unencodable .. => .unencodable
  | grammarCrash _ => .crash
  | interrupted => .interrupt

/-- The failure to encode characters of which some may not be encoded, if it is one. It names
the whole run of halves at the first of them. -/
def unencodable? (isRefused : Char → Bool) (cs : List Char) : Option Failure :=
  match cs.findIdx? isRefused with
  | none => none
  | some i =>
      let run := (cs.drop i).takeWhile Text.isHalf
      some (.unencodable (run.head?.elim 0 Text.codePoint) i (i + run.length - 1))

/-- Quotations of texts that are no numbers end after this many characters. -/
def maxQuotation : Nat := 200

def digitLimit : String :=
  "Exceeds the limit (" ++ toString Text.maxDecimalDigits ++ " digits) for integer string conversion"

def digitAdvice : String := "; use sys.set_int_max_str_digits() to increase the limit"

def numberMessage : Number.Fault → String
  | .notWhole base text =>
      "invalid literal for int() with base " ++ toString base ++ ": " ++
        String.ofList ((Text.quoted text).toList.take maxQuotation)
  | .tooManyDigits count => digitLimit ++ ": value has " ++ toString count ++ " digits" ++ digitAdvice
  | .notAFraction text => "could not convert string to float: " ++ Text.quoted text

def message : Failure → String
  | notAMember enumeration value => value.display ++ " is not a valid " ++ enumeration
  | unknownDialect name closest =>
      "Unknown dialect '" ++ name ++ "'." ++
        match closest with
        | some s => " Did you mean " ++ s ++ "?"
        | none => ""
  | invalidDialect value =>
      "Invalid dialect type for '" ++ value.plain ++ "': '<class '" ++ value.typeName ++ "'>'."
  | unknownSetting name closest =>
      "Unknown setting '" ++ name ++ "'." ++
        match closest with
        | some s => " Did you mean " ++ s ++ "?"
        | none => ""
  | unknownFormat name => "Unknown format: " ++ name
  | template fault => fault.message
  | notAPair index length =>
      "dictionary update sequence element #" ++ toString index ++ " has length " ++
        toString length ++ "; 2 is required"
  | emptyPath => "no path specified"
  | configNotMapping path => "Configuration file " ++ path ++ " must contain a mapping"
  | configInvalid path => "Invalid configuration file " ++ path
  | number fault => numberMessage fault
  | noDigits => "string index out of range"
  | hugeNumber => digitLimit ++ digitAdvice
  | calendar fault => fault.message
  | noCharacter => "chr() arg not in range(0x110000)"
  | overflow => "Python int too large to convert to C int"
  | outOfMemory => ""
  | tooDeep activity => "maximum recursion depth exceeded" ++ activity.phrase
  | notARecord => "Expecting value"
  | notASequence index =>
      "cannot convert dictionary update sequence element #" ++ toString index ++ " to a sequence"
  | notIterable type => "'" ++ type ++ "' object is not iterable"
  | notAContainer type => "argument of type '" ++ type ++ "' is not iterable"
  | textIndex type =>
      match type with
      | "list" | "tuple" => type ++ " indices must be integers or slices, not str"
      | "bytes" => "byte indices must be integers or slices, not str"
      | "str" => "string indices must be integers, not 'str'"
      | type => "'" ++ type ++ "' object is not subscriptable"
  | textInBytes => "a bytes-like object is required, not 'str'"
  | bytesPattern => "cannot use a bytes pattern on a string-like object"
  | notText type => "expected string or bytes-like object, got '" ++ type ++ "'"
  | notACount type => "can't multiply sequence by non-int of type '" ++ type ++ "'"
  | noLength type => "object of type '" ++ type ++ "' has no len()"
  | noLayout type => "unsupported format string passed to " ++ type ++ ".__format__"
  | optionNotText => "keywords must be strings"
  | unhashable type => "unhashable type: '" ++ type ++ "'"
  | operands operator left right =>
      "unsupported operand type(s) for " ++ operator ++ ": '" ++ left ++ "' and '" ++ right ++ "'"
  | unordered relation left right =>
      "'" ++ relation ++ "' not supported between instances of '" ++ left ++ "' and '" ++ right ++ "'"
  | unorderedClocks => "can't compare offset-naive and offset-aware datetimes"
  | unorderedDay => "can't compare datetime.datetime to datetime.date"
  | notAPath type => "expected str, bytes or os.PathLike object, not " ++ type
  | unexpectedOption owner key =>
      owner ++ ".__init__() got an unexpected keyword argument '" ++ key ++ "'"
  | wrongFields owner => owner ++ ".__init__() got unexpected or missing arguments"
  | noMember type member => "'" ++ type ++ "' object has no attribute '" ++ member ++ "'"
  | fixedMember type member => "'" ++ type ++ "' object attribute '" ++ member ++ "' is read-only"
  | missingKey key => Text.quoted key
  | targetMissing path => "Scan target not found: " ++ path
  | configMissing path => "Configuration file not found: " ++ path
  | noSuchFile path => "[Errno 2] No such file or directory: " ++ Text.quoted path
  | isFolder path => "[Errno 21] Is a directory: " ++ Text.quoted path
  | notAFolder path => "[Errno 20] Not a directory: " ++ Text.quoted path
  | nameTooLong path => "[Errno 36] File name too long: " ++ Text.quoted path
  | noPermission path => "[Errno 13] Permission denied: " ++ Text.quoted path
  | nullInPath => "embedded null byte"
  | badDescriptor => "[Errno 9] Bad file descriptor"
  | negativeDescriptor => "negative file descriptor"
  | undecodable byte first last reason =>
      "'utf-8' codec can't decode " ++
        (if first = last then
          "byte 0x" ++ String.ofList (Text.hexDigits 2 byte) ++ " in position " ++ toString first
        else "bytes in position " ++ toString first ++ "-" ++ toString last) ++
        ": " ++ reason
  | unencodable code first last =>
      "'utf-8' codec can't encode " ++
        (if first = last then
          "character '" ++ String.ofList (Text.codePointEscape code) ++ "' in position " ++
            toString first
        else "characters in position " ++ toString first ++ "-" ++ toString last) ++
        ": surrogates not allowed"
  | grammarCrash message => message
  | interrupted => ""

end Failure

end QueryLint
