import QueryLint.Datum.Shape
import QueryLint.Finding.Basic
import QueryLint.Json.Order

/-!
# Drafts of findings

A draft is a finding as a record describes it: it has the fields of a finding, but
their values may be of any kind. Reading a record checks which fields there are and
that texts which stand for members of an enumeration do so. Every other value is kept,
and one of the wrong kind fails only when it is used.
-/

namespace QueryLint

/-! ### Fields of records -/

namespace Record

/-- The fields of a record that has all required ones and no unknown ones. -/
def fields (owner : String) (required optional : List String) (j : Json) :
    Except Failure (List (String × Json)) :=
  match j with
  | .object entries =>
      if entries.all (fun (k, _) => required.contains k || optional.contains k) &&
          required.all fun k => (entries.lookup k).isSome
      then .ok entries
      else .error (.wrongFields owner)
  | _ => .error (.wrongFields owner)

/-- The entries of a value that is read as a record. -/
def entries : Json → Except Failure (List (String × Json))
  | .object es => .ok es
  | j => do
      return (← (Datum.ofJson j).pairs).foldl
        (fun acc (k, v) => Json.setKey k.keyText v.toJson acc) []

/-- The value of a field that may be missing. -/
def getOr (default : Json) (key : String) (fields : List (String × Json)) : Json :=
  (fields.lookup key).getD default

/-- The value of a field. -/
def get (key : String) (fields : List (String × Json)) : Json := getOr .null key fields

end Record

/-! ### Members of enumerations -/

/-- A member of an enumeration, or a value that is not even a text. -/
inductive Choice (α : Type) where
  | member (a : α)
  | other (j : Json)

namespace Choice

variable {α : Type}

/-- Reads a member by its label. -/
def ofJson (enumeration : String) (ofLabel? : String → Option α) :
    Json → Except Failure (Choice α)
  | .string s =>
      match ofLabel? s with
      | some a => .ok (member a)
      | none => .error (.notAMember enumeration (.text s))
  | j => .ok (other j)

def get : Choice α → Except Failure α
  | member a => .ok a
  | other j => .error (.noMember j.typeName "value")

def get? : Choice α → Option α
  | member a => some a
  | other _ => none

end Choice

/-! ### Locations -/

structure LocationDraft where
  path : Json
  startLine : Json
  endLine : Json
  startColumn : Json
  endColumn : Json

namespace LocationDraft

def ofJson (j : Json) : Except Failure LocationDraft := do
  let fields ← Record.fields "CodeLocation" ["file_path", "start_line", "end_line"]
    ["start_column", "end_column"] j
  return {
    path := Record.get "file_path" fields
    startLine := Record.get "start_line" fields
    endLine := Record.get "end_line" fields
    startColumn := Record.getOr (.int 0) "start_column" fields
    endColumn := Record.getOr (.int 0) "end_column" fields }

def toJson (l : LocationDraft) : Json :=
  .object [("file_path", l.path), ("start_line", l.startLine), ("end_line", l.endLine),
    ("start_column", l.startColumn), ("end_column", l.endColumn)]

/-- The text of a number that was counted out. -/
def numberText : Json → Except Failure String
  | .int n =>
      if Binary64.pow10 Text.maxDecimalDigits ≤ n.natAbs then .error .hugeNumber
      else .ok (toString n)
  | j => .ok j.plain

/-- A location in the form `path:line:column`, columns counted from one. -/
def display (l : LocationDraft) : Except Failure String := do
  let column ← numberText (← l.startColumn.add (.int 1))
  return l.path.plain ++ ":" ++ l.startLine.plain ++ ":" ++ column

end LocationDraft

/-! ### Snippets -/

structure SnippetDraft where
  code : Json
  line : Json
  before : Json
  after : Json

namespace SnippetDraft

def ofJson (j : Json) : Except Failure SnippetDraft := do
  let fields ← Record.fields "CodeSnippet" ["code", "highlighted_line"]
    ["context_before", "context_after"] j
  return {
    code := Record.get "code" fields
    line := Record.get "highlighted_line" fields
    before := Record.getOr (.array []) "context_before" fields
    after := Record.getOr (.array []) "context_after" fields }

/-- A snippet, if there is one: an empty value stands for none. -/
def ofOptional (j : Json) : Except Failure (Option SnippetDraft) :=
  if j.isFilled then some <$> ofJson j else .ok none

def toJson (s : SnippetDraft) : Json :=
  .object [("code", s.code), ("highlighted_line", s.line), ("context_before", s.before),
    ("context_after", s.after)]

end SnippetDraft

/-! ### Findings -/

structure FindingDraft where
  ruleId : Json
  title : Json
  /-- The message of the report. -/
  description : Json
  severity : Choice Severity
  confidence : Choice Confidence
  category : Choice Category
  location : LocationDraft
  snippet : Option SnippetDraft
  language : Json
  tags : Json
  metadata : Json
  suppressed : Json
  suppressionReason : Json

namespace FindingDraft

/-- The draft of a location and a snippet with the other fields of a record. -/
def ofFields (location : LocationDraft) (snippet : Option SnippetDraft)
    (fields : List (String × Json)) : Except Failure FindingDraft := do
  let severity ← Choice.ofJson "Severity" Severity.ofLabel? (Record.get "severity" fields)
  let confidence ← Choice.ofJson "Confidence" Confidence.ofLabel? (Record.get "confidence" fields)
  let category ← Choice.ofJson "FindingCategory" Category.ofLabel? (Record.get "category" fields)
  return {
    ruleId := Record.get "rule_id" fields
    title := Record.get "title" fields
    description := Record.get "description" fields
    severity
    confidence
    category
    location
    snippet
    language := Record.getOr (.string "unknown") "language" fields
    tags := Record.getOr (.array []) "tags" fields
    metadata := Record.getOr (.object []) "metadata" fields
    suppressed := Record.getOr (.bool false) "suppressed" fields
    suppressionReason := Record.get "suppression_reason" fields }

/-- Reads a record. The location and the snippet are read before anything else. -/
def ofJson (j : Json) : Except Failure FindingDraft := do
  let entries ← Record.entries j
  let location ← match entries.lookup "location" with
    | some l => LocationDraft.ofJson l
    | none => .error (.missingKey "location")
  let snippet ← SnippetDraft.ofOptional (Record.get "snippet" entries)
  let rest := entries.filter fun (k, _) => k != "location" && k != "snippet"
  let fields ← Record.fields "Finding"
    ["rule_id", "title", "description", "severity", "confidence", "category"]
    ["language", "tags", "metadata", "suppressed", "suppression_reason"] (.object rest)
  ofFields location snippet fields

/-- Reads the records that a value holds. -/
def listOfJson (j : Json) : Except Failure (List FindingDraft) := do
  (← (Datum.ofJson j).items).mapM fun d => ofJson d.toJson

/-- The record of a draft whose members are known, in the order of its fields. The
snippet is left out if there is none, and so is an empty reason for suppression. -/
def entriesWith (d : FindingDraft) (severity : Severity) (confidence : Confidence)
    (category : Category) : List (String × Json) :=
  [("rule_id", d.ruleId), ("title", d.title), ("description", d.description),
    ("severity", .string severity.label), ("confidence", .string confidence.label),
    ("category", .string category.label), ("location", d.location.toJson),
    ("language", d.language), ("tags", d.tags), ("metadata", d.metadata),
    ("suppressed", d.suppressed)] ++
    (match d.snippet with
      | some s => [("snippet", s.toJson)]
      | none => []) ++
    (if d.suppressionReason.isFilled then [("suppression_reason", d.suppressionReason)] else [])

/-- The record of a draft. -/
def toJson (d : FindingDraft) : Except Failure Json := do
  let severity ← d.severity.get
  let confidence ← d.confidence.get
  let category ← d.category.get
  return .object (d.entriesWith severity confidence category)

def isSuppressed (d : FindingDraft) : Bool := d.suppressed.isFilled

/-- The drafts that a report shows. -/
def visible (includeSuppressed : Bool) (drafts : List FindingDraft) : List FindingDraft :=
  drafts.filter fun d => includeSuppressed || !d.isSuppressed

/-! ### Order -/

/-- Drafts are ordered by path, line, column and rule. -/
def sortKey (d : FindingDraft) : Json :=
  .array [d.location.path, d.location.startLine, d.location.startColumn, d.ruleId]

/-- Whether `a` comes no later than `b`. -/
def comesBefore (a b : FindingDraft) : Bool :=
  match b.sortKey.less a.sortKey with
  | .ok later => !later
  | .error _ => true

/-- Fails unless each two neighbours can be compared. -/
def checkOrder : List FindingDraft → Except Failure Unit
  | d :: e :: rest => do
      let _ ← e.sortKey.less d.sortKey
      checkOrder (e :: rest)
  | _ => .ok ()

/-- Drafts in order; those that compare equal keep their order. If there are two that
cannot be compared, there are such among neighbours, because whatever stands between two
of them cannot be compared with both. -/
def sort (drafts : List FindingDraft) : Except Failure (List FindingDraft) := do
  let sorted := drafts.mergeSort comesBefore
  checkOrder sorted
  return sorted

end FindingDraft

end QueryLint
