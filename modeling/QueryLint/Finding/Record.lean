import QueryLint.Draft.Basic
import QueryLint.Json.Indent

/-!
# Findings as records

A finding is written as its draft is. Reading a record gives a finding if every field
of its draft has a value of the right kind.
-/

namespace QueryLint

namespace Location

def draft (l : Location) : LocationDraft where
  path := .string l.path
  startLine := .int l.span.startLine
  endLine := .int l.span.endLine
  startColumn := .int l.span.startColumn
  endColumn := .int l.span.endColumn

def toJson (l : Location) : Json := l.draft.toJson

end Location

namespace Snippet

def draft (s : Snippet) : SnippetDraft where
  code := .string s.code
  line := .int s.line
  before := .strings s.before
  after := .strings s.after

def toJson (s : Snippet) : Json := s.draft.toJson

end Snippet

namespace Finding

def draft (f : Finding) : FindingDraft where
  ruleId := .string f.ruleId
  title := .string f.title
  description := .string f.description
  severity := .member f.severity
  confidence := .member f.confidence
  category := .member f.category
  location := f.location.draft
  snippet := f.snippet.map Snippet.draft
  language := .string f.language
  tags := .strings f.tags
  metadata := .object f.metadata
  suppressed := .bool f.suppressed
  suppressionReason := .ofOption f.suppressionReason

def toEntries (f : Finding) : List (String × Json) :=
  f.draft.entriesWith f.severity f.confidence f.category

def toJson (f : Finding) : Json := .object f.toEntries

/-- The text of a finding's record with an indentation, if there is room for it. -/
def write (indent : Option Int) (f : Finding) (room : Int := Text.usualRoom) :
    Except Failure String :=
  f.toJson.writeUnder (Json.Layout.ofJson (indent.elim .null .int) room)

end Finding

/-! ### Drafts that are findings -/

namespace Json

def text? : Json → Option String
  | string s => some s
  | _ => none

def int? : Json → Option Int
  | int n => some n
  | _ => none

def bool? : Json → Option Bool
  | bool b => some b
  | _ => none

def texts? : Json → Option (List String)
  | array items => items.mapM text?
  | _ => none

def entries? : Json → Option (List (String × Json))
  | object entries => some entries
  | _ => none

/-- A text or nothing. -/
def optionalText? : Json → Option (Option String)
  | null => some none
  | string s => some (some s)
  | _ => none

end Json

def LocationDraft.location? (d : LocationDraft) : Option Location := do
  return ⟨← d.path.text?, ⟨← d.startLine.int?, ← d.startColumn.int?, ← d.endLine.int?,
    ← d.endColumn.int?⟩⟩

def SnippetDraft.snippet? (d : SnippetDraft) : Option Snippet := do
  return ⟨← d.code.text?, ← d.line.int?, ← d.before.texts?, ← d.after.texts?⟩

/-- The finding that a draft describes. -/
def FindingDraft.finding? (d : FindingDraft) : Option Finding := do
  return {
    ruleId := ← d.ruleId.text?
    title := ← d.title.text?
    description := ← d.description.text?
    severity := ← d.severity.get?
    confidence := ← d.confidence.get?
    category := ← d.category.get?
    location := ← d.location.location?
    snippet := ← match d.snippet with
      | some s => some <$> s.snippet?
      | none => some none
    language := ← d.language.text?
    tags := ← d.tags.texts?
    metadata := ← d.metadata.entries?
    suppressed := ← d.suppressed.bool?
    suppressionReason := ← d.suppressionReason.optionalText? }

/-- The finding that a record describes. -/
def Finding.ofJson? (j : Json) : Option Finding :=
  match FindingDraft.ofJson j with
  | .ok d => d.finding?
  | .error _ => none

end QueryLint
