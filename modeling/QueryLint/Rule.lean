import QueryLint.Candidate
import QueryLint.Context
import QueryLint.Finding.Record
import QueryLint.Log
import QueryLint.Template.Fill

/-!
# Rules

A rule has a descriptor, which says what its findings have in common, and an
analysis of one file. An analysis reports a finite list of findings and then either
is done, fails or is interrupted.
-/

namespace QueryLint

structure Descriptor where
  ruleId : String
  name : String
  description : String
  severity : Severity
  confidence : Confidence
  category : Category := .sqlSyntax
  languages : List String
  /-- A template for the message of a finding. -/
  messageFormat : String := "\x7b0\x7d"
  tags : List String := []
  references : List String := []
  enabledByDefault : Bool := true

namespace Descriptor

/-- Languages are compared without regard to case; a star stands for all. -/
def supports (d : Descriptor) (language : String) : Bool :=
  d.languages.contains "*" || (d.languages.map Text.lower).contains (Text.lower language)

/-- The message of a finding: the template filled in. -/
def describe (d : Descriptor) (message : Datum) : Except Failure String :=
  match Template.fill d.messageFormat message with
  | .error fault => .error (.template fault)
  | .ok description => .ok description

/-- A finding of the rule. -/
def finding (d : Descriptor) (location : Location) (message : Datum) (snippet : Option Snippet)
    (metadata : List (String × Json)) : Except Failure Finding := do
  let description ← d.describe message
  return {
    ruleId := d.ruleId
    title := d.name
    description
    severity := d.severity
    confidence := d.confidence
    category := d.category
    location
    snippet
    language := "unknown"
    tags := d.tags
    metadata
    suppressed := false
    suppressionReason := none }

/-- The draft of a finding of the rule. Empty metadata of any kind count as none. -/
def draft (d : Descriptor) (location : LocationDraft) (message : Datum)
    (snippet : Option SnippetDraft) (metadata : Json) : Except Failure FindingDraft := do
  let description ← d.describe message
  return {
    ruleId := .string d.ruleId
    title := .string d.name
    description := .string description
    severity := .member d.severity
    confidence := .member d.confidence
    category := .member d.category
    location
    snippet
    language := .string "unknown"
    tags := .strings d.tags
    metadata := metadata.orElse (.object [])
    suppressed := .bool false
    suppressionReason := .null }

end Descriptor

/-- How an analysis ends. -/
inductive Ending where
  | done
  | failed (message : String)
  | interrupted
deriving DecidableEq

structure Analysis where
  findings : List Finding := []
  ending : Ending := .done
  log : List LogEntry := []
  /-- The texts put to the grammar, in order. -/
  asked : List String := []

structure Rule where
  descriptor : Descriptor
  markers : Option MarkerSettings
  analyze : Context → Analysis

/-- What looking at one node led to. -/
structure Check where
  finding : Option Finding := none
  log : List LogEntry := []
  asked : List String := []
  interrupted : Bool := false

namespace Analysis

/-- The analysis made of the checks of nodes in order. Nothing happens after an
interruption. -/
def ofChecks : List Check → Analysis
  | [] => {}
  | c :: rest =>
      if c.interrupted then
        { findings := c.finding.toList, ending := .interrupted, log := c.log, asked := c.asked }
      else
        let tail := ofChecks rest
        { findings := c.finding.toList ++ tail.findings
          ending := tail.ending
          log := c.log ++ tail.log
          asked := c.asked ++ tail.asked }

end Analysis

end QueryLint
