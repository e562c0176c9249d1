import QueryLint.SqlRules

/-!
# What a check of one node comes to

A check of a node is settled by two things: the text behind the candidate at the node,
if there is one, and the verdict of the validator on it. A crash of the validator and a
verdict without messages come to the same. The lemmas below give the finding of a check
and whether it was interrupted; the log is left aside.
-/

namespace QueryLint

theorem Template.fillFrom_nil (argument : Datum) (levels fuel : Nat) (numbering : Numbering) :
    fillFrom argument (levels + 1) fuel [] numbering = .ok ([], numbering) := by
  cases fuel with
  | zero => rfl
  | succ fuel => rfl

/-- The template of a single field is filled in with the text itself, whatever it holds. -/
theorem Template.fill_bare_field (m : String) : fill "\x7b0\x7d" (.text m) = .ok m := by
  have hfield : fillFrom (.text m) 2 4 ['\x7b', '0', '\x7d'] .unset = .ok (m.toList, .manual) := by
    have hpiece : readPiece ['\x7b', '0', '\x7d'] = .ok (some (.field ⟨['0'], none, []⟩, [])) := rfl
    have hsubject : subjectOf (.text m) ['0'] .unset = .ok (.datum (.text m), .manual) := rfl
    have hshown : show_ [] (.datum (.text m)) = .ok m.toList := rfl
    rw [fillFrom, hpiece]
    simp only [bind, Except.bind, hsubject, convert, List.contains_nil, Bool.false_eq_true,
      ↓reduceIte, pure, Except.pure, hshown, fillFrom_nil, List.append_nil]
  have htemplate : "\x7b0\x7d".toList = ['\x7b', '0', '\x7d'] := rfl
  rw [fill, htemplate]
  simp only [List.length_cons, List.length_nil, hfield, bind, Except.bind, pure, Except.pure,
    String.ofList_toList]

namespace SqlRules

theorem finding_descriptor (origin : Origin) (location : Location) (m : String)
    (snippet : Option Snippet) (metadata : List (String × Json)) :
    (descriptor origin).finding location (.text m) snippet metadata = .ok {
      ruleId := (descriptor origin).ruleId
      title := (descriptor origin).name
      description := m
      severity := .error
      confidence := (descriptor origin).confidence
      category := .sqlSyntax
      location
      snippet
      language := "unknown"
      tags := (descriptor origin).tags
      metadata
      suppressed := false
      suppressionReason := none } := by
  have hformat : (descriptor origin).describe (.text m) = .ok m := by
    cases origin <;> simp only [Descriptor.describe, descriptor, literalDescriptor,
      tracedDescriptor, Template.fill_bare_field]
  rw [Descriptor.finding, hformat]
  cases origin <;> rfl

/-- The text that a resolution has found. -/
def textOf? : Resolution → Option ResolvedText
  | .found text => some text
  | _ => none

/-- The text behind the candidate at a place, if there is a candidate and it has one. -/
def textAt? (markers : Markers) (context : Context) (lines : List (List Char)) (site : Visit) :
    Option ResolvedText := do
  let candidate ← Candidate.detect? lines markers site
  textOf? (Resolution.resolve lines candidate.expression.node (context.tokensIn candidate.block))

theorem exists_of_textAt? {markers : Markers} {context : Context} {lines : List (List Char)}
    {site : Visit} {text : ResolvedText} (h : textAt? markers context lines site = some text) :
    ∃ candidate, Candidate.detect? lines markers site = some candidate ∧
      Resolution.resolve lines candidate.expression.node (context.tokensIn candidate.block) =
        .found text := by
  obtain ⟨candidate, hcandidate, h⟩ := Option.bind_eq_some_iff.1 h
  refine ⟨candidate, hcandidate, ?_⟩
  cases hr : Resolution.resolve lines candidate.expression.node
      (context.tokensIn candidate.block) with
  | found t => rw [hr] at h; cases h; rfl
  | declined why => rw [hr] at h; cases h
  | failed why => rw [hr] at h; cases h

/-- A finding as a rule reports it: its language and its suppression are settled later. -/
def draftOf (context : Context) (text : ResolvedText) (errors : List String) : Finding where
  ruleId := (descriptor text.origin).ruleId
  title := (descriptor text.origin).name
  description := Text.joinWith "\n" errors
  severity := .error
  confidence := (descriptor text.origin).confidence
  category := .sqlSyntax
  location := context.locate text.anchor
  snippet := some (context.snippet text.anchor.startLine Context.snippetSize)
  language := "unknown"
  tags := (descriptor text.origin).tags
  metadata := metadata text errors
  suppressed := false
  suppressionReason := none

theorem report_eq (text : ResolvedText) (errors : List String) (context : Context) :
    report text errors context =
      .ok (if errors.isEmpty then none else some (draftOf context text errors)) := by
  unfold report
  split
  · rfl
  · rw [finding_descriptor]
    rfl

/-- A verdict as far as findings show it: a crash says no more than silence. -/
def audible : Verdict → Verdict
  | .crashed _ => .messages []
  | verdict => verdict

/-- The finding that a verdict on a text leads to. -/
def findingOf? (context : Context) (text : ResolvedText) : Verdict → Option Finding
  | .messages errors => if errors.isEmpty then none else some (draftOf context text errors)
  | _ => none

theorem findingOf?_audible (context : Context) (text : ResolvedText) (verdict : Verdict) :
    findingOf? context text (audible verdict) = findingOf? context text verdict := by
  cases verdict <;> rfl

theorem exists_of_findingOf? {context : Context} {text : ResolvedText} {verdict : Verdict}
    {f : Finding} (h : findingOf? context text verdict = some f) :
    ∃ errors, f = draftOf context text errors := by
  unfold findingOf? at h
  split at h
  next errors =>
    split at h
    · cases h
    · exact ⟨errors, (Option.some.inj h).symm⟩
  next => cases h

theorem audible_eq_interrupted {verdict : Verdict} :
    audible verdict = .interrupted ↔ verdict = .interrupted := by
  cases verdict <;> simp [audible]

theorem checkText_finding (origin : Origin) (validator : Validator) (context : Context)
    (site : Visit) (text : ResolvedText) :
    (checkText origin validator context site text).finding =
      findingOf? context text (validator.validate text.sql) := by
  unfold checkText
  cases validator.validate text.sql with
  | messages errors => simp only [report_eq, findingOf?]
  | crashed message => rfl
  | interrupted => rfl

theorem checkText_interrupted (origin : Origin) (validator : Validator) (context : Context)
    (site : Visit) (text : ResolvedText) :
    (checkText origin validator context site text).interrupted =
      decide (validator.validate text.sql = .interrupted) := by
  unfold checkText
  cases validator.validate text.sql with
  | messages errors => simp only [report_eq, reduceCtorEq, decide_false]
  | crashed message => rfl
  | interrupted => rfl

/-- The text that the rule of the given origin looks into at a place. -/
def ownTextAt? (origin : Origin) (markers : Markers) (context : Context)
    (lines : List (List Char)) (site : Visit) : Option ResolvedText :=
  (textAt? markers context lines site).filter (·.origin = origin)

theorem checkNode_outcome (origin : Origin) (markers : Markers) (validator : Validator)
    (context : Context) (lines : List (List Char)) (site : Visit) :
    (checkNode origin markers validator context lines site).finding =
        (ownTextAt? origin markers context lines site).bind
          (fun text => findingOf? context text (validator.validate text.sql)) ∧
      (checkNode origin markers validator context lines site).interrupted =
        (ownTextAt? origin markers context lines site).any
          (fun text => validator.validate text.sql = .interrupted) := by
  unfold checkNode ownTextAt? textAt?
  cases hc : Candidate.detect? lines markers site with
  | none => exact ⟨rfl, rfl⟩
  | some candidate =>
    simp only [Option.bind_eq_bind, Option.bind_some]
    cases hr : Resolution.resolve lines candidate.expression.node
        (context.tokensIn candidate.block) with
    | declined why => exact ⟨rfl, rfl⟩
    | failed why => exact ⟨rfl, rfl⟩
    | found text =>
      by_cases ho : text.origin = origin
      · simp [textOf?, ho, Option.filter, checkText_finding, checkText_interrupted]
      · simp [textOf?, ho, Option.filter]

end SqlRules

end QueryLint
