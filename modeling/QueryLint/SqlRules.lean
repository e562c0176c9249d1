import QueryLint.Grammar.Dialect
import QueryLint.Grammar.Validator
import QueryLint.Registry
import QueryLint.Resolution

/-!
# The rules about SQL

Two rules share one procedure: find candidate sites, resolve their texts, ask the
validator, and report its messages at the place where the text was written. They
differ in where the text comes from: the first takes literals at the site itself,
the second those that were traced through a name.
-/

namespace QueryLint.SqlRules

def literalDescriptor : Descriptor where
  ruleId := "SQL-SYNTAX-001"
  name := "Illegal SQL"
  description := "SQL command text written as a string literal is not valid SQL."
  severity := .error
  confidence := .high
  languages := ["python"]
  tags := ["sql", "syntax"]

def tracedDescriptor : Descriptor where
  ruleId := "SQL-SYNTAX-002"
  name := "Illegal SQL (traced)"
  description := "SQL command text assigned to a local name and used as a command is not valid SQL."
  severity := .error
  confidence := .medium
  languages := ["python"]
  tags := ["sql", "syntax", "traced"]

def descriptor : Origin → Descriptor
  | .literal => literalDescriptor
  | .traced => tracedDescriptor

/-! ### Reports -/

def metadata (text : ResolvedText) (errors : List String) : List (String × Json) :=
  [("sql", .string text.sql), ("origin", .string text.origin.label), ("errors", .strings errors)] ++
    match text.identifier with
    | some name => if name.isEmpty then [] else [("identifier", .string name)]
    | none => []

/-- The report about a text with the given errors; none if there are none. All
errors stand in one finding, a line each. -/
def report (text : ResolvedText) (errors : List String) (context : Context) :
    Except Failure (Option Finding) :=
  if errors.isEmpty then .ok none
  else
    some <$> (descriptor text.origin).finding (context.locate text.anchor)
      (.text (Text.joinWith "\n" errors)) (some (context.snippet text.anchor.startLine Context.snippetSize))
      (metadata text errors)

/-! ### Checking nodes -/

/-- A node that could not be checked is passed over with a warning. -/
def skip (origin : Origin) (context : Context) (site : Visit) (log : List LogEntry)
    (asked : List String) : Check where
  log := log ++ [⟨.warning, .rules, (descriptor origin).ruleId ++ " failed on " ++ context.path ++ ":" ++
    toString site.node.span.startLine ++ "; node skipped"⟩]
  asked := asked

/-- Validates a text and reports about it. -/
def checkText (origin : Origin) (validator : Validator) (context : Context) (site : Visit)
    (text : ResolvedText) : Check :=
  let log := validator.log text.sql
  match validator.validate text.sql with
  | .interrupted => { log, asked := [text.sql], interrupted := true }
  | .crashed _ => skip origin context site log [text.sql]
  | .messages errors =>
      match report text errors context with
      | .error _ => skip origin context site log [text.sql]
      | .ok finding => { finding, log, asked := [text.sql] }

/-- Detects, resolves and validates at one node. -/
def checkNode (origin : Origin) (markers : Markers) (validator : Validator) (context : Context)
    (lines : List (List Char)) (site : Visit) : Check :=
  match Candidate.detect? lines markers site with
  | none => {}
  | some candidate =>
      let resolution := Resolution.resolve lines candidate.expression.node
        (context.tokensIn candidate.block)
      match resolution with
      | .declined _ => { log := resolution.log }
      | .failed _ => skip origin context site resolution.log []
      | .found text =>
          if text.origin = origin then checkText origin validator context site text
          else { log := resolution.log }

/-- Checks one node; one at which looking for marks fails is passed over. -/
def checkSite (origin : Origin) (settings : MarkerSettings) (validator : Validator)
    (context : Context) (lines : List (List Char)) (site : Visit) : Check :=
  if Candidate.isUndecided lines settings site then skip origin context site [] []
  else checkNode origin settings.markers validator context lines site

/-- Checks all candidate sites of a file. -/
def analyze (origin : Origin) (settings : MarkerSettings) (validator : Validator)
    (context : Context) : Analysis :=
  let lines := match context.document with
    | some d => d.lines
    | none => []
  .ofChecks ((context.traverse (some Candidate.siteKinds)).map
    (checkSite origin settings validator context lines))

def rule (origin : Origin) (settings : MarkerSettings) (validator : Validator) : Rule where
  descriptor := descriptor origin
  markers := some settings
  analyze := analyze origin settings validator

/-! ### Settings -/

/-- The marks that a setting lists, or the given ones if it is empty. -/
def marksOf (d : Datum) (default : List String) : Except Failure MarkList :=
  if !d.isFilled then .ok ⟨default, []⟩ else do return .ofItems (← d.items)

/-- The markers in the settings; missing or empty ones are the default ones. -/
def markersOf (settings : Datum) : Except Failure MarkerSettings := do
  let section_ := (← (settings.orElse (.mapping [])).member "markers").orElse (.mapping [])
  let constructors ← section_.member "constructors"
  let properties ← section_.member "properties"
  return ⟨← marksOf constructors Markers.default.constructors,
    ← marksOf properties Markers.default.properties⟩

/-- Where a rule's validator comes from. -/
inductive Judge where
  /-- From the dialect in the settings, given the grammar. -/
  | configured (grammar : Grammar)
  /-- From the caller; the dialect is not looked at. -/
  | given (validator : Validator)

def Judge.validator (judge : Judge) (settings : Datum) : Except Failure Validator :=
  match judge with
  | .given v => .ok v
  | .configured grammar => do
      let dialect ← Dialect.ofSetting (← settings.member "dialect")
      return .ofGrammar dialect grammar

def ruleClass (judge : Judge) (origin : Origin) : RuleClass where
  descriptor := descriptor origin
  make settings := do
    let markers ← markersOf settings
    let validator ← judge.validator settings
    return rule origin markers validator

/-- The registry of the rules about SQL. -/
def registry (judge : Judge) : Registry :=
  (Registry.empty.register (ruleClass judge .literal)).register (ruleClass judge .traced)

end QueryLint.SqlRules
