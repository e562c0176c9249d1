import QueryLint.Rule

/-!
# Running rules over a file

The rules are run one after another. A rule that fails keeps what it reported
before, and the others are not affected. Findings below the threshold are dropped,
and those on covered lines are marked as suppressed.
-/

namespace QueryLint

/-- What scanning one file led to. -/
structure Outcome where
  findings : List Finding := []
  errors : List String := []
  log : List LogEntry := []
  asked : List String := []
  /-- What stopped the scan, if it was not brought to an end. -/
  stopped : Option Failure := none

namespace Engine

def suppressionReason : String := "Inline suppression comment"

/-- A finding as it is kept: in the language of the file, and suppressed if its
line is covered. -/
def settle (context : Context) (f : Finding) : Finding :=
  let f := { f with language := context.language }
  if context.isSuppressed f.location.span.startLine then
    { f with suppressed := true, suppressionReason := some suppressionReason }
  else f

/-- The findings of an analysis that reach the threshold. -/
def keep (threshold : Severity) (context : Context) (findings : List Finding) : List Finding :=
  (findings.map (settle context)).filter fun f => threshold ≤ f.severity

def failureText (ruleId path message : String) : String :=
  "Error running rule " ++ ruleId ++ " on " ++ path ++ ": " ++ message

/-- The outcomes of the rules in order, not yet sorted. -/
def collect (threshold : Severity) (context : Context) : List Rule → Outcome
  | [] => {}
  | r :: rest =>
      if !r.descriptor.supports context.language then collect threshold context rest
      else
        let a := r.analyze context
        let findings := keep threshold context a.findings
        match a.ending with
        | .interrupted => { findings, log := a.log, asked := a.asked, stopped := some .interrupted }
        | ending =>
            let tail := collect threshold context rest
            let (errors, log) := match ending with
              | .failed message =>
                  ([failureText r.descriptor.ruleId context.path message],
                    [LogEntry.mk .error .engine
                      ("Rule " ++ r.descriptor.ruleId ++ " failed on " ++ context.path)])
              | _ => ([], [])
            { findings := findings ++ tail.findings
              errors := errors ++ tail.errors
              log := a.log ++ log ++ tail.log
              asked := a.asked ++ tail.asked
              stopped := tail.stopped }

/-- Runs the rules that support the language of the file. -/
def runRules (threshold : Severity) (rules : List Rule) (context : Context) : Outcome :=
  let all := collect threshold context rules
  { all with findings := Finding.sort all.findings }

/-- The document that a source is read as, under a language's name. -/
def read (language path content : String) (limits : Document.Limits := .usual) :
    Except Failure (Option Document) :=
  match Language.ofName? language with
  | some l => Document.read l path content limits
  | none => .ok none

def contextOf (language path : String) (d : Document) : Context where
  path := path
  content := d.source
  language := language
  document := some d

/-- Runs the rules on a source that has been read, or reports that it could not be. -/
def scanParsed (threshold : Severity) (rules : List Rule) (language path : String)
    (parsed : Option Document) : Outcome :=
  match parsed with
  | some d => runRules threshold rules (contextOf language path d)
  | none => {
      errors := ["Could not parse " ++ path]
      log :=
        if (Language.ofName? language).isSome then [⟨.debug, .reading, "Cannot parse " ++ path⟩]
        else [] }

/-- Scans a source text. -/
def scanText (threshold : Severity) (rules : List Rule) (language path content : String)
    (limits : Document.Limits := .usual) : Outcome :=
  match read language path content limits with
  | .ok parsed => scanParsed threshold rules language path parsed
  | .error failure => { stopped := some failure }

end Engine

end QueryLint
