import QueryLint.Datum.Shape
import QueryLint.Rule
import QueryLint.Text.CodePoint

/-!
# The registry of rules

Rules are registered under their identifiers; a later registration replaces an
earlier one. An identifier once registered as enabled by default stays so.
-/

namespace QueryLint

/-- A kind of rule: what its descriptor is, and how it is made for given settings. -/
structure RuleClass where
  descriptor : Descriptor
  make : Datum → Except Failure Rule

/-- Identifiers that settings list, and the other things listed beside them. -/
structure Selection where
  ids : List String
  others : List Datum

namespace Selection

def none : Selection := ⟨[], []⟩

/-- Items of a list of settings. Lists and mappings cannot be told apart as items. -/
def ofItems : List Datum → Except Failure Selection
  | [] => .ok ⟨[], []⟩
  | .text s :: rest => do
      let tail ← ofItems rest
      return ⟨s :: tail.ids, tail.others⟩
  | d :: rest =>
      if !d.isHashable then .error (.unhashable d.typeName)
      else do
        let tail ← ofItems rest
        return ⟨tail.ids, d :: tail.others⟩

def ofDatum (d : Datum) : Except Failure Selection := do ofItems (← d.items)

end Selection

structure Registry where
  classes : List (String × RuleClass)
  defaults : List String

namespace Registry

def empty : Registry := ⟨[], []⟩

def register (r : Registry) (c : RuleClass) : Registry where
  classes := Json.setKey c.descriptor.ruleId c r.classes
  defaults :=
    if c.descriptor.enabledByDefault && !r.defaults.contains c.descriptor.ruleId then
      r.defaults ++ [c.descriptor.ruleId]
    else r.defaults

def find? (r : Registry) (id : String) : Option RuleClass := r.classes.lookup id

/-- A list without repetitions. -/
def distinct : List String → List String
  | [] => []
  | id :: rest => if rest.contains id then distinct rest else id :: distinct rest

/-- Texts in ascending order without repetitions. -/
def sortIds (ids : List String) : List String :=
  (distinct ids).mergeSort Text.comesNoLater

def ruleIds (r : Registry) : List String := sortIds (r.classes.map Prod.fst)

def count (r : Registry) : Nat := r.classes.length

def isDefault (r : Registry) (id : String) : Bool := r.defaults.contains id

/-- The identifiers that are active: enabled by default or by the settings, and not
disabled. They need not be registered. -/
def activeIds (r : Registry) (enabled disabled : List String) : List String :=
  sortIds ((r.defaults ++ enabled).filter fun id => !disabled.contains id)

/-- The classes of the active rules, in ascending order of their identifiers. -/
def active (r : Registry) (enabled disabled : List String) : List RuleClass :=
  (r.activeIds enabled disabled).filterMap r.find?

def isNumber : Datum → Bool
  | .int _ | .float _ | .bool _ => true
  | _ => false

mutual

/-- Why there is no order between two things. Things of one kind have one, except that a clock
that says how far it is off cannot be compared with one that does not. -/
def orderFault? : Datum → Datum → Option Failure
  | .text _, .text _ | .bytes _, .bytes _ | .date _, .date _ => none
  | .moment a, .moment b =>
      if a.offset.isSome = b.offset.isSome then none else some .unorderedClocks
  | .moment _, .date _ | .date _, .moment _ => some .unorderedDay
  | .tuple as, .tuple bs => itemsFault? as bs
  | a, b => if isNumber a && isNumber b then none else some (.unordered "<" a.typeName b.typeName)

/-- Rows are compared where they first differ. -/
def itemsFault? : List Datum → List Datum → Option Failure
  | a :: as, b :: bs => if a.sameKey b then itemsFault? as bs else orderFault? a b
  | _, _ => none

end

/-- Things that are not texts cannot be put in order with texts, and among themselves only if
any two that differ can. -/
def checkOrder (ids : List String) : List Datum → Except Failure Unit
  | [] => .ok ()
  | d :: rest =>
      if !ids.isEmpty then .error (.unordered "<" d.typeName "str")
      else
        match rest.findSome? fun other => itemsFault? [d] [other] with
        | some failure => .error failure
        | none => checkOrder ids rest

/-- The active rules, made for the given settings. -/
def create (r : Registry) (settings : Datum) (enabled disabled : Selection) :
    Except Failure (List Rule) := do
  let others := enabled.others.filter fun j => !disabled.others.any (Datum.sameKey j)
  checkOrder (r.activeIds enabled.ids disabled.ids) others
  (r.active enabled.ids disabled.ids).mapM fun c => c.make settings

end Registry

end QueryLint
