import QueryLint.Proofs.Source.TextLines.Strings

/-!
# The lines of texts in expressions

Rule by rule: if the rules one level further in keep the window, so does the rule itself. What
is left to show of a rule, once the rules that it calls are taken care of, is that its result
is put together from results within the window; the lemmas about trees and lists settle this.
Only strings bring in lines of their own.
-/

namespace QueryLint.Source

open Std.Do Parse

set_option mvcgen.warning false

variable [Window]

instance : HasTexts Arguments :=
  ⟨fun args => InWindow args.positional ∧ InWindow args.keywords ∧
    ∀ k ∈ args.keywords, k.form = .keyword⟩

instance : HasTexts Parameters := ⟨fun ps => InWindow ps.node⟩

instance : HasTexts ParameterState := ⟨fun s => InWindow s.read⟩

@[simp, grind =] theorem within_arguments {args : Arguments} :
    InWindow args ↔ InWindow args.positional ∧ InWindow args.keywords ∧
      ∀ k ∈ args.keywords, k.form = .keyword := Iff.rfl

@[simp, grind =] theorem within_parameters {ps : Parameters} :
    InWindow ps ↔ InWindow ps.positionalOnly ∧ InWindow ps.positional ∧ InWindow ps.rest ∧
      InWindow ps.keywordOnly ∧ InWindow ps.keywordDefaults ∧ InWindow ps.keywordRest ∧
      InWindow ps.defaults := by
  change InWindow ps.node ↔ _
  simp [Parameters.node]

@[simp, grind =] theorem within_parametersNode {ps : Parameters} :
    InWindow ps.node ↔ InWindow ps := Iff.rfl

@[simp, grind =] theorem within_parameterState {s : ParameterState} :
    InWindow s ↔ InWindow s.read := Iff.rfl

theorem within_add {s t : ParameterState} {p : Ast} {value : Option Ast} (hs : InWindow s)
    (hp : InWindow p) (hvalue : InWindow value) (h : s.add p value = some t) : InWindow t := by
  unfold ParameterState.add at h
  split at h <;> cases h <;> simp_all

omit [Window] in
theorem numberValue_ne_text {cs : List Char} {s : String} : numberValue cs ≠ some (.text s) := by
  have hdecimal : ∀ ds, numberValue.decimal ds ≠ some (.text s) := by
    intro ds
    unfold numberValue.decimal
    split_ifs <;> simp
  simp only [numberValue]
  split
  · split_ifs <;> simp [hdecimal]
  · exact hdecimal _

variable [Origin]

@[spec] theorem keeps_nameAtom : Keeps nameAtom := by
  mvcgen [nameAtom] with grind [nameNode, within_name]

@[spec] theorem keeps_leftGrouped_more (operator? : Sign → Option String) (operand : Parse Ast)
    (hoperand : Keeps operand) (first : Place) (n : Nat) (left : Ast) (hleft : InWindow left) :
    Keeps (leftGrouped.more operator? operand first n left) := by
  induction n generalizing left with
  | zero => mvcgen [leftGrouped.more]
  | succ n ih => mvcgen [leftGrouped.more, hoperand, ih] with grind

@[spec] theorem keeps_leftGrouped (operator? : Sign → Option String) (operand : Parse Ast)
    (hoperand : Keeps operand) : Keeps (leftGrouped operator? operand) := by
  mvcgen [leftGrouped, hoperand] with grind

@[spec] theorem keeps_comparison? : Keeps comparison? := by
  mvcgen [comparison?, comparison?.read] with grind

@[spec] theorem keeps_starred (operand : Parse Ast) (hoperand : Keeps operand) :
    Keeps (starred operand) := by
  mvcgen [starred, hoperand] with grind

@[spec] theorem keeps_bareTuple (starts : Kind → Bool) (element : Parse Ast)
    (helement : Keeps element) : Keeps (bareTuple starts element) := by
  mvcgen [bareTuple, helement] with grind

section

variable {inner : Inner} (h : ∀ [Origin] r, Keeps (inner r))
include h

@[spec] theorem keeps_named : Keeps (named inner) := by
  mvcgen [named, h] with grind

@[spec] theorem keeps_starNamed : Keeps (starNamed inner) := by
  mvcgen [starNamed, h] with grind

@[spec] theorem keeps_starExpression : Keeps (starExpression inner) := by
  mvcgen [starExpression, h] with grind

@[spec] theorem keeps_yieldExpression : Keeps (yieldExpression inner) := by
  mvcgen [yieldExpression, h] with grind

@[spec] theorem keeps_target : Keeps (target inner) := by
  mvcgen [target, h] with grind

@[spec] theorem keeps_targets : Keeps (targets inner) := by
  mvcgen [targets, h]

@[spec] theorem keeps_clauseBody : Keeps (clause?.body inner) := by
  mvcgen [clause?.body, h] with grind

@[spec] theorem keeps_clause? : Keeps (clause? inner) := by
  mvcgen [clause?, h] with grind

@[spec] theorem keeps_clauses : Keeps (clauses inner) := by
  mvcgen [clauses, h]

omit h in
@[spec] theorem keeps_afterArgument (more : ArgumentStage → Parse Arguments)
    (hmore : ∀ stage, Keeps (more stage)) (stage : ArgumentStage) :
    Keeps (afterArgument more stage) := by
  mvcgen [afterArgument, hmore] with grind

@[spec] theorem keeps_argumentsFrom (n : Nat) (stage : ArgumentStage) :
    Keeps (argumentsFrom inner n stage) := by
  induction n generalizing stage with
  | zero => mvcgen [argumentsFrom]
  | succ n ih =>
    mvcgen [argumentsFrom, h, ih] with grind [Arguments.withPositional, Arguments.withKeyword]

@[spec] theorem keeps_arguments : Keeps (arguments inner) := by
  mvcgen [arguments, h] with grind

@[spec] theorem keeps_parameter (annotated starAllowed : Bool) :
    Keeps (parameter inner annotated starAllowed) := by
  mvcgen [parameter, h] with grind

@[spec] theorem keeps_default? : Keeps (default? inner) := by
  mvcgen [default?, h] with grind

omit h in
@[spec] theorem keeps_afterParameter (close : Sign) (more : ParameterState → Parse Parameters)
    (hmore : ∀ s, InWindow s → Keeps (more s)) (s : ParameterState) (hs : InWindow s) :
    Keeps (afterParameter close more s) := by
  mvcgen [afterParameter, hmore] with grind

@[spec] theorem keeps_parametersFrom (annotated : Bool) (close : Sign) (n : Nat)
    (s : ParameterState) (hs : InWindow s) : Keeps (parametersFrom inner annotated close n s) := by
  induction n generalizing s with
  | zero => mvcgen [parametersFrom]
  | succ n ih => mvcgen [parametersFrom, h, ih] with grind [within_add]

@[spec] theorem keeps_parameters (annotated : Bool) (close : Sign) :
    Keeps (parameters inner annotated close) := by
  mvcgen [parameters, h] with grind

@[spec] theorem keeps_bound? : Keeps (index.bound? inner) := by
  mvcgen [index.bound?, h] with grind

@[spec] theorem keeps_index : Keeps (index inner) := by
  mvcgen [index, h] with grind

@[spec] theorem keeps_indices : Keeps (indices inner) := by
  mvcgen [indices, h] with grind

@[spec] theorem keeps_parenthesized (first : Place) : Keeps (parenthesized inner first) := by
  mvcgen [parenthesized, h] with grind

@[spec] theorem keeps_bracketed (first : Place) : Keeps (bracketed inner first) := by
  mvcgen [bracketed, h] with grind

@[spec] theorem keeps_entry : Keeps (entry inner) := by
  mvcgen [entry, h] with grind

omit h in
@[spec] theorem keeps_dictNode (first : Place) (entries : List (Option Ast × Ast))
    (hentries : InWindow entries) : Keeps (dictNode first entries) := by
  mvcgen [dictNode] with grind [within_map_fst, within_map_snd]

@[spec] theorem keeps_restOfDict (first : Place) (e : Option Ast × Ast) (he : InWindow e) :
    Keeps (braced.restOfDict inner first e) := by
  mvcgen [braced.restOfDict, h] with grind

@[spec] theorem keeps_braced (first : Place) : Keeps (braced inner first) := by
  mvcgen [braced, h] with grind

omit h in
@[spec] theorem keeps_constant (value : Value) (hvalue : ∀ s, value ≠ .text s) :
    Keeps (constant value) := by
  mvcgen [constant, buildValue, extentFrom] with grind [within_constant]

omit h in
@[spec] theorem keeps_numberAtom : Keeps numberAtom := by
  mvcgen [numberAtom, buildValue, extentFrom] with grind [within_constant, numberValue_ne_text]

@[spec] theorem keeps_atom : Keeps (atom inner) := by
  mvcgen [atom, h] with grind

omit [Window] [Origin] h in
/-- The fields that a call is built with hold its named arguments. -/
theorem namesArguments_of_call (callee : Ast) (args : List Ast) {keywords : List Ast}
    (hkeywords : ∀ k ∈ keywords, k.form = .keyword) :
    (Fields.child "func" callee <| .list "args" args <|
      .list "keywords" keywords .nil).NamesArguments := by
  intro held hheld k hk
  have hheld : held = (Items.ofList keywords).kept := by
    rw [Fields.kept, Fields.list, Fields.kept, Fields.list, Fields.kept, Fields.kept] at hheld
    split_ifs at hheld <;> simpa using hheld
  exact hkeywords k ((Items.kept_ofList_sublist keywords).mem (hheld ▸ hk))

omit h in
@[spec] theorem keeps_callNode (first : Place) (callee : Ast) (args : Arguments)
    (hcallee : InWindow callee) (hargs : InWindow args) : Keeps (callNode first callee args) := by
  obtain ⟨hpositional, hkeywords, hforms⟩ := within_arguments.1 hargs
  have hnames := namesArguments_of_call callee args.positional hforms
  unfold callNode build
  mvcgen with grind

@[spec] theorem keeps_callOf (first : Place) (callee : Ast) (hcallee : InWindow callee) :
    Keeps (callOf inner first callee) := by
  mvcgen [callOf, h] with grind [Arguments.withPositional]

@[spec] theorem keeps_trailers (first : Place) (hfirst : InWindow first)
    (hstarts : Origin.StartsAt first) (n : Nat) (a : Ast) (ha : InWindow a) :
    Keeps (trailers inner first n a) := by
  induction n generalizing a with
  | zero => mvcgen [trailers]
  | succ n ih => mvcgen [trailers, h, ih] with grind

@[spec] theorem keeps_primary : Keeps (primary inner) := by
  refine keeps_here_bind fun first hfirst hstarts => ?_
  mvcgen [h] with grind

@[spec] theorem keeps_power : Keeps (power inner) := by
  mvcgen [power, h] with grind

@[spec] theorem keeps_factor : Keeps (factor inner) := by
  mvcgen [factor, h] with grind

@[spec] theorem keeps_bitOr : Keeps (bitOr inner) := by
  mvcgen [bitOr, h]

@[spec] theorem keeps_comparison : Keeps (comparison inner) := by
  have hoperators : ∀ steps : List (String × Ast),
      InWindow (steps.map fun step => Ast.operator step.1) :=
    fun steps => List.forall_mem_map.2 fun step _ => within_operator step.1
  mvcgen [comparison, h] with grind [within_map_snd]

@[spec] theorem keeps_inversion : Keeps (inversion inner) := by
  mvcgen [inversion, h] with grind

omit h in
@[spec] theorem keeps_logical (w : Word) (name : String) (operand : Parse Ast)
    (hoperand : Keeps operand) : Keeps (logical w name operand) := by
  mvcgen [logical, hoperand] with grind

@[spec] theorem keeps_disjunction : Keeps (disjunction inner) := by
  mvcgen [disjunction, h]

@[spec] theorem keeps_lambdaExpression : Keeps (lambdaExpression inner) := by
  mvcgen [lambdaExpression, h] with grind

@[spec] theorem keeps_expression : Keeps (expression inner) := by
  mvcgen [expression, h] with grind

theorem keeps_body (rule : Rule) : Keeps (rule.body inner) := by
  cases rule <;> mvcgen [Rule.body, h]

end

/-- The rules of expressions keep all texts within the window, however deep they nest. -/
theorem keeps_expressionRule (n : Nat) (rule : Rule) : Keeps (expressionRule n rule) := by
  induction n generalizing ‹Origin› rule with
  | zero => mvcgen [expressionRule]
  | succ n ih => exact keeps_body (ih ·) rule

end QueryLint.Source
