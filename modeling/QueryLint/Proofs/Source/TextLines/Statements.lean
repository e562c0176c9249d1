import QueryLint.Proofs.Source.TextLines.Expressions

/-!
# The lines of texts in statements

Patterns and statements, rule by rule as for expressions. Main statement: a whole source text
keeps the window, so that no text in its tree is on a line outside it.
-/

namespace QueryLint.Source

open Std.Do Parse

set_option mvcgen.warning false

variable [Window]

instance : HasTexts ClassArguments :=
  ⟨fun args => InWindow args.positional ∧ InWindow args.keywords⟩

@[simp, grind =] theorem within_classArguments {args : ClassArguments} :
    InWindow args ↔ InWindow args.positional ∧ InWindow args.keywords := Iff.rfl

omit [Window] in
theorem singleton?_ne_text {k : Kind} {s : String} : singleton? k ≠ some (.text s) := by
  unfold singleton?
  split <;> simp

variable [Origin]

@[spec] theorem keeps_captureTarget : Keeps captureTarget := by
  mvcgen [captureTarget] with grind

@[spec] theorem keeps_wildcard? : Keeps wildcard? := by
  mvcgen [wildcard?]

@[spec] theorem keeps_captureNode (first : Place) (pattern : Option Ast)
    (hpattern : InWindow pattern) : Keeps (captureNode first pattern) := by
  mvcgen [captureNode] with grind

@[spec] theorem keeps_plainNumber : Keeps plainNumber := by
  mvcgen [plainNumber] with grind

@[spec] theorem keeps_complexFrom (first : Place) (n real : Ast) (name : String)
    (hreal : InWindow real) : Keeps (signedNumber.complexFrom first n real name) := by
  mvcgen [signedNumber.complexFrom] with grind

@[spec] theorem keeps_signedNumber : Keeps signedNumber := by
  mvcgen [signedNumber] with grind

@[spec] theorem keeps_attributes (first : Place) (hfirst : InWindow first)
    (hstarts : Origin.StartsAt first) (n : Nat) (a : Ast) (d : Bool) (ha : InWindow a) :
    Keeps (dotted.attributes first n a d) := by
  induction n generalizing a d with
  | zero => mvcgen [dotted.attributes]
  | succ n ih => mvcgen [dotted.attributes, ih] with grind

@[spec] theorem keeps_dotted : Keeps dotted := by
  refine keeps_here_bind fun first hfirst hstarts => ?_
  mvcgen with grind

@[spec] theorem keeps_afterClassArgument (more : ClassStage → Parse ClassArguments)
    (hmore : ∀ stage, Keeps (more stage)) (stage : ClassStage) :
    Keeps (afterClassArgument more stage) := by
  mvcgen [afterClassArgument, hmore] with grind

@[spec] theorem keeps_starPattern : Keeps starPattern := by
  mvcgen [starPattern] with grind

@[spec] theorem keeps_sequenceNode (first : Place) (ps : List Ast) (hps : InWindow ps) :
    Keeps (sequenceNode first ps) := by
  mvcgen [sequenceNode] with grind

section

variable {inner : Inner} (h : ∀ [Origin] r, Keeps (inner r)) {self : Parse Ast} (hself : Keeps self)
include h hself

omit hself in
@[spec] theorem keeps_literal? : Keeps (literal? inner) := by
  mvcgen [literal?, h] with grind

omit h in
@[spec] theorem keeps_classArguments (n : Nat) (stage : ClassStage) :
    Keeps (classArguments self n stage) := by
  induction n generalizing stage with
  | zero => mvcgen [classArguments]
  | succ n ih => mvcgen [classArguments, hself, ih] with grind

omit h in
@[spec] theorem keeps_classPattern (first : Place) (cls : Ast) (hcls : InWindow cls) :
    Keeps (classPattern self first cls) := by
  mvcgen [classPattern, hself] with grind

omit h in
@[spec] theorem keeps_namePattern : Keeps (namePattern self) := by
  mvcgen [namePattern, hself] with grind

omit h in
@[spec] theorem keeps_maybeStar : Keeps (maybeStar self) := by
  mvcgen [maybeStar, hself] with grind

omit h in
@[spec] theorem keeps_parenthesizedPattern (first : Place) :
    Keeps (parenthesizedPattern self first) := by
  mvcgen [parenthesizedPattern, hself] with grind

omit h in
@[spec] theorem keeps_bracketedPattern (first : Place) : Keeps (bracketedPattern self first) := by
  mvcgen [bracketedPattern, hself] with grind

omit hself in
@[spec] theorem keeps_mappingKey : Keeps (mappingKey inner) := by
  mvcgen [mappingKey, h] with grind [singleton?_ne_text]

@[spec] theorem keeps_mappingEntries (n : Nat) : Keeps (mappingEntries inner self n) := by
  induction n with
  | zero => mvcgen [mappingEntries]
  | succ n ih => mvcgen [mappingEntries, h, hself, ih] with grind

@[spec] theorem keeps_mappingPattern (first : Place) :
    Keeps (mappingPattern inner self first) := by
  mvcgen [mappingPattern, h, hself] with grind [within_map_fst, within_map_snd]

@[spec] theorem keeps_closedPattern : Keeps (closedPattern inner self) := by
  mvcgen [closedPattern, h, hself] with grind

@[spec] theorem keeps_patternBody : Keeps (patternBody inner self) := by
  mvcgen [patternBody, h, hself] with grind

omit h in
@[spec] theorem keeps_casePattern : Keeps (casePattern self) := by
  mvcgen [casePattern, hself] with grind

omit hself in
theorem keeps_patternRule (n : Nat) : Keeps (patternRule inner n) := by
  induction n with
  | zero => mvcgen [patternRule]
  | succ n ih => exact keeps_patternBody h ih

end

section

variable {e : Inner} (h : ∀ [Origin] r, Keeps (e r))
include h

@[spec] theorem keeps_assigned : Keeps (assigned e) := by
  mvcgen [assigned, h] with grind

@[spec] theorem keeps_assignmentTail (n : Nat) (a : Ast) (ha : InWindow a) :
    Keeps (assignmentTail e n a) := by
  induction n generalizing a with
  | zero => mvcgen [assignmentTail]
  | succ n ih => mvcgen [assignmentTail, h, ih] with grind

@[spec] theorem keeps_expressionStatement : Keeps (expressionStatement e) := by
  mvcgen [expressionStatement, h] with grind

@[spec] theorem keeps_returnStatement (first : Place) : Keeps (returnStatement e first) := by
  mvcgen [returnStatement, h] with grind

@[spec] theorem keeps_raiseStatement (first : Place) : Keeps (raiseStatement e first) := by
  mvcgen [raiseStatement, h] with grind

@[spec] theorem keeps_deleteStatement (first : Place) : Keeps (deleteStatement e first) := by
  mvcgen [deleteStatement, h] with grind

@[spec] theorem keeps_assertStatement (first : Place) : Keeps (assertStatement e first) := by
  mvcgen [assertStatement, h] with grind

omit h

@[spec] theorem keeps_namesStatement (form : Form) (hform : form.IsPlain) (first : Place) :
    Keeps (namesStatement form first) := by
  mvcgen [namesStatement] with grind

@[spec] theorem keeps_moduleName : Keeps moduleName := by
  mvcgen [moduleName] with grind

@[spec] theorem keeps_importedAs (thing : Parse Unit) (hthing : Keeps thing) :
    Keeps (importedAs thing) := by
  mvcgen [importedAs, hthing] with grind [aliasFields]

@[spec] theorem keeps_importStatement (first : Place) : Keeps (importStatement first) := by
  mvcgen [importStatement] with grind

@[spec] theorem keeps_importedName : Keeps importedName := by
  mvcgen [importedName] with grind

@[spec] theorem keeps_relativeDots : Keeps relativeDots := by
  mvcgen [relativeDots] with grind

@[spec] theorem keeps_importFromStatement (first : Place) : Keeps (importFromStatement first) := by
  mvcgen [importFromStatement] with grind [aliasFields]

include h

@[spec] theorem keeps_simpleStatement : Keeps (simpleStatement e) := by
  mvcgen [simpleStatement, h] with grind

@[spec] theorem keeps_simpleStatements (n : Nat) : Keeps (simpleStatements e n) := by
  induction n with
  | zero => mvcgen [simpleStatements]
  | succ n ih => mvcgen [simpleStatements, h, ih] with grind

end

omit [Origin] in
theorem within_ifNode {first last : Place} {test : Ast} {body other : List Ast} :
    InWindow (ifNode first last test body other) ↔
      InWindow test ∧ InWindow body ∧ InWindow other := by
  simp [ifNode]

omit [Origin] in
theorem within_further {last : Place} {further : List (Place × Ast × List Ast)} {other : List Ast}
    (hfurther : InWindow further) (hother : InWindow other) :
    InWindow (further.foldr (fun x rest => [ifNode x.1 last x.2.1 x.2.2 rest]) other) := by
  induction further with
  | nil => exact hother
  | cons x further ih =>
    obtain ⟨⟨-, htest, hbody⟩, hfurther⟩ := within_cons.1 hfurther
    exact within_cons.2 ⟨within_ifNode.2 ⟨htest, hbody, ih hfurther⟩, within_nil⟩

section

variable {e : Inner} (h : ∀ [Origin] r, Keeps (e r)) {inside : Parse (List Ast)}
  (hinside : Keeps inside)
include h hinside

@[spec] theorem keeps_block : Keeps (block e inside) := by
  mvcgen [block, h, hinside] with grind

@[spec] theorem keeps_colonBlock : Keeps (colonBlock e inside) := by
  mvcgen [colonBlock, h, hinside] with grind

@[spec] theorem keeps_blockAfter (w : Word) : Keeps (blockAfter w e inside) := by
  mvcgen [blockAfter, h, hinside] with grind

@[spec] theorem keeps_elseBlock : Keeps (elseBlock e inside) := by
  mvcgen [elseBlock, h, hinside] with grind [within_getD]

@[spec] theorem keeps_ifStatement (first : Place) : Keeps (ifStatement e inside first) := by
  mvcgen [ifStatement, h, hinside] with simp_all [within_ifNode]
  next hfurther _ _ hother _ _ => exact within_further hfurther.2 hother.2

@[spec] theorem keeps_whileStatement (first : Place) : Keeps (whileStatement e inside first) := by
  mvcgen [whileStatement, h, hinside] with grind

@[spec] theorem keeps_forStatement (form : Form) (hform : form.IsPlain) (first : Place) :
    Keeps (forStatement e inside form first) := by
  mvcgen [forStatement, h, hinside] with grind

omit hinside in
@[spec] theorem keeps_withItem : Keeps (withItem e) := by
  mvcgen [withItem, h] with grind

omit hinside in
@[spec] theorem keeps_parenthesizedItems : Keeps (parenthesizedItems e) := by
  mvcgen [parenthesizedItems, h] with grind

omit hinside in
@[spec] theorem keeps_bareItems : Keeps (bareItems e) := by
  mvcgen [bareItems, h] with grind

@[spec] theorem keeps_withStatement (form : Form) (hform : form.IsPlain) (first : Place) :
    Keeps (withStatement e inside form first) := by
  mvcgen [withStatement, h, hinside] with grind

@[spec] theorem keeps_handler? (star : Bool) : Keeps (handler? e inside star) := by
  mvcgen [handler?, h, hinside] with grind

@[spec] theorem keeps_tryStatement (first : Place) : Keeps (tryStatement e inside first) := by
  mvcgen [tryStatement, h, hinside] with grind [within_getD]

@[spec] theorem keeps_functionStatement (form : Form) (hform : form.IsDefinition)
    (decorators : List Ast) (hdecorators : InWindow decorators) (first : Place)
    (hfirst : InWindow first) : Keeps (functionStatement e inside form decorators first) := by
  mvcgen [functionStatement, h, hinside] with grind

@[spec] theorem keeps_classStatement (decorators : List Ast) (hdecorators : InWindow decorators)
    (first : Place) (hfirst : InWindow first) :
    Keeps (classStatement e inside decorators first) := by
  mvcgen [classStatement, h, hinside] with simp_all

@[spec] theorem keeps_definition (decorators : List Ast) (hdecorators : InWindow decorators) :
    Keeps (definition e inside decorators) := by
  mvcgen [definition, h, hinside] with grind

omit hinside in
@[spec] theorem keeps_decorators : Keeps (decorators e) := by
  mvcgen [decorators, h] with grind

omit hinside in
@[spec] theorem keeps_subject : Keeps (subject e) := by
  mvcgen [subject, h] with grind

omit hinside in
@[spec] theorem keeps_matchHead : Keeps (matchHead e) := by
  mvcgen [matchHead, h] with grind

end

@[spec] theorem keeps_nextIsName (cs : List Char) : Keeps (nextIsName cs) := by
  mvcgen [nextIsName]

section

variable {e : Inner} (h : ∀ [Origin] r, Keeps (e r)) {pattern : Parse Ast}
  (hpattern : Keeps pattern) {inside : Parse (List Ast)} (hinside : Keeps inside)
include h hpattern hinside

@[spec] theorem keeps_case? : Keeps (case? e pattern inside) := by
  mvcgen [case?, h, hpattern, hinside] with simp_all

@[spec] theorem keeps_matchStatement (first : Place) (a : Ast) (ha : InWindow a) :
    Keeps (matchStatement e pattern inside first a) := by
  mvcgen [matchStatement, h, hpattern, hinside] with grind

omit h hpattern hinside in
@[spec] theorem keeps_one (p : Parse Ast) (hp : Keeps p) : Keeps (statement.one p) := by
  mvcgen [statement.one, hp] with grind

@[spec] theorem keeps_statement : Keeps (statement e pattern inside) := by
  mvcgen [statement, h, hpattern, hinside] with grind

@[spec] theorem keeps_statementsBody : Keeps (statementsBody e pattern inside) := by
  mvcgen [statementsBody, h, hpattern, hinside] with grind [within_flatten]

omit hinside in
@[spec] theorem keeps_statementsRule (n : Nat) : Keeps (statementsRule e pattern n) := by
  induction n with
  | zero => mvcgen [statementsRule]
  | succ n ih => exact keeps_statementsBody h hpattern ih

omit hinside in
theorem keeps_moduleRule (n : Nat) : Keeps (moduleRule e pattern n) := by
  mvcgen [moduleRule, h, hpattern] with grind

end

end QueryLint.Source
