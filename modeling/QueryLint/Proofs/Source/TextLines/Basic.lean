import Mathlib
import QueryLint.Proofs.Source.Constructs
import QueryLint.Proofs.Source.Places
import QueryLint.Source.Statement

/-!
# The lines of texts in a tree

A window of lines is kept in view while lexemes are read. If all strings and names ahead stand
within the window, then a rule of the grammar leaves a cursor of which the same holds, and the
texts, names and attributes of the tree that it builds are on lines of the window. Further things
are kept in view on the way: definitions have a place, what calls hold as named arguments are such,
attributes belong to an object, and names have no parts. This module says so for the parts that
rules are made of; the window is a class, so that no rule has to name it. So are the lexemes that
lay ahead when a rule was begun: what is ahead later is the end of these, and so a construct that
starts where the rule was begun does not end before its start.
-/

namespace QueryLint.Source

open Std.Do Parse

set_option mvcgen.warning false

/-- The lines that texts have to be on. -/
class Window where
  first : Nat
  last : Nat

section

variable [Window]

def Window.Holds (line : Nat) : Prop := Window.first ≤ line ∧ line ≤ Window.last

/-- A text that starts at a given place starts and ends within the window. -/
def Window.Covers (place : Place) (cs : List Char) : Prop :=
  Window.Holds place.line ∧ Window.Holds (place.line + cs.count '\n')

/-- A string lexeme starts and ends within the window, and its end is where its text ends. -/
structure Window.Quotes (l : Lexeme) : Prop where
  covers : Window.Covers l.first l.chars
  ends : l.last.line = l.first.line + l.chars.count '\n'

/-- An extent starts and ends within the window, and not before its start. -/
def Window.Spans (e : Extent) : Prop :=
  Window.first ≤ e.line ∧ e.line ≤ e.endLine ∧ e.endLine ≤ Window.last

/-- An extent does not end before its start. -/
def Extent.IsForward (e : Extent) : Prop :=
  e.line < e.endLine ∨ e.line = e.endLine ∧ e.offset ≤ e.endOffset

/-- An extent lies within the window, from its start to its end. -/
structure Window.Places (e : Extent) : Prop where
  starts : Window.first ≤ e.line
  forward : e.IsForward
  ends : e.endLine ≤ Window.last

/-- Forms that define a function or a class. -/
@[simp] abbrev Form.IsDefinition (form : Form) : Prop :=
  form = .functionDef ∨ form = .asyncFunctionDef ∨ form = .classDef

/-- Forms of which nothing is asked. -/
@[simp] abbrev Form.IsPlain (form : Form) : Prop :=
  form ≠ .constant ∧ ¬ form.IsDefinition ∧ form ≠ .call ∧ form ≠ .attribute ∧ form ≠ .name

/-- Forms that have a name. -/
@[simp] abbrev Form.IsNamed (form : Form) : Prop := form = .name ∨ form = .attribute

/-- What is asked of a construct: a text spans lines of the window, a definition starts on one
that is not before it, the named arguments of a call are such, an attribute belongs to an object,
a name has no parts, and both lie within the window. -/
structure Window.Admits (form : Form) (value : Value) (extent : Option Extent)
    (fields : Fields) : Prop where
  text : ∀ s, form = .constant → value = .text s → ∃ e, extent = some e ∧ Window.Spans e
  definition : form.IsDefinition → ∃ e, extent = some e ∧ Window.first ≤ e.line
  call : form = .call → fields.NamesArguments
  access : form = .attribute → fields.HoldObject
  name : form = .name → fields = .nil
  placed : form.IsNamed → ∃ e, extent = some e ∧ Window.Places e

mutual

/-- All constructs of a tree are as the window asks. -/
def Ast.Within : Ast → Prop
  | .node form value extent fields => Window.Admits form value extent fields ∧ fields.Within

def Fields.Within : Fields → Prop
  | .nil => True
  | .child _ a rest => a.Within ∧ rest.Within
  | .items _ list rest => list.Within ∧ rest.Within
  | .plain _ rest => rest.Within

def Items.Within : Items → Prop
  | .nil => True
  | .tree a rest => a.Within ∧ rest.Within
  | .other rest => rest.Within

end

theorem Items.Within.of_get? {list : Items} {j : Nat} {a : Ast} (h : list.Within)
    (hget : list.get? j = some a) : a.Within := by
  fun_induction Items.get? list j with
  | case1 => cases hget
  | case2 b rest =>
    cases hget
    exact h.1
  | case3 => cases hget
  | case4 b rest j ih => exact ih h.2 hget
  | case5 rest j ih => exact ih h hget

theorem Fields.Within.of_get? {fields : Fields} {i j : Nat} {a : Ast} (h : fields.Within)
    (hget : fields.get? i j = some a) : a.Within := by
  fun_induction Fields.get? fields i j with
  | case1 => cases hget
  | case2 =>
    cases hget
    exact h.1
  | case3 => cases hget
  | case4 _ list => exact Items.Within.of_get? h.1 hget
  | case5 => cases hget
  | case6 _ _ rest i j ih => exact ih h.2 hget
  | case7 _ list rest i j ih => exact ih h.2 hget
  | case8 _ rest i j ih => exact ih h hget

/-- What the window asks of a tree it asks of all constructs inside. -/
theorem Ast.Within.of_reaches {a b : Ast} {way : List Step} (h : a.Within)
    (hreaches : a.Reaches way b) : b.Within := by
  induction hreaches with
  | here => exact h
  | @step a _ _ _ _ _ hget _ _ ih =>
    cases a
    exact ih (Fields.Within.of_get? h.2 hget)

theorem Ast.Within.admits {a : Ast} (h : a.Within) :
    Window.Admits a.form a.value a.extent a.fields := by
  cases a
  exact h.1

/-- Results of rules, with what it means for all texts in them to be within the window. A place
must not be before it. -/
class HasTexts (α : Type) where
  InWindow : α → Prop

export HasTexts (InWindow)

instance : HasTexts Ast := ⟨Ast.Within⟩
instance : HasTexts Unit := ⟨fun _ => True⟩
instance : HasTexts Bool := ⟨fun _ => True⟩
instance : HasTexts Nat := ⟨fun _ => True⟩
instance : HasTexts String := ⟨fun _ => True⟩
instance : HasTexts Place := ⟨fun p => Window.first ≤ p.line⟩
instance : HasTexts Kind := ⟨fun _ => True⟩
instance : HasTexts Lexeme := ⟨fun _ => True⟩
instance {α : Type} [HasTexts α] : HasTexts (Option α) := ⟨fun o => ∀ a ∈ o, InWindow a⟩
instance {α : Type} [HasTexts α] : HasTexts (List α) := ⟨fun l => ∀ a ∈ l, InWindow a⟩
instance {α β : Type} [HasTexts α] [HasTexts β] : HasTexts (α × β) :=
  ⟨fun p => InWindow p.1 ∧ InWindow p.2⟩

section

variable {α β : Type} [HasTexts α] [HasTexts β]

omit [Window]

@[simp, grind ←] theorem within_unit (u : Unit) : InWindow u := trivial
@[simp, grind ←] theorem within_bool (b : Bool) : InWindow b := trivial
@[simp, grind ←] theorem within_string (s : String) : InWindow s := trivial
@[simp, grind ←] theorem within_lexeme (l : Lexeme) : InWindow l := trivial

@[simp, grind ←] theorem within_none : InWindow (none : Option α) := nofun

@[simp, grind =] theorem within_some {a : α} : InWindow (some a) ↔ InWindow a := by
  simp [InWindow]

@[simp, grind ←] theorem within_nil : InWindow ([] : List α) := nofun

@[simp, grind =] theorem within_cons {a : α} {l : List α} :
    InWindow (a :: l) ↔ InWindow a ∧ InWindow l := by
  simp [InWindow]

@[simp, grind =] theorem within_append {l m : List α} :
    InWindow (l ++ m) ↔ InWindow l ∧ InWindow m := by
  simp only [InWindow, List.mem_append, or_imp, forall_and]

@[simp, grind =] theorem within_pair {p : α × β} :
    InWindow p ↔ InWindow p.1 ∧ InWindow p.2 := Iff.rfl

theorem within_getD {o : Option (List α)} (h : InWindow o) : InWindow (o.getD []) := by
  cases o with
  | none => exact within_nil
  | some l => exact within_some.1 h

theorem within_flatten {l : List (List α)} (h : InWindow l) : InWindow l.flatten := by
  intro a ha
  obtain ⟨m, hm, ha⟩ := List.mem_flatten.1 ha
  exact h m hm a ha

theorem within_map {f : α → β} {l : List α} (hf : ∀ a, InWindow a → InWindow (f a))
    (hl : InWindow l) : InWindow (l.map f) := by
  intro b hb
  obtain ⟨a, ha, rfl⟩ := List.mem_map.1 hb
  exact hf a (hl a ha)

theorem within_map_fst {l : List (α × β)} (hl : InWindow l) : InWindow (l.map Prod.fst) :=
  within_map (fun _ => And.left) hl

theorem within_map_snd {l : List (α × β)} (hl : InWindow l) : InWindow (l.map Prod.snd) :=
  within_map (fun _ => And.right) hl

end

theorem within_node_iff {form : Form} {value : Value} {extent : Option Extent}
    {fields : Fields} : InWindow (Ast.node form value extent fields) ↔
      Window.Admits form value extent fields ∧ fields.Within := Iff.rfl

@[simp, grind =] theorem within_node {form : Form} {value : Value} {extent : Option Extent}
    {fields : Fields} (h : form.IsPlain) :
    InWindow (Ast.node form value extent fields) ↔ fields.Within := by
  obtain ⟨hconstant, hdefinition, hcall, hattribute, hname⟩ := h
  have hadmits : Window.Admits form value extent fields :=
    ⟨fun _ hform => absurd hform hconstant, fun hform => absurd hform hdefinition,
      fun hform => absurd hform hcall, fun hform => absurd hform hattribute,
      fun hform => absurd hform hname, fun hform => (hform.elim hname hattribute).elim⟩
  rw [within_node_iff, and_iff_right hadmits]

theorem within_constant {value : Value} {extent : Option Extent} {fields : Fields}
    (h : ∀ s, value ≠ .text s) :
    InWindow (Ast.node .constant value extent fields) ↔ fields.Within := by
  have hadmits : Window.Admits .constant value extent fields :=
    ⟨fun s _ hvalue => absurd hvalue (h s), by simp, by simp, by simp, by simp, by simp⟩
  rw [within_node_iff, and_iff_right hadmits]

theorem within_name {value : Value} {extent : Extent} (h : Window.Places extent) :
    InWindow (Ast.node .name value (some extent) .nil) :=
  ⟨⟨by simp, by simp, by simp, by simp, fun _ => rfl, fun _ => ⟨extent, rfl, h⟩⟩, trivial⟩

@[simp, grind ←] theorem within_operator (sign : String) : InWindow (Ast.operator sign) :=
  (within_node (by decide)).2 trivial

@[simp, grind ←] theorem Fields.within_nil : Fields.nil.Within := trivial

@[simp, grind =] theorem Fields.within_child {name : String} {a : Ast} {rest : Fields} :
    (Fields.child name a rest).Within ↔ InWindow a ∧ rest.Within := Iff.rfl

@[simp, grind =] theorem Fields.within_plain {name : String} {rest : Fields} :
    (Fields.plain name rest).Within ↔ rest.Within := Iff.rfl

omit [Window] in
@[simp, grind ←] theorem Fields.holdObject_child (object : Ast) :
    (Fields.child "value" object (.plain "attr" .nil)).HoldObject := ⟨object, rfl⟩

theorem Items.within_tree {a : Ast} {rest : Items} :
    (Items.tree a rest).Within ↔ InWindow a ∧ rest.Within := Iff.rfl

@[simp, grind =] theorem Items.within_ofList {l : List Ast} :
    (Items.ofList l).Within ↔ InWindow l := by
  induction l with
  | nil => simp [Items.ofList, Items.Within]
  | cons a l ih => simp [Items.ofList, Items.within_tree, ih]

@[simp, grind =] theorem Items.within_ofOptions {l : List (Option Ast)} :
    (Items.ofOptions l).Within ↔ InWindow l := by
  induction l with
  | nil => simp [Items.ofOptions, Items.Within]
  | cons o l ih => cases o <;> simp [Items.ofOptions, Items.within_tree, Items.Within, ih]

@[simp, grind ←] theorem Items.within_others (n : Nat) : (Items.others n).Within := by
  induction n with
  | zero => trivial
  | succ n ih => exact ih

@[simp, grind =] theorem Fields.within_items {name : String} {l : Items} {rest : Fields} :
    (Fields.items name l rest).Within ↔ l.Within ∧ rest.Within := Iff.rfl

@[simp, grind =] theorem Fields.within_list {name : String} {l : List Ast} {rest : Fields} :
    (Fields.list name l rest).Within ↔ InWindow l ∧ rest.Within := by
  simp [Fields.list]

@[simp, grind =] theorem Fields.within_optional {name : String} {o : Option Ast} {rest : Fields} :
    (Fields.optional name o rest).Within ↔ InWindow o ∧ rest.Within := by
  cases o <;> simp [Fields.optional]

/-- All strings and names among some lexemes stand within the window, nothing stands before it, and
all is in order. -/
structure Window.HoldsAll (lexemes : List Lexeme) : Prop where
  starts : ∀ l ∈ lexemes, Window.first ≤ l.first.line
  strings : ∀ l ∈ lexemes, l.kind = .string → Window.Quotes l
  names : ∀ l ∈ lexemes, l.kind = .name → l.last.line ≤ Window.last
  forward : ∀ l ∈ lexemes, l.first.NotAfter l.last
  order : lexemes.Pairwise fun l m => l.first.NotAfter m.last

theorem Window.HoldsAll.of_suffix {lexemes rest : List Lexeme} (h : HoldsAll lexemes)
    (hrest : rest <:+ lexemes) : HoldsAll rest :=
  ⟨fun l hl => h.starts l (hrest.mem hl), fun l hl => h.strings l (hrest.mem hl),
    fun l hl => h.names l (hrest.mem hl), fun l hl => h.forward l (hrest.mem hl),
    h.order.sublist hrest.sublist⟩

/-- The lexemes that lay ahead when a rule was begun. -/
class Origin where
  lexemes : List Lexeme

/-- A place is behind the end of no lexeme that lay ahead. -/
def Origin.StartsAt [Origin] (first : Place) : Prop :=
  ∀ l ∈ Origin.lexemes, first.NotAfter l.last

section

variable [Origin]

/-- What is ahead is as the window asks, and lay ahead from the beginning. -/
structure Cursor.Within (c : Cursor) : Prop where
  ahead : Window.HoldsAll c.rest
  behind : c.rest <:+ Origin.lexemes

/-- A rule that starts and ends with all strings and names ahead within the window, and whose
result has all its texts there. -/
abbrev Keeps {α : Type} [HasTexts α] (p : Parse α) : Prop :=
  ⦃fun c => ⌜c.Within⌝⦄ p ⦃⇓? a c => ⌜c.Within ∧ InWindow a⌝⦄

omit [Window] [Origin] in
/-- A rule that may fail has a property if its results have it. -/
theorem triple_iff {α : Type} {p : Parse α} {P : Cursor → Prop} {Q : α → Cursor → Prop} :
    ⦃fun c => ⌜P c⌝⦄ p ⦃⇓? a c => ⌜Q a c⌝⦄ ↔ ∀ c, P c → ∀ a c', p c = some (a, c') → Q a c' := by
  have hwp : ∀ c, (wp⟦p⟧ (PostCond.mayThrow fun a c => ⌜Q a c⌝) c).down ↔
      ∀ a c', p c = some (a, c') → Q a c' := by
    intro c
    simp only [WP.wp, StateT.run, PredTrans.apply_pushArg]
    cases hp : p c with
    | none => exact ⟨fun _ _ _ h => (Option.some_ne_none _ h.symm).elim, fun _ => True.intro⟩
    | some result =>
      refine ⟨?_, fun h => h result.1 result.2 rfl⟩
      rintro h a c' ⟨⟩
      exact h
  exact ⟨fun h c hc => (hwp c).1 (h c hc), fun h c hc => (hwp c).2 (h c hc)⟩

theorem keeps_iff {α : Type} [HasTexts α] {p : Parse α} :
    Keeps p ↔ ∀ c, c.Within → ∀ a c', p c = some (a, c') → c'.Within ∧ InWindow a := triple_iff

theorem Cursor.Within.of_suffix {c c' : Cursor} (h : c.Within) (hrest : c'.rest <:+ c.rest) :
    c'.Within := ⟨h.ahead.of_suffix hrest, hrest.trans h.behind⟩

omit [Origin] in
/-- What a rule is given may be taken for what lay ahead from the beginning. -/
theorem suffix_of_keeps {α : Type} [HasTexts α] {p : Parse α} {c c' : Cursor} {a : α}
    (hp : ∀ [Origin], Origin.lexemes = c.rest → Keeps p) (hahead : Window.HoldsAll c.rest)
    (h : p c = some (a, c')) : c'.rest <:+ c.rest ∧ InWindow a := by
  let origin : Origin := ⟨c.rest⟩
  obtain ⟨hc', ha⟩ := keeps_iff.1 (hp rfl) c ⟨hahead, List.suffix_rfl⟩ a c' h
  exact ⟨hc'.behind, ha⟩

omit [Window] [Origin] in
theorem Parse.bind_eq_some_iff {α β : Type} {p : Parse α} {f : α → Parse β} {c : Cursor}
    {r : β × Cursor} : (p >>= f) c = some r ↔ ∃ a d, p c = some (a, d) ∧ f a d = some r := by
  change (p c).bind (fun x => f x.1 x.2) = some r ↔ _
  simp only [Option.bind_eq_some_iff, Prod.exists]

omit [Window] [Origin] in
theorem exists_of_here {c d : Cursor} {first : Place} (h : here c = some (first, d)) :
    ∃ l rest, c.rest = l :: rest ∧ first = l.first ∧ d = c := by
  unfold here at h
  split at h
  next l rest hrest => cases h; exact ⟨l, rest, hrest, rfl, rfl⟩
  next => cases h

omit [Window] [Origin] in
@[spec] theorem failure_spec {α : Type} {Q : PostCond α (.arg Cursor (.except PUnit .pure))} :
    ⦃fun _ => Q.2.1 ⟨⟩⦄ (failure : Parse α) ⦃Q⦄ := by
  intro c h
  exact h

@[spec] theorem keeps_next : Keeps next := by
  rw [keeps_iff]
  intro c hc l c' h
  unfold next at h
  split at h
  next rest hrest =>
    cases h
    exact ⟨hc.of_suffix (hrest ▸ List.suffix_cons l rest), trivial⟩
  next => cases h

@[spec] theorem keeps_here : Keeps here := by
  rw [keeps_iff]
  intro c hc place c' h
  obtain ⟨l, rest, hrest, rfl, rfl⟩ := exists_of_here h
  exact ⟨hc, hc.ahead.starts l (hrest ▸ List.mem_cons_self)⟩

@[spec] theorem keeps_peek : Keeps peek := by
  mvcgen [peek]

@[spec] theorem keeps_peekSecond : Keeps peekSecond := by
  mvcgen [peekSecond]

@[spec] theorem keeps_remaining : Keeps remaining := by
  mvcgen [remaining]

@[spec] theorem keeps_accept (k : Kind) : Keeps (accept k) := by
  mvcgen [accept] with grind

@[spec] theorem keeps_require (k : Kind) : Keeps (require k) := by
  mvcgen [require] with grind

@[spec] theorem keeps_sign (s : Sign) : Keeps (sign s) := keeps_require _

@[spec] theorem keeps_word (w : Word) : Keeps (word w) := keeps_require _

@[spec] theorem keeps_acceptSign (s : Sign) : Keeps (acceptSign s) := keeps_accept _

@[spec] theorem keeps_acceptWord (w : Word) : Keeps (acceptWord w) := keeps_accept _

/-- A name is within the window, and so is what ends with it and starts where the rule was
begun. -/
@[spec] theorem nameLexeme_spec :
    ⦃fun c => ⌜c.Within⌝⦄ nameLexeme ⦃⇓? l c => ⌜c.Within ∧
      Window.Places (.between l.first l.last) ∧ ∀ first, InWindow first →
        Origin.StartsAt first → Window.Places (.between first c.last)⌝⦄ := by
  rw [triple_iff]
  rintro ⟨rest, count, last⟩ hc l c' h
  cases rest with
  | nil => cases h
  | cons m rest =>
    change (if m.kind = .name then next else failure : Parse _) _ = _ at h
    split_ifs at h with hkind
    · cases h
      have hlast : l.last.line ≤ Window.last := hc.ahead.names l List.mem_cons_self hkind
      have hmem : l ∈ Origin.lexemes := hc.behind.mem List.mem_cons_self
      refine ⟨hc.of_suffix (List.suffix_cons l rest), ⟨hc.ahead.starts l List.mem_cons_self,
        hc.ahead.forward l List.mem_cons_self, hlast⟩, fun first hfirst hstarts => ?_⟩
      have hlayout : l.isLayout = false := by simp [Lexeme.isLayout, hkind]
      rw [hlayout]
      exact ⟨hfirst, hstarts l hmem, hlast⟩
    · cases h

@[spec] theorem buildValue_spec (first : Place) (form : Form) (value : Value) (fields : Fields) :
    ⦃fun c => ⌜c.Within ∧ form ≠ .constant ∧ (form.IsDefinition → InWindow first) ∧
      (form = .call → fields.NamesArguments) ∧
      (form = .attribute → fields.HoldObject ∧ Window.Places (.between first c.last)) ∧
      form ≠ .name ∧ fields.Within⌝⦄
      buildValue first form value fields ⦃⇓? a c => ⌜c.Within ∧ InWindow a ∧ a.form = form⌝⦄ := by
  mvcgen [buildValue, extentFrom]
  next c h =>
    obtain ⟨hc, hconstant, hdefinition, hcall, hattribute, hname, hfields⟩ := h
    have hadmits : Window.Admits form value (some (.between first c.last)) fields :=
      ⟨fun _ hform => absurd hform hconstant, fun hform => ⟨_, rfl, hdefinition hform⟩, hcall,
        fun hform => (hattribute hform).1, fun hform => absurd hform hname,
        fun hform => ⟨_, rfl, (hattribute (hform.resolve_left hname)).2⟩⟩
    exact ⟨hc, ⟨hadmits, hfields⟩, rfl⟩

@[spec] theorem build_spec (first : Place) (form : Form) (fields : Fields) :
    ⦃fun c => ⌜c.Within ∧ form.IsPlain ∧ fields.Within⌝⦄ build first form fields
      ⦃⇓? a c => ⌜c.Within ∧ InWindow a ∧ a.form = form⌝⦄ := by
  mvcgen [build]
  grind

/-- A rule may be looked at as begun where it starts. -/
theorem keeps_here_bind {α : Type} [HasTexts α] {p : Place → Parse α}
    (hp : ∀ [Origin] first, InWindow first → Origin.StartsAt first → Keeps (p first)) :
    Keeps (here >>= p) := by
  rw [keeps_iff]
  intro c hc a c' h
  obtain ⟨first, d, hhere, hleft⟩ := Parse.bind_eq_some_iff.1 h
  obtain ⟨l, rest, hrest, rfl, rfl⟩ := exists_of_here hhere
  have hahead := hc.ahead
  have hmem : l ∈ d.rest := hrest ▸ List.mem_cons_self
  have hstarts : ∀ m ∈ d.rest, l.first.NotAfter m.last := by
    have horder := hahead.order
    rw [hrest] at horder ⊢
    exact List.forall_mem_cons.2 ⟨hahead.forward l hmem, (List.pairwise_cons.1 horder).1⟩
  obtain ⟨hsuffix, ha⟩ := suffix_of_keeps
    (fun heq => hp l.first (hahead.starts l hmem) fun m hm => hstarts m (heq ▸ hm)) hahead hleft
  exact ⟨hc.of_suffix hsuffix, ha⟩

section

variable {α : Type} [HasTexts α]

@[spec] theorem keeps_orElse (p q : Parse α) (hp : Keeps p) (hq : Keeps q) : Keeps (p <|> q) := by
  rw [keeps_iff] at hp hq ⊢
  intro c hc a c' h
  have hor : (p <|> q) c = (p c <|> q c) := rfl
  cases hfirst : p c with
  | none => exact hq c hc a c' (by simpa [hor, hfirst] using h)
  | some result => exact hp c hc a c' (by simpa [hor, hfirst] using h)

@[spec] theorem keeps_seqRight {β : Type} [HasTexts β] (p : Parse α) (q : Parse β) (hp : Keeps p)
    (hq : Keeps q) : Keeps (p *> q) := by
  change Keeps (p >>= fun _ => q)
  mvcgen [hp, hq] with grind

@[spec] theorem keeps_attempt (p : Parse α) (hp : Keeps p) : Keeps (attempt p) := by
  unfold attempt
  apply keeps_orElse
  · mvcgen [hp] with grind
  · mvcgen with grind

@[spec] theorem keeps_repeatUntilNone (p : Parse (Option α)) (hp : Keeps p) (n : Nat) :
    Keeps (repeatUntilNone p n) := by
  induction n with
  | zero =>
    mvcgen [repeatUntilNone]
    grind
  | succ n ih => mvcgen [repeatUntilNone, hp, ih] with grind

@[spec] theorem keeps_many (p : Parse (Option α)) (hp : Keeps p) : Keeps (many p) := by
  mvcgen [many, hp] with grind

@[spec] theorem keeps_separated (separator : Sign) (p : Parse α) (hp : Keeps p) :
    Keeps (separated separator p) := by
  mvcgen [separated, hp] with grind

@[spec] theorem keeps_commaTailWithin (starts : Kind → Bool) (p : Parse α) (hp : Keeps p)
    (n : Nat) : Keeps (commaTailWithin starts p n) := by
  induction n with
  | zero =>
    mvcgen [commaTailWithin]
    grind
  | succ n ih => mvcgen [commaTailWithin, hp, ih] with grind

@[spec] theorem keeps_commaTail (starts : Kind → Bool) (p : Parse α) (hp : Keeps p) :
    Keeps (commaTail starts p) := by
  mvcgen [commaTail, hp] with grind

end

end

end

end QueryLint.Source
