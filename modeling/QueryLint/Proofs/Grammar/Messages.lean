import Mathlib.Data.List.Forall2
import QueryLint.Grammar.Validator
import QueryLint.Proofs.Grammar.Notes

/-!
# Messages about texts that a grammar does not accept

A validator has a message for each error that its grammar lists, or else one message made from the
text of the failure. The first kind has a phrase for a description of which nothing is left once it
is cleaned. The second kind has none, so that a message can be blank: this is settled here by what
the text looks like, with a name in place of each class in it and then a phrase in place of each
token.
-/

namespace QueryLint

namespace Description

/-- A text is gone over from the left: where a note stands, what is shown for it takes its place,
and a character that no note starts with is kept. -/
inductive Rewritten (IsNote : List Char → List Char → Prop) : List Char → List Char → Prop where
  | nil : Rewritten IsNote [] []
  | note {written shown rest out : List Char} (hnote : IsNote written shown)
      (hrest : Rewritten IsNote rest out) : Rewritten IsNote (written ++ rest) (shown ++ out)
  | other {c : Char} {cs out : List Char}
      (hnone : ∀ written shown, IsNote written shown → ¬ written <+: c :: cs)
      (hcs : Rewritten IsNote cs out) : Rewritten IsNote (c :: cs) (c :: out)

/-- A class in brackets, and its bare name. -/
def IsClassNote (written shown : List Char) : Prop :=
  ∃ path, (∀ w ∈ path, IsWord w) ∧ IsWord shown ∧ written = note (classInner path shown)

/-- A token in brackets, and its text in quotes or a phrase for the end of the input. The text is
on one line and ends before the first mark of a line number. -/
def IsTokenNote (written shown : List Char) : Prop :=
  ∃ type text tail, IsWord type ∧ '\n' ∉ text ∧ ¬ lineMark <:+: text ∧ '>' ∉ tail ∧
    shown = describe type text ∧ written = note (tokenInner type text tail)

section

variable {recognize : List Char → Option (List Char × List Char)}
  {IsNote : List Char → List Char → Prop}

/-- What is recognized at the start of a text are the notes of a kind. -/
def Recognizes (recognize : List Char → Option (List Char × List Char))
    (IsNote : List Char → List Char → Prop) : Prop :=
  ∀ ⦃cs shown rest⦄,
    recognize cs = some (shown, rest) ↔ ∃ written, IsNote written shown ∧ cs = written ++ rest

theorem Recognizes.eq_some (h : Recognizes recognize IsNote) {written shown : List Char}
    (hnote : IsNote written shown) (rest : List Char) :
    recognize (written ++ rest) = some (shown, rest) := h.2 ⟨written, hnote, rfl⟩

theorem Recognizes.eq_none_iff (h : Recognizes recognize IsNote) {cs : List Char} :
    recognize cs = none ↔ ∀ written shown, IsNote written shown → ¬ written <+: cs := by
  constructor
  · rintro hnone written shown hnote ⟨rest, rfl⟩
    rw [h.eq_some hnote rest] at hnone
    cases hnone
  · intro hall
    cases hfound : recognize cs with
    | none => rfl
    | some found =>
      obtain ⟨written, hnote, rfl⟩ := h.1 hfound
      exact absurd (List.prefix_append written found.2) (hall written found.1 hnote)

/-- A pass that recognizes the notes of a kind rewrites them. -/
theorem rewritten_iff (h : Recognizes recognize IsNote) (hg : Consumes recognize)
    {cs out : List Char} : Rewritten IsNote cs out ↔ replace recognize cs = out := by
  constructor
  · intro hrewritten
    induction hrewritten with
    | nil => exact replace_nil
    | @note written shown rest out hnote _ ih =>
      have hsome := h.eq_some hnote rest
      have hlength := hg.length_lt hsome
      obtain ⟨c, cs, heq⟩ : ∃ c cs, written ++ rest = c :: cs :=
        List.exists_cons_of_ne_nil (List.ne_nil_of_length_pos (Nat.zero_lt_of_lt hlength))
      rw [heq] at hsome ⊢
      rw [replace_cons_of_some hg hsome, ih]
    | other hnone _ ih => rw [replace_cons_of_none (h.eq_none_iff.2 hnone), ih]
  · rintro rfl
    induction hn : cs.length using Nat.strong_induction_on generalizing cs with
    | _ n ih =>
      subst hn
      cases cs with
      | nil => exact .nil
      | cons c cs =>
        cases hfound : recognize (c :: cs) with
        | none =>
          rw [replace_cons_of_none hfound]
          exact .other (h.eq_none_iff.1 hfound) (ih cs.length (Nat.lt_succ_self _) rfl)
        | some found =>
          obtain ⟨shown, rest⟩ := found
          obtain ⟨written, hnote, heq⟩ := h.1 hfound
          rw [replace_cons_of_some hg hfound, heq]
          exact .note hnote (ih rest.length (hg.length_lt hfound) rfl)

end

theorem recognizes_class? : Recognizes class? IsClassNote := by
  intro cs shown rest
  rw [class?_eq_some_iff]
  constructor
  · rintro ⟨path, hpath, hname, rfl⟩
    exact ⟨_, ⟨path, hpath, hname, rfl⟩, rfl⟩
  · rintro ⟨_, ⟨path, hpath, hname, rfl⟩, rfl⟩
    exact ⟨path, hpath, hname, rfl⟩

theorem recognizes_token? : Recognizes token? IsTokenNote := by
  intro cs shown rest
  rw [token?_eq_some_iff]
  constructor
  · rintro ⟨type, text, tail, htype, hline, hmark, htail, hshown, rfl⟩
    exact ⟨_, ⟨type, text, tail, htype, hline, hmark, htail, hshown, rfl⟩, rfl⟩
  · rintro ⟨_, ⟨type, text, tail, htype, hline, hmark, htail, hshown, rfl⟩, rfl⟩
    exact ⟨type, text, tail, htype, hline, hmark, htail, hshown, rfl⟩

/-- With names in place of its classes and then phrases in place of its tokens, a text has nothing
but blanks and groups in it. -/
def IsWordless (cs : List Char) : Prop :=
  ∃ named phrased, Rewritten IsClassNote cs named ∧ Rewritten IsTokenNote named phrased ∧
    Bracketed phrased

theorem isBlankText_clean_iff (s : String) :
    Text.isBlankText (clean s) = true ↔ IsWordless s.toList := by
  simp only [IsWordless, rewritten_iff recognizes_class? consumes_class?,
    rewritten_iff recognizes_token? consumes_token?, exists_and_left, exists_eq_left']
  rw [clean, cleanChars, Text.isBlankText_trim]
  exact forall_isBlank_replaceFrom_iff (Nat.le_succ _)

end Description

namespace GrammarError

/-- A message says something before its full stop. -/
theorem exists_message_eq (e : GrammarError) :
    ∃ body, e.message = body ++ "." ∧ Text.isBlankText body = false := by
  let words := ((Description.cleanChars (e.description.getD "").toList).reverse.dropWhile
    (· == '.')).reverse
  have hwords : words <+: Description.cleanChars (e.description.getD "").toList :=
    List.rdropWhile_prefix (· == '.') _
  have hdescription : Text.isBlankText
      (if words.isEmpty then "Syntax error" else String.ofList words) = false := by
    cases hw : words with
    | nil => decide
    | cons c rest =>
      have hc : Text.isBlank c = false := Text.not_isBlank_of_prefix_trim (hw ▸ hwords)
      simp [Text.isBlankText, hc]
  refine ⟨_, rfl, ?_⟩
  rw [Text.isBlankText_append, Text.isBlankText_append, hdescription]
  rfl

theorem isBlankText_message (e : GrammarError) : Text.isBlankText e.message = false := by
  obtain ⟨body, hbody, hblank⟩ := e.exists_message_eq
  rw [hbody, Text.isBlankText_append, hblank]
  rfl

end GrammarError

namespace GrammarOutcome

/-- The errors that a grammar lists. -/
def errors : GrammarOutcome → List GrammarError
  | rejected errors _ => errors
  | _ => []

/-- An outcome that is about the text: the grammar did not fail in a way of its own. -/
def IsAnswer : GrammarOutcome → Prop
  | accepted | rejected .. | unreadable _ => True
  | crashed _ | interrupted => False

/-- An outcome that comes with no more than a text. -/
def IsText (o : GrammarOutcome) (text : String) : Prop := o = rejected [] text ∨ o = unreadable text

/-- A failure with a text that has no words. -/
def IsWordless (o : GrammarOutcome) : Prop :=
  ∃ text, o.IsText text ∧ Description.IsWordless text.toList

theorem IsAnswer.cases {o : GrammarOutcome} (h : o.IsAnswer) :
    o = accepted ∨ (∃ text, o.IsText text) ∨
      ∃ e errors text, o = rejected (e :: errors) text := by
  cases o with
  | accepted => exact .inl rfl
  | rejected errors text =>
    cases errors with
    | nil => exact .inr (.inl ⟨text, .inl rfl⟩)
    | cons e errors => exact .inr (.inr ⟨e, errors, text, rfl⟩)
  | unreadable text => exact .inr (.inl ⟨text, .inr rfl⟩)
  | crashed message => exact h.elim
  | interrupted => exact h.elim

theorem isWordless_iff {o : GrammarOutcome} {text : String} (h : o.IsText text) :
    o.IsWordless ↔ Description.IsWordless text.toList := by
  refine ⟨fun ⟨text', h', hwordless⟩ => ?_, fun hwordless => ⟨text, h, hwordless⟩⟩
  obtain rfl | rfl := h <;> obtain h' | h' := h' <;> cases h' <;> exact hwordless

end GrammarOutcome

namespace Validator

theorem verdict_of_isText {o : GrammarOutcome} {text : String} (h : o.IsText text) :
    verdict o = .messages [Description.clean text] := by
  obtain rfl | rfl := h <;> rfl

/-- What a validator says about a text on which its grammar gives an answer. It says nothing exactly
if the grammar accepts. If the grammar lists errors, there is one message for each of them, in their
order, and each says something before its full stop; else there is one message. A message is blank
exactly if the failure is wordless. -/
theorem validate_isBlank_iff (dialect : String) (grammar : Grammar) (sql : String)
    (hanswer : (grammar sql).IsAnswer) :
    ∃ messages, (ofGrammar dialect grammar).validate sql = .messages messages ∧
      (messages = [] ↔ grammar sql = .accepted) ∧
      (grammar sql ≠ .accepted → messages.length = max 1 (grammar sql).errors.length) ∧
      ((grammar sql).errors ≠ [] → List.Forall₂
        (fun e m => m = e.message ∧ ∃ body, m = body ++ "." ∧ Text.isBlankText body = false)
        (grammar sql).errors messages) ∧
      ((∃ m ∈ messages, Text.isBlankText m = true) ↔ (grammar sql).IsWordless) := by
  have hvalidate : (ofGrammar dialect grammar).validate sql = verdict (grammar sql) := rfl
  rw [hvalidate]
  obtain haccepted | ⟨text, htext⟩ | ⟨e, errors, text, hrejected⟩ := hanswer.cases
  · rw [haccepted]
    refine ⟨[], rfl, by simp, by simp, by simp [GrammarOutcome.errors], ?_⟩
    simp [GrammarOutcome.IsWordless, GrammarOutcome.IsText]
  · have herrors : (grammar sql).errors = [] := by
      obtain htext | htext := htext <;> rw [htext] <;> rfl
    have hne : grammar sql ≠ .accepted := by
      obtain htext | htext := htext <;> rw [htext] <;> exact GrammarOutcome.noConfusion
    refine ⟨[Description.clean text], verdict_of_isText htext, by simp [hne], by simp [herrors],
      by simp [herrors], ?_⟩
    rw [GrammarOutcome.isWordless_iff htext, ← Description.isBlankText_clean_iff]
    simp
  · rw [hrejected]
    refine ⟨(e :: errors).map GrammarError.message, rfl, by simp, ?_, fun _ => ?_, ?_⟩
    · intro _
      simp [GrammarOutcome.errors]
    · rw [GrammarOutcome.errors, List.forall₂_map_right_iff, List.forall₂_same]
      exact fun e _ => ⟨rfl, e.exists_message_eq⟩
    · constructor
      · rintro ⟨m, hm, hblank⟩
        obtain ⟨e, -, rfl⟩ := List.mem_map.1 hm
        rw [e.isBlankText_message] at hblank
        cases hblank
      · rintro ⟨text', h | h, -⟩ <;> cases h

/-- A failure of which the whole text is a group in brackets has a blank message. -/
theorem validate_isBlank_of_group :
    let grammar : Grammar := fun _ => .unreadable "<unknown>"
    (grammar "SELECT 1").IsAnswer ∧ (grammar "SELECT 1").IsWordless ∧
      ∃ messages, (ofGrammar "tsql" grammar).validate "SELECT 1" = .messages messages ∧
        ∃ m ∈ messages, Text.isBlankText m = true := by
  intro grammar
  have hwordless : (grammar "SELECT 1").IsWordless := by
    have hblank : Text.isBlankText (Description.clean "<unknown>") = true := by decide
    exact ⟨"<unknown>", .inr rfl, (Description.isBlankText_clean_iff _).1 hblank⟩
  obtain ⟨messages, hmessages, -, -, -, hblank⟩ :=
    validate_isBlank_iff "tsql" grammar "SELECT 1" trivial
  exact ⟨trivial, hwordless, messages, hmessages, hblank.2 hwordless⟩

end Validator

end QueryLint
