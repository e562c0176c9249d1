import QueryLint.Proofs.Resolution.Tracing

/-!
# What tracing looks at

A literal is its own text, whatever tokens there are. Any other expression is looked up in the
stream of its block, and of that stream only two tokens count: the first that is the name, and
the one two places behind it. All others can be exchanged, as long as none of those before the
name becomes the name.
-/

namespace QueryLint

namespace Token

/-- A token that is the given name. -/
def IsName (name : String) (t : Token) : Prop := t.type = .name ∧ t.string = name

theorem isName_iff {name : String} {t : Token} :
    (t.type == .name && t.string == name) = true ↔ t.IsName name := by
  simp [IsName]

/-- The first token that satisfies a test is found where it stands. -/
theorem findFrom?_append {p : Token → Bool} {before rest : List Token} {first : Token}
    (hbefore : ∀ t ∈ before, p t = false) (hfirst : p first = true) :
    findFrom? p 0 (before ++ first :: rest) = some before.length := by
  have hnone : before.findIdx? p = none := List.findIdx?_eq_none_iff.2 hbefore
  have hindex : (before ++ first :: rest).findIdx? p = some before.length := by
    rw [List.findIdx?_append, hnone, List.findIdx?_cons, hfirst]
    simp
  simpa [findFrom?] using hindex

end Token

namespace Resolution

variable {name : String} {before before' after after' : List Token}
  {first between between' value : Token}

/-- Where a stream is cut at the first token that is the name. -/
theorem findFrom?_name (hbefore : ∀ t ∈ before, ¬ t.IsName name) (hfirst : first.IsName name)
    (rest : List Token) :
    Token.findFrom? (fun t => t.type == .name && t.string == name) 0 (before ++ first :: rest) =
      some before.length := by
  apply Token.findFrom?_append
  · intro t ht
    exact Bool.eq_false_iff.2 (mt Token.isName_iff.1 (hbefore t ht))
  · exact Token.isName_iff.2 hfirst

theorem getElem?_value (before after : List Token) (first between value : Token) :
    (before ++ first :: between :: value :: after)[before.length + valueDistance]? =
      some value := by
  rw [List.getElem?_append_right (Nat.le_add_right _ _), Nat.add_sub_cancel_left]
  rfl

/-- Tracing depends on nothing but the token two places behind the name. -/
theorem trace_congr (hbefore : ∀ t ∈ before, ¬ t.IsName name)
    (hbefore' : ∀ t ∈ before', ¬ t.IsName name) (hfirst : first.IsName name) :
    trace name (before ++ first :: between :: value :: after) =
      trace name (before' ++ first :: between' :: value :: after') := by
  unfold trace
  rw [findFrom?_name hbefore hfirst, findFrom?_name hbefore' hfirst]
  dsimp only
  rw [getElem?_value, getElem?_value]

/-- Tracing finds a text exactly where the stream can be cut at the name, with a literal that
denotes the text two places behind it. -/
theorem trace_eq_found_iff_split {stream : List Token} {text : ResolvedText} :
    trace name stream = .found text ↔
      ∃ before first between value after sql,
        stream = before ++ [first, between, value] ++ after ∧
        first.IsName name ∧ (∀ t ∈ before, ¬ t.IsName name) ∧
        value.type = .string ∧ Source.textLiteral value.string = .ok (some sql) ∧
        Text.isBlankText sql = false ∧ text = ⟨sql, value.span, .traced, some name⟩ := by
  constructor
  · intro h
    obtain ⟨i, value, sql, hfound, hvalue, htype, hsql, hblank, rfl⟩ := trace_eq_found_iff.1 h
    obtain ⟨before, first, between, after, rfl, hfirst, hbefore⟩ :=
      Token.exists_split_of_findFrom? hfound hvalue
    refine ⟨before, first, between, value, after, sql, by simp, Token.isName_iff.1 hfirst, ?_,
      htype, hsql, hblank, rfl⟩
    intro t ht hname
    have hother := hbefore t ht
    rw [Token.isName_iff.2 hname] at hother
    cases hother
  · rintro ⟨before, first, between, value, after, sql, rfl, hfirst, hbefore, htype, hsql, hblank,
      rfl⟩
    have hshape : before ++ [first, between, value] ++ after =
        before ++ first :: between :: value :: after := by simp
    rw [hshape]
    exact trace_eq_found_iff.2 ⟨before.length, value, sql, findFrom?_name hbefore hfirst _,
      getElem?_value before after first between value, htype, hsql, hblank, rfl⟩

variable {lines : List (List Char)} {expression : Node}

/-- A literal needs no tokens. -/
theorem resolve_of_literal (h : expression.kind = .stringLiteral)
    (tokens tokens' : Option (List Token)) :
    resolve lines expression tokens = resolve lines expression tokens' := by
  unfold resolve
  rw [h]
  cases expression.value <;> rfl

theorem resolve_eq_found_iff_of_literal (h : expression.kind = .stringLiteral)
    {tokens : Option (List Token)} {text : ResolvedText} :
    resolve lines expression tokens = .found text ↔
      ∃ sql, expression.value = .text sql ∧ Text.isBlankText sql = false ∧
        text = ⟨sql, expression.span, .literal, none⟩ := by
  rw [resolve_eq_found_iff]
  simp [h]

/-- Calls, and expressions without a source, are not traced. -/
theorem exists_declined (hkind : expression.kind ≠ .stringLiteral)
    (h : expression.kind = .call ∨ Text.isBlankText (expression.text lines) = true)
    (tokens : Option (List Token)) : ∃ why, resolve lines expression tokens = .declined why := by
  by_cases hblank : Text.isBlankText (expression.text lines) = true
  · exact ⟨.blank, by simp [resolve, hkind, hblank]⟩
  · have hcall : expression.kind = .call := h.resolve_right hblank
    exact ⟨.callResult (expression.text lines) expression.span.startLine,
      by simp [resolve, hblank, hcall]⟩

/-- Everything else is traced by its source. -/
theorem resolve_eq_trace (hkind : expression.kind ≠ .stringLiteral)
    (hcall : expression.kind ≠ .call) (hblank : Text.isBlankText (expression.text lines) = false)
    (stream : List Token) :
    resolve lines expression (some stream) = trace (expression.text lines) stream := by
  simp [resolve, hkind, hcall, hblank]

/-- What a candidate resolves to, exactly. A literal that is not blank resolves to its value at
its own span, whatever the tokens are. A call declines, and so does an expression without a
source. Any other expression resolves exactly if the stream can be cut at the first token that
is its name, and two places behind that token stands a string literal that denotes a text which
is not blank; it then resolves to that text, at the span of the literal. What stands before the
name, between the two and behind the literal makes no difference. -/
theorem resolve_is_exact_and_local (lines : List (List Char)) (candidate : Candidate) :
    let expression := candidate.expression.node
    let name := expression.text lines
    (expression.kind = .stringLiteral →
      (∀ tokens tokens', resolve lines expression tokens = resolve lines expression tokens') ∧
      ∀ tokens text, resolve lines expression tokens = .found text ↔
        ∃ sql, expression.value = .text sql ∧ Text.isBlankText sql = false ∧
          text = ⟨sql, expression.span, .literal, none⟩) ∧
    (expression.kind ≠ .stringLiteral →
      expression.kind = .call ∨ Text.isBlankText name = true →
      ∀ tokens, ∃ why, resolve lines expression tokens = .declined why) ∧
    (expression.kind ≠ .stringLiteral → expression.kind ≠ .call → Text.isBlankText name = false →
      (∀ stream text, resolve lines expression (some stream) = .found text ↔
        ∃ before first between value after sql,
          stream = before ++ [first, between, value] ++ after ∧
          first.IsName name ∧ (∀ t ∈ before, ¬ t.IsName name) ∧
          value.type = .string ∧ Source.textLiteral value.string = .ok (some sql) ∧
          Text.isBlankText sql = false ∧ text = ⟨sql, value.span, .traced, some name⟩) ∧
      ∀ before before' first between between' value after after',
        first.IsName name → (∀ t ∈ before, ¬ t.IsName name) →
        (∀ t ∈ before', ¬ t.IsName name) →
        resolve lines expression (some (before ++ [first, between, value] ++ after)) =
          resolve lines expression (some (before' ++ [first, between', value] ++ after'))) := by
  intro expression name
  refine ⟨fun hkind => ⟨resolve_of_literal hkind,
    fun _ _ => resolve_eq_found_iff_of_literal hkind⟩, exists_declined, ?_⟩
  intro hkind hcall hblank
  refine ⟨fun stream text => ?_, ?_⟩
  · rw [resolve_eq_trace hkind hcall hblank]
    exact trace_eq_found_iff_split
  · intro before before' first between between' value after after' hfirst hbefore hbefore'
    rw [resolve_eq_trace hkind hcall hblank, resolve_eq_trace hkind hcall hblank]
    simpa using trace_congr hbefore hbefore' hfirst

/-- A name that is assigned again resolves to its first literal, as it does without all the
tokens around. -/
theorem resolve_of_name_assigned_twice :
    let lines := ["SqlCommand(q)".toList]
    let site : Visit := .root (.mk ⟨.call, .absent, ⟨1, 0, 1, 13⟩, "Call", []⟩ [])
    let name : Node := .mk ⟨.identifier, .text "q", ⟨1, 11, 1, 12⟩, "Name", []⟩ []
    let candidate : Candidate := ⟨.construction, site, site.childAt name 1, none⟩
    let q : Token := ⟨.name, "q", ⟨1, 0, 1, 1⟩⟩
    let equals : Token := ⟨.operator, "=", ⟨1, 2, 1, 3⟩⟩
    let literal : Token := ⟨.string, "\"SELEKT 1\"", ⟨1, 4, 1, 14⟩⟩
    let other : Token := ⟨.string, "\"SELECT 1\"", ⟨2, 4, 2, 14⟩⟩
    let comma : Token := ⟨.operator, ",", ⟨1, 2, 1, 3⟩⟩
    let stream := [other, q, equals, literal, q, equals, other]
    candidate.expression.node.text lines = "q" ∧
      resolve lines candidate.expression.node (some stream) =
        .found ⟨"SELEKT 1", ⟨1, 4, 1, 14⟩, .traced, some "q"⟩ ∧
      resolve lines candidate.expression.node (some stream) =
        resolve lines candidate.expression.node (some [q, comma, literal]) := by
  intro lines site name candidate q equals literal other comma stream
  have htext : candidate.expression.node.text lines = "q" := by decide +kernel
  obtain ⟨-, -, hany⟩ := resolve_is_exact_and_local lines candidate
  obtain ⟨hexact, hlocal⟩ := hany (by decide) (by decide) (by rw [htext]; decide +kernel)
  rw [htext] at hexact hlocal
  have hname : q.IsName "q" := ⟨rfl, rfl⟩
  have hother : ∀ t ∈ [other], ¬ t.IsName "q" := by simp [Token.IsName, other]
  refine ⟨htext, ?_, ?_⟩
  · exact (hexact _ _).2 ⟨[other], q, equals, literal, [q, equals, other], "SELEKT 1", rfl, hname,
      hother, rfl, by decide +kernel, by decide +kernel, rfl⟩
  · exact hlocal [other] [] q equals comma literal [q, equals, other] [] hname hother (by simp)

end Resolution

end QueryLint
