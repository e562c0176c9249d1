import QueryLint.Resolution

/-!
# When an expression has a text

The two ways in which a text is found, with everything that must hold on the way: the
expression is a literal that is not blank, or it is traced through the tokens to the
literal two places behind the first token that is its name.
-/

namespace QueryLint.Resolution

/-- Tracing finds a text exactly behind the first token that is the name. -/
theorem trace_eq_found_iff {name : String} {tokens : List Token} {text : ResolvedText} :
    trace name tokens = .found text ↔
      ∃ i value sql,
        Token.findFrom? (fun t => t.type == .name && t.string == name) 0 tokens = some i ∧
        tokens[i + valueDistance]? = some value ∧ value.type = .string ∧
        Source.textLiteral value.string = .ok (some sql) ∧ Text.isBlankText sql = false ∧
        text = ⟨sql, value.span, .traced, some name⟩ := by
  constructor
  · intro h
    unfold trace at h
    split at h
    · cases h
    next i hi =>
      split at h
      · cases h
      next value hvalue =>
        split at h
        · cases h
        next htype =>
          split at h
          · cases h
          · cases h
          next sql hsql =>
            split at h
            · cases h
            next hblank =>
              cases h
              exact ⟨i, value, sql, hi, hvalue, by simpa using htype, hsql, by simpa using hblank,
                rfl⟩
  · rintro ⟨i, value, sql, hi, hvalue, htype, hsql, hblank, rfl⟩
    simp [trace, hi, hvalue, htype, hsql, hblank]

/-- An expression has a text exactly if it is a literal that is not blank, or if its
source is traced to one. -/
theorem resolve_eq_found_iff {lines : List (List Char)} {expression : Node}
    {tokens : Option (List Token)} {text : ResolvedText} :
    resolve lines expression tokens = .found text ↔
      (∃ sql, expression.kind = .stringLiteral ∧ expression.value = .text sql ∧
        Text.isBlankText sql = false ∧ text = ⟨sql, expression.span, .literal, none⟩) ∨
      (expression.kind ≠ .stringLiteral ∧ expression.kind ≠ .call ∧
        Text.isBlankText (expression.text lines) = false ∧
        ∃ stream, tokens = some stream ∧ trace (expression.text lines) stream = .found text) := by
  by_cases hkind : expression.kind = .stringLiteral
  · cases hvalue : expression.value with
    | text sql =>
      by_cases hblank : Text.isBlankText sql = true
      · simp [resolve, hkind, hvalue, hblank]
      · simp [resolve, hkind, hvalue, hblank]
        exact eq_comm
    | _ => simp [resolve, hkind, hvalue]
  · by_cases hblank : Text.isBlankText (expression.text lines) = true
    · simp [resolve, hkind, hblank]
    · by_cases hcall : expression.kind = .call
      · simp [resolve, hblank, hcall]
      · cases tokens with
        | none => simp [resolve, hkind, hblank, hcall]
        | some stream => simp [resolve, hkind, hblank, hcall]

/-- A text is a literal without a name, or traced under a name that is not empty. -/
theorem resolve_found_identifier {lines : List (List Char)} {expression : Node}
    {tokens : Option (List Token)} {text : ResolvedText}
    (h : resolve lines expression tokens = .found text) :
    text.origin = .literal ∧ text.identifier = none ∨
      text.origin = .traced ∧ ∃ name, text.identifier = some name ∧ name ≠ "" := by
  obtain ⟨sql, -, -, -, rfl⟩ | ⟨-, -, hblank, stream, -, htrace⟩ := resolve_eq_found_iff.1 h
  · exact .inl ⟨rfl, rfl⟩
  · obtain ⟨i, value, sql, -, -, -, -, -, rfl⟩ := trace_eq_found_iff.1 htrace
    refine .inr ⟨rfl, expression.text lines, rfl, ?_⟩
    intro hempty
    rw [hempty] at hblank
    exact Bool.noConfusion hblank

end QueryLint.Resolution
