import QueryLint.Engine.Run
import QueryLint.Proofs.Source.TokenPlaces

/-!
# What a document holds

A source that is read gives a document with the normalised text, the tree of its program
and its tokens. The lines of the document are those of that text, and its tokens stand in it.
-/

namespace QueryLint

open Source

/-- A program is read by scanning, parsing and cutting into tokens, and all three succeed. -/
theorem Source.exists_of_readProgram {cs : List Char} {tree : Ast} {tokens : List Token}
    (h : readProgram cs = some (tree, tokens)) :
    (∃ lexemes cursor, scan .start (endLine cs) = some lexemes ∧
      moduleRule (expressionRule (depthFor cs))
        (patternRule (expressionRule (depthFor cs)) (depthFor cs)) (depthFor cs)
        (.before lexemes .start) = some (tree, cursor)) ∧
      tokens? cs = some tokens := by
  unfold readProgram at h
  split at h
  · cases h
  · obtain ⟨lexemes, hscan, h⟩ := Option.bind_eq_some_iff.1 h
    obtain ⟨⟨tree', cursor⟩, hmodule, h⟩ := Option.bind_eq_some_iff.1 h
    obtain ⟨tokens', htokens, h⟩ := Option.bind_eq_some_iff.1 h
    cases h
    exact ⟨⟨lexemes, cursor, hscan, hmodule⟩, htokens⟩

namespace Document

theorem exists_of_read {language : Language} {path source : String} {limits : Limits}
    {d : Document} (h : read language path source limits = .ok (some d)) :
    d.source = String.ofList (normalize source) ∧
      ∃ tree, readProgram (normalize source) = some (tree, d.tokens) ∧
        d.root = Node.ofAst d.lines tree := by
  unfold read at h
  dsimp only at h
  split at h
  · cases h
  · obtain ⟨⟨tree, tokens⟩, hprogram, hd⟩ := Option.map_eq_some_iff.1 (Except.ok.inj h)
    subst hd
    exact ⟨rfl, tree, hprogram, by simp [lines]⟩

theorem tokensIn_sublist (d : Document) (block : Node) :
    (d.tokensIn block).Sublist d.tokens := by
  unfold tokensIn Token.inside
  split
  · exact List.Sublist.refl d.tokens
  · exact List.filter_sublist

end Document

namespace Engine

variable {language path source : String} {limits : Document.Limits} {d : Document}

theorem exists_of_read (h : read language path source limits = .ok (some d)) :
    ∃ l, Document.read l path source limits = .ok (some d) := by
  unfold read at h
  split at h
  next l _ => exact ⟨l, h⟩
  next => cases h

theorem source_of_read (h : read language path source limits = .ok (some d)) :
    d.source = String.ofList (Document.normalize source) := by
  obtain ⟨l, hl⟩ := exists_of_read h
  exact (Document.exists_of_read hl).1

theorem lines_of_read (h : read language path source limits = .ok (some d)) :
    d.lines = Text.newlineLines (Document.normalize source) := by
  rw [Document.lines, source_of_read h, String.toList_ofList]
  rfl

theorem laidOut_of_read (h : read language path source limits = .ok (some d)) :
    Token.LaidOut d.tokens.reverse (Document.normalize source) := by
  obtain ⟨l, hl⟩ := exists_of_read h
  obtain ⟨-, tree, hprogram, -⟩ := Document.exists_of_read hl
  exact laidOut_of_tokens? (exists_of_readProgram hprogram).2

/-- A stream of tokens is that of a block of the document. -/
theorem exists_of_tokensIn {block : Option Visit} {stream : List Token}
    (h : (contextOf language path d).tokensIn block = some stream) :
    ∃ b, block = some b ∧ d.tokensIn b.node = stream := by
  cases block with
  | none => cases h
  | some b => exact ⟨b, rfl, Option.some.inj h⟩

/-- A value computed from the document that a source is read as. -/
theorem read_eq_of_map {α : Type} {f : Document → α} {a : α}
    (h : (read language path source limits).toOption.join.map f = some a) :
    ∃ d, read language path source limits = .ok (some d) ∧ f d = a := by
  cases hread : read language path source limits with
  | error failure => rw [hread] at h; cases h
  | ok parsed =>
    cases parsed with
    | none => rw [hread] at h; cases h
    | some d =>
      rw [hread] at h
      exact ⟨d, rfl, Option.some.inj h⟩

end Engine

end QueryLint
