import QueryLint.Proofs.Document
import QueryLint.Proofs.Source.TextLines.Statements
import QueryLint.Proofs.Tree.Mirror

/-!
# The lines of texts in a document

Every string constant in the tree of a program is on lines of its source: lexemes stand in the
source, and the grammar keeps texts on the lines of lexemes. What else is kept in view on the way
holds of the tree too, so that a document has the tree of a module in which definitions have a
place and the named arguments of calls are such.
-/

namespace QueryLint

open Source Text

namespace Source

theorem exists_of_endLine (cs : List Char) :
    ∃ body, endLine cs = body ++ ['\n'] ∧ body.count '\n' ≤ cs.count '\n' := by
  unfold endLine
  split
  next hlast =>
    obtain ⟨body, rfl⟩ := List.getLast?_eq_some_iff.1 hlast
    exact ⟨body, rfl, by simp⟩
  next => exact ⟨cs, rfl, Nat.le_refl _⟩

/-- The window of all lines of a source. -/
abbrev Window.linesOf (cs : List Char) : Window := ⟨1, (newlineLines cs).length⟩

/-- All texts of a program are on lines of its source. -/
theorem within_of_readProgram {cs : List Char} {tree : Ast} {tokens : List Token}
    (h : readProgram cs = some (tree, tokens)) : @Ast.Within (.linesOf cs) tree := by
  let window : Window := .linesOf cs
  obtain ⟨⟨lexemes, cursor, hscan, hmodule⟩, -⟩ := exists_of_readProgram h
  obtain ⟨body, hbody, hcount⟩ := exists_of_endLine cs
  have hcovers : Window.Covers .start body := by
    have hone : Place.start.line = 1 := rfl
    have hbelow : Window.first = 1 := rfl
    have habove : Window.last = cs.count '\n' + 1 := length_cutAt '\n' cs
    refine ⟨⟨?_, ?_⟩, ?_, ?_⟩ <;> omega
  have hahead := Window.holdsAll_of_scan (hbody ▸ hscan) hcovers
  have hexpressions : ∀ [Origin] r, Keeps (expressionRule (depthFor cs) r) :=
    keeps_expressionRule (depthFor cs)
  refine (suffix_of_keeps (fun _ => ?_) hahead hmodule).2
  exact keeps_moduleRule hexpressions (keeps_patternRule hexpressions (depthFor cs)) (depthFor cs)

theorem form_of_readProgram {cs : List Char} {tree : Ast} {tokens : List Token}
    (h : readProgram cs = some (tree, tokens)) : tree.form = .module := by
  obtain ⟨⟨lexemes, cursor, -, hmodule⟩, -⟩ := exists_of_readProgram h
  obtain ⟨next, c, -, hleft⟩ := Parse.bind_eq_some_iff.1 hmodule
  split_ifs at hleft
  all_goals
    obtain ⟨body, d, -, hleft⟩ := Parse.bind_eq_some_iff.1 hleft
    obtain ⟨-, e, -, hdone⟩ := Parse.bind_eq_some_iff.1 hleft
    cases hdone
    rfl

end Source

/-- A document has the tree of a module in which everything is as the window of all lines
asks. -/
theorem Engine.exists_tree_of_read {language path source : String}
    {limits : Document.Limits} {d : Document}
    (h : read language path source limits = .ok (some d)) :
    ∃ tree : Ast, d.root = Node.ofAst d.lines tree ∧ tree.form = .module ∧
      @Ast.Within (.linesOf (Document.normalize source)) tree := by
  obtain ⟨l, hl⟩ := exists_of_read h
  obtain ⟨-, tree, hprogram, hroot⟩ := Document.exists_of_read hl
  exact ⟨tree, hroot, form_of_readProgram hprogram, within_of_readProgram hprogram⟩

end QueryLint
