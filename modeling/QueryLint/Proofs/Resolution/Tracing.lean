import QueryLint.Proofs.Document
import QueryLint.Proofs.Resolution
import QueryLint.Proofs.SqlRules.Check
import QueryLint.Proofs.Tree

/-!
# What tracing is sound for

A traced text is the value of a string literal that stands in the source, in the block of
the candidate, two tokens behind the first name token that reads like the expression. What
stands between the two is not looked at, so that the literal need not be bound to the name.
-/

namespace QueryLint

/-- The token two places behind the first one that satisfies a test. -/
theorem Token.exists_split_of_findFrom? {p : Token → Bool} {tokens : List Token} {value : Token}
    {i : Nat} (hfound : findFrom? p 0 tokens = some i) (hvalue : tokens[i + 2]? = some value) :
    ∃ before first between after, tokens = before ++ first :: between :: value :: after ∧
      p first = true ∧ ∀ t ∈ before, p t = false := by
  have hindex : tokens.findIdx? p = some i := by simpa [findFrom?] using hfound
  obtain ⟨hi, hp, hbefore⟩ := List.findIdx?_eq_some_iff_getElem.1 hindex
  obtain ⟨hi', hget⟩ := List.getElem?_eq_some_iff.1 hvalue
  refine ⟨tokens.take i, tokens[i], tokens[i + 1], tokens.drop (i + 3), ?_, hp, ?_⟩
  · rw [← hget, List.getElem_cons_drop, List.getElem_cons_drop, List.getElem_cons_drop,
      List.take_append_drop]
  · intro t ht
    obtain ⟨j, hj, rfl⟩ := List.mem_iff_getElem.1 ht
    simpa using hbefore j (by simp at hj; omega)

namespace Resolution

open Engine (read contextOf)

/-- How a text of a source is traced: through the tokens of a block that encloses the site,
from a name over one further token to a string literal. -/
structure Trail (source : String) (d : Document) (site : Visit) (candidate : Candidate)
    (text : ResolvedText) where
  block : Visit
  before : List Token
  name : Token
  between : Token
  literal : Token
  after : List Token
  block_eq : candidate.block = some block
  encloses : block ∈ site.ancestors ∧ block.node.kind.isBlock = true
  stream : d.tokensIn block.node = before ++ name :: between :: literal :: after
  /-- The name is what the source of the expression reads. -/
  name_eq : name.type = .name ∧ name.string = candidate.expression.node.text d.lines
  /-- No earlier name token of the block reads so. -/
  first : ∀ t ∈ before, t.type = .name → t.string ≠ name.string
  /-- The literal denotes the text. -/
  denotes : literal.type = .string ∧ Source.textLiteral literal.string = .ok (some text.sql)
  identifier_eq : text.identifier = some name.string
  anchor_eq : text.anchor = literal.span
  excerpt_eq : text.anchor.excerpt d.lines = literal.string.toList
  /-- The three tokens stand in the source one behind the other, and there the literal is
  found at the anchor. -/
  stands : ∃ earlier gap gap' later,
    Document.normalize source = earlier ++ name.string.toList ++ gap ++
      between.string.toList ++ gap' ++ literal.string.toList ++ later ∧
    name.span = Span.ofStretch earlier name.string.toList ∧
    literal.span = Span.ofStretch (earlier ++ name.string.toList ++ gap ++
      between.string.toList ++ gap') literal.string.toList

/-- A traced text is what a string literal of the source denotes. The literal stands at the
anchor, behind the name and one further token of the block; the name is the source of the
expression, and the first name token of the block that reads so. -/
theorem exists_trail_of_traced {language path source : String} {limits : Document.Limits}
    {d : Document} {markers : Markers} {site : Visit} {candidate : Candidate} {text : ResolvedText}
    (hread : read language path source limits = .ok (some d))
    (hcandidate : Candidate.detect? d.lines markers site = some candidate)
    (hfound : resolve d.lines candidate.expression.node
      ((contextOf language path d).tokensIn candidate.block) = .found text)
    (htraced : text.origin = .traced) : Nonempty (Trail source d site candidate text) := by
  obtain ⟨sql, -, -, -, rfl⟩ | ⟨-, -, -, stream, hstream, htrace⟩ := resolve_eq_found_iff.1 hfound
  · cases htraced
  obtain ⟨i, literal, sql, hfirst, hvalue, htype, hsql, -, rfl⟩ := trace_eq_found_iff.1 htrace
  obtain ⟨before, name, between, after, hsplit, hname, hbefore⟩ :=
    Token.exists_split_of_findFrom? hfirst hvalue
  obtain ⟨htypename, hstring⟩ : name.type = .name ∧
      name.string = candidate.expression.node.text d.lines := by simpa using hname
  obtain ⟨block, hblock, rfl⟩ := Engine.exists_of_tokensIn hstream
  have hencloses : site.ancestors.find? (·.node.kind.isBlock) = some block := by
    rw [← hblock, (Candidate.exists_of_detect? hcandidate).1]
    rfl
  have hothers : ∀ t ∈ before, t.type = .name → t.string ≠ name.string := by
    intro t ht htypet
    have hother := hbefore t ht
    rw [hstring]
    simpa [htypet] using hother
  have hthree : [name, between, literal].Sublist (d.tokensIn block.node) := by
    rw [hsplit]
    simp
  -- the block's stream is a part of all tokens, which stand in the source in their order
  have hlaid := (Engine.laidOut_of_read hread).sublist
    (List.reverse_sublist.2 (hthree.trans (d.tokensIn_sublist block.node)))
  have hexcerpt : literal.span.excerpt d.lines = literal.string.toList := by
    rw [Engine.lines_of_read hread]
    exact (hlaid.standsIn List.mem_cons_self).excerpt_span
  obtain ⟨_, later, hcs, hspan, _, gap', rfl, -, earlier, gap, rfl, hspan', -⟩ := hlaid
  exact ⟨{
    block, before, name, between, literal, after
    block_eq := hblock
    encloses := ⟨List.mem_of_find?_eq_some hencloses, by simpa using List.find?_some hencloses⟩
    stream := hsplit
    name_eq := ⟨htypename, hstring⟩
    first := hothers
    denotes := ⟨htype, hsql⟩
    identifier_eq := by rw [hstring]
    anchor_eq := rfl
    excerpt_eq := hexcerpt
    stands := ⟨earlier, gap, gap', later, hcs, hspan', hspan⟩ }⟩

theorem exists_trail_of_assigned_name :
    let source := "def f():\n    q = \"SELEKT 1\"\n    SqlCommand(q)\n"
    let text : ResolvedText := ⟨"SELEKT 1", ⟨2, 8, 2, 18⟩, .traced, some "q"⟩
    ∃ d site candidate, read "python" "a.py" source = .ok (some d) ∧
      Candidate.detect? d.lines .default site = some candidate ∧
      resolve d.lines candidate.expression.node
        ((contextOf "python" "a.py" d).tokensIn candidate.block) = .found text ∧
      Nonempty (Trail source d site candidate text) := by
  intro source text
  have hread : (read "python" "a.py" source).toOption.join.map (fun d =>
      d.root.visits.filterMap fun site => (Candidate.detect? d.lines .default site).map
        fun c => resolve d.lines c.expression.node
          ((contextOf "python" "a.py" d).tokensIn c.block)) = some [.found text] := by
    decide +kernel
  obtain ⟨d, hd, htexts⟩ := Engine.read_eq_of_map hread
  obtain ⟨site, -, hsite⟩ := List.mem_filterMap.1 (htexts ▸ List.mem_singleton_self (found text))
  obtain ⟨candidate, hcandidate, hfound⟩ := Option.map_eq_some_iff.1 hsite
  exact ⟨d, site, candidate, hd, hcandidate, hfound,
    exists_trail_of_traced hd hcandidate hfound rfl⟩

/-- Whether a place binds a name to a string literal with the given text and span: as an
assignment, as an assignment in passing, or, whatever its name, as the default of a
parameter. -/
def bindsText (name sql : String) (span : Span) (v : Visit) : Bool :=
  let isName (t : Visit) : Bool := t.node.kind == .identifier && t.node.value == .text name
  let isLiteral (e : Visit) : Bool :=
    e.node.kind == .stringLiteral && e.node.value == .text sql && e.node.span == span
  ((v.field "target" ++ v.field "targets").any isName && (v.field "value").any isLiteral) ||
    (v.field "defaults" ++ v.field "kw_defaults").any isLiteral

/-- A literal that merely follows the name in a list of arguments is taken for its value. -/
theorem traced_text_bound_nowhere :
    ∃ d, read "python" "a.py" "print(q, \"SELEKT 1\")\nSqlCommand(q)\n" = .ok (some d) ∧
      d.root.visits.filterMap (SqlRules.textAt? .default (contextOf "python" "a.py" d) d.lines) =
        [⟨"SELEKT 1", ⟨1, 9, 1, 19⟩, .traced, some "q"⟩] ∧
      ∀ v ∈ d.root.visits, bindsText "q" "SELEKT 1" ⟨1, 9, 1, 19⟩ v = false := by
  have hread : (read "python" "a.py" "print(q, \"SELEKT 1\")\nSqlCommand(q)\n").toOption.join.map
      (fun d => (d.root.visits.filterMap
          (SqlRules.textAt? .default (contextOf "python" "a.py" d) d.lines),
        d.root.visits.any (bindsText "q" "SELEKT 1" ⟨1, 9, 1, 19⟩))) =
      some ([⟨"SELEKT 1", ⟨1, 9, 1, 19⟩, .traced, some "q"⟩], false) := by decide +kernel
  obtain ⟨d, hd, hboth⟩ := Engine.read_eq_of_map hread
  obtain ⟨htexts, hnone⟩ := Prod.mk.inj hboth
  exact ⟨d, hd, htexts, by simpa using hnone⟩

end Resolution

end QueryLint
