import QueryLint.Proofs.Tree.Rendering

/-!
# The tokens of a block are a stretch of the file

Tokens stand in a file one behind the other. Of three tokens in a row, the one in the middle lies
inside every span that the outer two lie inside of. So the tokens of a block, although they are
picked out one by one, are a contiguous stretch of the file, and the stream of a block inside
another one is a stretch of the outer stream.
-/

namespace QueryLint

open Text Source

namespace Span

theorem before_iff {line column line' column' : Int} :
    before line column line' column' = true ↔ line < line' ∨ line = line' ∧ column ≤ column' := by
  simp [before]

theorem before_trans {line column line' column' line'' column'' : Int}
    (h : before line column line' column' = true)
    (h' : before line' column' line'' column'' = true) :
    before line column line'' column'' = true := by
  rw [before_iff] at h h' ⊢
  omega

/-- A span does not end before it starts. -/
def IsForward (s : Span) : Prop := before s.startLine s.startColumn s.endLine s.endColumn = true

/-- A span ends no later than another one starts. -/
def EndsBefore (s s' : Span) : Prop :=
  before s.endLine s.endColumn s'.startLine s'.startColumn = true

/-- A span starts no later than another one, and ends no later. -/
def Precedes (s s' : Span) : Prop :=
  before s.startLine s.startColumn s'.startLine s'.startColumn = true ∧
    before s.endLine s.endColumn s'.endLine s'.endColumn = true

instance : Trans Precedes Precedes Precedes :=
  ⟨fun h h' => ⟨before_trans h.1 h'.1, before_trans h.2 h'.2⟩⟩

theorem EndsBefore.precedes {s s' : Span} (h : s.EndsBefore s') (hs : s.IsForward)
    (hs' : s'.IsForward) : s.Precedes s' :=
  ⟨before_trans hs h, before_trans h hs'⟩

theorem contains_iff {outer inner : Span} : outer.contains inner = true ↔
    before outer.startLine outer.startColumn inner.startLine inner.startColumn = true ∧
      before inner.endLine inner.endColumn outer.endLine outer.endColumn = true := by
  rw [contains, Bool.and_eq_true]

theorem contains_trans {outer middle inner : Span} (h : outer.contains middle = true)
    (h' : middle.contains inner = true) : outer.contains inner = true := by
  rw [contains_iff] at h h' ⊢
  exact ⟨before_trans h.1 h'.1, before_trans h'.2 h.2⟩

/-- A span that holds two others holds what comes between them. -/
theorem contains_of_precedes {s first middle last : Span} (hfirst : s.contains first = true)
    (hlast : s.contains last = true) (h : first.Precedes middle) (h' : middle.Precedes last) :
    s.contains middle = true := by
  rw [contains_iff] at hfirst hlast ⊢
  exact ⟨before_trans hfirst.1 h.1, before_trans h'.2 hlast.2⟩

end Span

namespace Token

/-- Tokens in the order of the source and without overlaps: each one starts no later than it ends,
and ends no later than the next one starts. -/
structure InOrder (tokens : List Token) : Prop where
  forward : ∀ t ∈ tokens, t.span.IsForward
  apart : tokens.IsChain fun t u => t.span.EndsBefore u.span

/-- A stream is the stretch of some tokens that consists of the chosen ones: none of those in
front of it or behind it is chosen, and the token so many places after one of the stream is the
one as many places after it among all tokens. -/
def IsStretch (chosen : Token → Prop) (stream tokens : List Token) : Prop :=
  ∃ front rear, tokens = front ++ stream ++ rear ∧ (∀ t ∈ stream, chosen t) ∧
    (∀ t ∈ front ++ rear, ¬ chosen t) ∧
    ∀ i k, i + k < stream.length → stream[i + k]? = tokens[front.length + i + k]?

theorem isStretch_of_append {chosen : Token → Prop} (front rear : List Token)
    {stream : List Token} (hstream : ∀ t ∈ stream, chosen t) (hfront : ∀ t ∈ front, ¬ chosen t)
    (hrear : ∀ t ∈ rear, ¬ chosen t) : IsStretch chosen stream (front ++ stream ++ rear) := by
  refine ⟨front, rear, rfl, hstream, fun t ht => ?_, fun i k hk => ?_⟩
  · exact (List.mem_append.1 ht).elim (hfront t) (hrear t)
  · rw [List.append_assoc, Nat.add_assoc, List.getElem?_append_right (Nat.le_add_right _ _),
      Nat.add_sub_cancel_left, List.getElem?_append_left hk]

theorem IsStretch.isInfix {chosen : Token → Prop} {stream tokens : List Token}
    (h : IsStretch chosen stream tokens) : stream <:+: tokens := by
  obtain ⟨front, rear, hsplit, -⟩ := h
  exact ⟨front, rear, hsplit.symm⟩

/-- A choice that takes what stands between two chosen tokens picks a stretch. -/
theorem isStretch_filter {chosen : Token → Bool} {tokens : List Token}
    (horder : tokens.Pairwise fun t u => t.span.Precedes u.span)
    (hbetween : ∀ first middle last : Token, first.span.Precedes middle.span →
      middle.span.Precedes last.span → chosen first = true → chosen last = true →
        chosen middle = true) :
    IsStretch (chosen · = true) (tokens.filter chosen) tokens := by
  induction tokens with
  | nil => exact isStretch_of_append [] [] (by simp) (by simp) (by simp)
  | cons t tokens ih =>
    obtain ⟨hfirst, hrest⟩ := List.pairwise_cons.1 horder
    obtain ⟨front, rear, hsplit, hstream, hothers, -⟩ := ih hrest
    have hrear : ∀ u ∈ rear, ¬ chosen u = true := fun u hu =>
      hothers u (List.mem_append_right front hu)
    by_cases ht : chosen t = true
    · rw [List.filter_cons_of_pos ht]
      cases hfilter : tokens.filter chosen with
      | nil =>
        -- the first token is the only one
        refine isStretch_of_append [] tokens (by simpa using ht) (by simp) ?_
        exact fun u hu => List.filter_eq_nil_iff.1 hfilter u hu
      | cons v stream =>
        -- a token in front of the stretch would stand between the first one and its head
        have hfront : front = [] := by
          refine List.eq_nil_iff_forall_not_mem.2 fun u hu => ?_
          refine hothers u (List.mem_append_left rear hu) ?_
          have hv : chosen v = true := hstream v (by rw [hfilter]; exact List.mem_cons_self)
          have hu' : u ∈ tokens := by
            rw [hsplit, List.append_assoc]
            exact List.mem_append_left _ hu
          rw [hsplit, hfilter, List.append_assoc] at hrest
          have huv := (List.pairwise_append.1 hrest).2.2 u hu v (by simp)
          exact hbetween t u v (hfirst u hu') huv ht hv
        rw [hfront, hfilter, List.nil_append] at hsplit
        have hcons : ∀ u ∈ t :: v :: stream, chosen u = true := by
          rw [hfilter] at hstream
          exact List.forall_mem_cons.2 ⟨ht, hstream⟩
        have hstretch := isStretch_of_append [] rear hcons (by simp) hrear
        rwa [List.nil_append, List.cons_append, ← hsplit] at hstretch
    · rw [List.filter_cons_of_neg ht]
      have hfront : ∀ u ∈ t :: front, ¬ chosen u = true :=
        List.forall_mem_cons.2 ⟨ht, fun u hu => hothers u (List.mem_append_left rear hu)⟩
      have hstretch := isStretch_of_append (t :: front) rear hstream hfront hrear
      rwa [List.cons_append, List.cons_append, ← hsplit] at hstretch

theorem InOrder.pairwise {tokens : List Token} (h : InOrder tokens) :
    tokens.Pairwise fun t u => t.span.Precedes u.span := by
  have hchain : tokens.IsChain fun t u => t.span.Precedes u.span :=
    h.apart.imp_of_mem_imp fun t u ht hu hapart =>
      hapart.precedes (h.forward t ht) (h.forward u hu)
  have htrans : Trans (fun t u : Token => t.span.Precedes u.span)
      (fun t u : Token => t.span.Precedes u.span) (fun t u : Token => t.span.Precedes u.span) :=
    ⟨fun h h' => Trans.trans h h'⟩
  exact hchain.pairwise

theorem inside_eq_self {block : Node}
    (h : block.kind = .module ∨ block.span.hasPosition = false) (tokens : List Token) :
    inside block tokens = tokens := by
  unfold inside
  rw [if_pos]
  simpa using h

theorem inside_eq_filter {block : Node} (hmodule : block.kind ≠ .module)
    (hposition : block.span.hasPosition = true) (tokens : List Token) :
    inside block tokens = tokens.filter fun t => block.span.contains t.span := by
  unfold inside
  rw [if_neg]
  simp [hmodule, hposition]

/-- The tokens inside a span are a stretch of tokens in order. -/
theorem isStretch_contains (s : Span) {tokens : List Token}
    (h : tokens.Pairwise fun t u => t.span.Precedes u.span) :
    IsStretch (s.contains ·.span = true) (tokens.filter fun t => s.contains t.span) tokens :=
  isStretch_filter h fun _ _ _ hleft hright hfirst hlast =>
    Span.contains_of_precedes hfirst hlast hleft hright

/-- The tokens that belong to a block: all of them for a module or a node without position,
otherwise those inside its span. -/
def BelongsTo (block : Node) (t : Token) : Prop :=
  block.kind = .module ∨ block.span.hasPosition = false ∨ block.span.contains t.span = true

theorem isStretch_inside {tokens : List Token} (h : InOrder tokens) (block : Node) :
    IsStretch (BelongsTo block) (inside block tokens) tokens := by
  by_cases hall : block.kind = .module ∨ block.span.hasPosition = false
  · have hstretch : IsStretch (BelongsTo block) tokens ([] ++ tokens ++ []) :=
      isStretch_of_append [] [] (fun t _ => or_assoc.1 (.inl hall)) (by simp) (by simp)
    rw [inside_eq_self hall]
    rwa [List.nil_append, List.append_nil] at hstretch
  · obtain ⟨hmodule, hposition⟩ := not_or.1 hall
    have hbelongs : BelongsTo block = fun t => block.span.contains t.span = true := by
      funext t
      simp [BelongsTo, hmodule, hposition]
    rw [hbelongs, inside_eq_filter hmodule (by simpa using hposition)]
    exact isStretch_contains block.span h.pairwise

/-- Streams are nested as the spans of their blocks are. A module is taken to cover all tokens. -/
theorem inside_isInfix_inside {tokens : List Token} (h : InOrder tokens) {outer inner : Node}
    (hspans : outer.span.contains inner.span = true)
    (hmodule : inner.kind = .module → ∀ t ∈ tokens, inner.span.contains t.span = true) :
    inside inner tokens <:+: inside outer tokens := by
  by_cases houter : outer.kind = .module ∨ outer.span.hasPosition = false
  · rw [inside_eq_self houter]
    exact (isStretch_inside h inner).isInfix
  obtain ⟨hkind, hposition⟩ := not_or.1 houter
  rw [Bool.not_eq_false] at hposition
  rw [inside_eq_filter hkind hposition]
  by_cases hinner : inner.kind = .module
  · -- the outer span covers the module, and so all tokens
    have hall : ∀ t ∈ tokens, outer.span.contains t.span = true := fun t ht =>
      Span.contains_trans hspans (hmodule hinner t ht)
    rw [List.filter_eq_self.2 hall, inside_eq_self (.inl hinner)]
  · have hplaced : inner.span.hasPosition = true := by
      have hstart := (Span.contains_iff.1 hspans).1
      rw [Span.before_iff] at hstart
      simp only [Span.hasPosition, decide_eq_true_eq] at hposition ⊢
      omega
    have hnested : (tokens.filter fun t => outer.span.contains t.span).filter
        (fun t => inner.span.contains t.span) =
          tokens.filter fun t => inner.span.contains t.span := by
      rw [List.filter_filter]
      refine List.filter_congr fun t _ => ?_
      cases hcontains : inner.span.contains t.span with
      | false => rfl
      | true => exact Span.contains_trans hspans hcontains
    rw [inside_eq_filter hinner hplaced, ← hnested]
    exact (isStretch_contains inner.span (h.pairwise.sublist List.filter_sublist)).isInfix

end Token

/-- Reading on does not lead back. -/
theorem Source.Place.before_advanceOver (p : Place) (cs : List Char) :
    Span.before p.line p.column (p.advanceOver cs).line (p.advanceOver cs).column = true := by
  induction cs generalizing p with
  | nil => exact Span.before_iff.2 (.inr ⟨rfl, le_refl _⟩)
  | cons c cs ih =>
    have hstep : Span.before p.line p.column (p.advance c).line (p.advance c).column = true := by
      rw [Span.before_iff, advance]
      split
      · exact .inl (by simp)
      · exact .inr (by simp)
    exact Span.before_trans hstep (ih (p.advance c))

theorem Span.isForward_ofStretch (before chars : List Char) : (ofStretch before chars).IsForward :=
  (Place.start.advanceOver before).before_advanceOver chars

/-- A stretch ends before one that starts behind it. -/
theorem Span.endsBefore_ofStretch (before chars between chars' : List Char) :
    (ofStretch before chars).EndsBefore (ofStretch (before ++ chars ++ between) chars') := by
  have hread : Place.start.advanceOver (before ++ chars ++ between) =
      ((Place.start.advanceOver before).advanceOver chars).advanceOver between := by
    rw [Place.advanceOver_append, Place.advanceOver_append]
  have hlater := ((Place.start.advanceOver before).advanceOver chars).before_advanceOver between
  rwa [← hread] at hlater

/-- The span of a stretch contains that of each part of it. -/
theorem Span.contains_ofStretch (before left chars right : List Char) :
    (ofStretch before (left ++ chars ++ right)).contains (ofStretch (before ++ left) chars) =
      true := by
  simp only [contains_iff, ofStretch, Place.advanceOver_append]
  exact ⟨Place.before_advanceOver _ left, Place.before_advanceOver _ right⟩

theorem Token.LaidOut.inOrder {tokens : List Token} {cs : List Char} (h : LaidOut tokens cs) :
    InOrder tokens.reverse := by
  constructor
  · intro t ht
    obtain ⟨before, after, -, hspan⟩ := h.standsIn (List.mem_reverse.1 ht)
    rw [hspan]
    exact Span.isForward_ofStretch before _
  · rw [List.isChain_reverse]
    induction tokens generalizing cs with
    | nil => exact .nil
    | cons t earlier ih =>
      obtain ⟨before, after, rfl, hspan, hearlier⟩ := h
      cases earlier with
      | nil => exact .singleton t
      | cons u earlier =>
        refine .cons_cons ?_ (ih hearlier)
        obtain ⟨before', between, rfl, hspan', -⟩ := hearlier
        rw [hspan, hspan']
        exact Span.endsBefore_ofStretch before' _ between _

namespace Engine

variable {language path source : String} {limits : Document.Limits} {d : Document}

theorem inOrder_of_read (h : read language path source limits = .ok (some d)) :
    Token.InOrder d.tokens := by
  have horder := (laidOut_of_read h).inOrder
  rwa [List.reverse_reverse] at horder

/-- A module of a document covers all its tokens. -/
theorem contains_of_module_of_read (h : read language path source limits = .ok (some d)) {m : Node}
    (hm : m ∈ d.root.walk) (hkind : m.kind = .module) {t : Token} (ht : t ∈ d.tokens) :
    m.span.contains t.span = true := by
  obtain ⟨a, hroot, -⟩ := exists_tree_of_read h
  rw [hroot] at hm
  obtain ⟨way, ⟨form, value, extent, fields⟩, -, rfl⟩ := Node.exists_reaches_of_mem_walk hm
  obtain rfl := Node.form_of_kindOf hkind rfl
  have hspan : (Node.ofAst d.lines (.node .module value extent fields)).span =
      Span.ofStretch [] (Document.normalize source) := by
    rw [lines_of_read h]
    exact Node.spanOf_module _ extent
  obtain ⟨before, after, hsource, hstretch⟩ :=
    (laidOut_of_read h).standsIn (List.mem_reverse.2 ht)
  rw [hspan, hstretch, hsource]
  exact Span.contains_ofStretch [] before _ after

/-- What belongs to a block of a document are the tokens inside its span. -/
theorem belongsTo_iff_of_read (h : read language path source limits = .ok (some d)) {block : Node}
    (hmem : block ∈ d.root.walk) (hblock : block.kind.isBlock = true) {t : Token}
    (ht : t ∈ d.tokens) : t.BelongsTo block ↔ block.span.contains t.span = true := by
  by_cases hmodule : block.kind = .module
  · simp [Token.BelongsTo, hmodule, contains_of_module_of_read h hmem hmodule ht]
  · obtain ⟨a, hroot, -, hdefinitions, -⟩ := placed_of_read h
    have hposition := Node.hasPosition_of_isBlock hdefinitions (hroot ▸ hmem) hblock hmodule
    simp [Token.BelongsTo, hmodule, hposition]

end Engine

namespace Token

theorem IsStretch.congr {chosen chosen' : Token → Prop} {stream tokens : List Token}
    (h : IsStretch chosen stream tokens) (heq : ∀ t ∈ tokens, chosen t ↔ chosen' t) :
    IsStretch chosen' stream tokens := by
  obtain ⟨front, rear, rfl, hstream, hothers, hindex⟩ := h
  refine ⟨front, rear, rfl, fun t ht => ?_, fun t ht => ?_, hindex⟩
  · exact (heq t (by simp [ht])).1 (hstream t ht)
  · refine mt (heq t ?_).2 (hothers t ht)
    obtain ht | ht := List.mem_append.1 ht <;> simp [ht]

/-- The stream of a block is a contiguous stretch of the file. Of any tokens in order, those that
belong to a block come one after the other, none is left out, and going on in the stream is going
on in the file. If the span of one block contains that of another, the stream of the inner one is
a contiguous stretch of the outer stream; for this, a module has to cover the tokens of its file.
In a document that is read the tokens are in order, a module covers them, and the tokens that
belong to a block are those inside its span. -/
theorem block_streams_are_stretches :
    (∀ tokens, InOrder tokens →
      (∀ block, IsStretch (BelongsTo block) (inside block tokens) tokens) ∧
      ∀ outer inner : Node, outer.span.contains inner.span = true →
        (inner.kind = .module → ∀ t ∈ tokens, inner.span.contains t.span = true) →
          inside inner tokens <:+: inside outer tokens) ∧
    ∀ (language path source : String) (limits : Document.Limits) (d : Document),
      Engine.read language path source limits = .ok (some d) →
      InOrder d.tokens ∧
      (∀ block ∈ d.root.walk, block.kind.isBlock = true →
        IsStretch (block.span.contains ·.span = true) (d.tokensIn block) d.tokens ∧
          (block.kind = .module → d.tokensIn block = d.tokens)) ∧
      ∀ outer ∈ d.root.walk, ∀ inner ∈ d.root.walk, outer.span.contains inner.span = true →
        d.tokensIn inner <:+: d.tokensIn outer := by
  constructor
  · intro tokens horder
    exact ⟨isStretch_inside horder, fun outer inner => inside_isInfix_inside horder⟩
  · intro language path source limits d hread
    have horder := Engine.inOrder_of_read hread
    refine ⟨horder, fun block hmem hblock => ⟨?_, fun hmodule => ?_⟩, ?_⟩
    · exact (isStretch_inside horder block).congr fun t =>
        Engine.belongsTo_iff_of_read hread hmem hblock
    · exact inside_eq_self (.inl hmodule) d.tokens
    · intro outer _ inner hinner hspans
      exact inside_isInfix_inside horder hspans fun hmodule t =>
        Engine.contains_of_module_of_read hread hinner hmodule

/-- A method in a class, with tokens of the class before it and behind it. -/
theorem block_streams_are_stretches_in_class :
    let source := "class A:\n    p = 1\n    def f(self): q = 2\n    r = 3\ns = 4\n"
    ∃ d, Engine.read "python" "a.py" source = .ok (some d) ∧
      ∃ outer ∈ d.root.walk, ∃ inner ∈ d.root.walk,
        outer.kind = .classDefinition ∧ inner.kind = .function ∧
        (d.tokensIn inner).map (·.string) =
          ["def", "f", "(", "self", ")", ":", "q", "=", "2"] ∧
        IsStretch (inner.span.contains ·.span = true) (d.tokensIn inner) d.tokens ∧
        d.tokensIn inner <:+: d.tokensIn outer := by
  intro source
  have hread : (Engine.read "python" "a.py" source).toOption.join.map (fun d =>
      (d.root.walk.filter (·.kind.isBlock)).map fun b =>
        (b.kind, b.span, if b.kind = .function then (d.tokensIn b).map (·.string) else [])) =
      some [(.module, ⟨1, 0, 6, 0⟩, []), (.classDefinition, ⟨1, 0, 4, 9⟩, []),
        (.function, ⟨3, 4, 3, 22⟩, ["def", "f", "(", "self", ")", ":", "q", "=", "2"])] := by
    decide +kernel
  obtain ⟨d, hd, hblocks⟩ := Engine.read_eq_of_map hread
  obtain ⟨root, rest, hrest, -, hblocks⟩ := List.map_eq_cons_iff.1 hblocks
  obtain ⟨outer, rest', rfl, houter, hblocks⟩ := List.map_eq_cons_iff.1 hblocks
  obtain ⟨inner, rest'', rfl, hinner, -⟩ := List.map_eq_cons_iff.1 hblocks
  have hclass : outer.kind = .classDefinition := congrArg (·.1) houter
  have hfunction : inner.kind = .function := congrArg (·.1) hinner
  have hspans : outer.span.contains inner.span = true := by
    have houterSpan : outer.span = ⟨1, 0, 4, 9⟩ := congrArg (·.2.1) houter
    have hinnerSpan : inner.span = ⟨3, 4, 3, 22⟩ := congrArg (·.2.1) hinner
    rw [houterSpan, hinnerSpan]
    decide
  have htokens : (d.tokensIn inner).map (·.string) =
      ["def", "f", "(", "self", ")", ":", "q", "=", "2"] := by
    have hstrings := congrArg (·.2.2) hinner
    rwa [if_pos hfunction] at hstrings
  have hmem : ∀ b ∈ root :: outer :: inner :: rest'', b ∈ d.root.walk := fun b hb =>
    List.mem_of_mem_filter (hrest ▸ hb)
  obtain ⟨-, hstretches, hnested⟩ := block_streams_are_stretches.2 _ _ _ _ d hd
  refine ⟨d, hd, outer, hmem outer (by simp), inner, hmem inner (by simp), hclass, hfunction,
    htokens, ?_, hnested outer (hmem outer (by simp)) inner (hmem inner (by simp)) hspans⟩
  exact (hstretches inner (hmem inner (by simp)) (by rw [hfunction]; rfl)).1

end Token

end QueryLint
