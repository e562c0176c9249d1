import QueryLint.Proofs.Document.Placement

/-!
# The text of a node is a slice of the source

An extent names its ends by line and byte offset, a span by line and column, and the text of a
node is put together from the lines of its span. If both ends lie in the source at boundaries of
characters, the first not behind the second, then the text is what the bytes of the source
between the two ends decode to. A module covers its source, so that its text is all of it.
-/

namespace QueryLint

open Text Source

namespace Text

/-- The number of bytes before a position: those of the lines above it, each with its newline,
and those before the offset in its own line. -/
def bytesBefore (cs : List Char) (line offset : Nat) : Nat :=
  (((newlineLines cs).take (line - 1)).map fun l => (bytesOf l).length + 1).sum + offset

/-- A line, counted from one, and a byte offset lie in a text at a boundary of characters: the
line is one of the text, and the bytes before the offset are those of its first characters. -/
structure AtBoundary (cs : List Char) (line offset : Nat) : Prop where
  pos : 1 ≤ line
  le : line ≤ (newlineLines cs).length
  cut : ∃ left right, lineAt (newlineLines cs) line = left ++ right ∧
    offset = (bytesOf left).length

/-- A position lies behind a text that is read from its start: the lines before the last one are
those above the position, and the bytes of the last one make up its offset. -/
def LiesBehind (before : List Char) (line offset : Nat) : Prop :=
  ∃ above left, newlineLines before = above ++ [left] ∧ line = above.length + 1 ∧
    offset = (bytesOf left).length

theorem newlineLines_of_not_mem {cs : List Char} (h : '\n' ∉ cs) : newlineLines cs = [cs] := by
  rw [newlineLines, cutAt_eq_splitOn]
  exact List.splitOn_eq_singleton h

/-- A position at a boundary lies behind some first part of the text, and the bytes of this part
are those before the position. -/
theorem AtBoundary.exists_liesBehind {cs : List Char} {line offset : Nat}
    (h : AtBoundary cs line offset) :
    ∃ before after, cs = before ++ after ∧ LiesBehind before line offset ∧
      (bytesOf before).length = bytesBefore cs line offset := by
  obtain ⟨hpos, hle, left, right, hline, rfl⟩ := h
  obtain ⟨n, rfl⟩ := Nat.exists_eq_add_of_le' hpos
  induction n generalizing cs with
  | zero =>
    -- in the first line, the part is the beginning of the line
    obtain ⟨rest, hcs, hnone⟩ : ∃ rest, cs = left ++ right ++ rest ∧ '\n' ∉ left ++ right := by
      obtain ⟨hnone, hcut⟩ | ⟨piece, rest, hcs, hnone, hcut⟩ := cutAt_cases '\n' cs
      · obtain rfl : cs = left ++ right := by simpa [lineAt, newlineLines, hcut] using hline
        exact ⟨[], (List.append_nil _).symm, hnone⟩
      · obtain rfl : piece = left ++ right := by simpa [lineAt, newlineLines, hcut] using hline
        exact ⟨'\n' :: rest, hcs, hnone⟩
    have hleft := newlineLines_of_not_mem fun hmem => hnone (List.mem_append_left right hmem)
    refine ⟨left, right ++ rest, by rw [hcs, List.append_assoc], ⟨[], left, hleft, rfl, rfl⟩, ?_⟩
    simp [bytesBefore]
  | succ n ih =>
    obtain ⟨-, hcut⟩ | ⟨piece, rest, rfl, hnone, hcut⟩ := cutAt_cases '\n' cs
    · rw [newlineLines, hcut, List.length_singleton] at hle
      omega
    · have hlines : newlineLines (piece ++ '\n' :: rest) = piece :: newlineLines rest := hcut
      rw [hlines, List.length_cons] at hle
      have hbelow : lineAt (newlineLines rest) (n + 1) = left ++ right := by
        rw [← hline, hlines]
        rfl
      obtain ⟨before, after, rfl, ⟨above, last, hends, habove, hlast⟩, hbytes⟩ :=
        ih (by omega) (by omega) hbelow
      refine ⟨piece ++ '\n' :: before, after, by simp, ⟨piece :: above, last, ?_, ?_, hlast⟩, ?_⟩
      · rw [newlineLines, cutAt_append_cons_self]
        change newlineLines piece ++ newlineLines before = _
        rw [newlineLines_of_not_mem hnone, hends]
        rfl
      · rw [habove, List.length_cons]
      · have hnewline : (bytesOf ('\n' :: before)).length = 1 + (bytesOf before).length :=
          length_bytesOf_cons '\n' before
        rw [bytesOf_append, List.length_append, hnewline, hbytes]
        simp only [bytesBefore, hlines, Nat.add_sub_cancel, List.take_succ_cons, List.map_cons,
          List.sum_cons]
        omega

/-- Of two parts that a text begins with, the one with the earlier position is the shorter. -/
theorem LiesBehind.exists_append {before before' after after' : List Char}
    {line offset line' offset' : Nat} (h : LiesBehind before line offset)
    (h' : LiesBehind before' line' offset') (htext : before ++ after = before' ++ after')
    (horder : line < line' ∨ line = line' ∧ offset ≤ offset') :
    ∃ chars, before' = before ++ chars := by
  have hprefix : before <+: before' ∨ before' <+: before :=
    List.prefix_or_prefix_of_prefix (List.prefix_append before after)
      (htext ▸ List.prefix_append before' after')
  obtain ⟨chars, rfl⟩ | ⟨chars, rfl⟩ := hprefix
  · exact ⟨chars, rfl⟩
  -- otherwise the first part is longer by some characters, of which there are none
  obtain ⟨above', left', hends', rfl, rfl⟩ := h'
  obtain ⟨above, left, hends, rfl, rfl⟩ := h
  obtain ⟨first, rest, hchars⟩ := List.exists_cons_of_ne_nil (cutAt_ne_nil '\n' chars)
  have hjoin : newlineLines (before' ++ chars) = above' ++ (left' ++ first) :: rest :=
    cutAt_append hends' hchars
  rw [hends] at hjoin
  have hlength := congrArg List.length hjoin
  simp only [List.length_append, List.length_cons, List.length_nil] at hlength
  obtain rfl : rest = [] := List.length_eq_zero_iff.1 (by omega)
  obtain ⟨rfl, hleft⟩ := List.append_inj' hjoin rfl
  obtain rfl : left = left' ++ first := by simpa using hleft
  have hfirst : first = chars := by
    have hparts := intercalate_cutAt '\n' chars
    rwa [hchars, List.intercalate_singleton] at hparts
  rw [bytesOf_append, List.length_append] at horder
  have hnone : chars = [] := length_bytesOf_eq_zero_iff.1 (by rw [← hfirst]; omega)
  exact ⟨[], by rw [hnone, List.append_nil, List.append_nil]⟩

end Text

/-- Both ends of an extent lie in a source at boundaries of characters, and it does not end before
it starts. -/
structure Source.Extent.LiesIn (e : Extent) (cs : List Char) : Prop where
  first : AtBoundary cs e.line e.offset
  last : AtBoundary cs e.endLine e.endOffset
  order : e.line < e.endLine ∨ e.line = e.endLine ∧ e.offset ≤ e.endOffset

/-- The bytes of a source between the two ends of an extent. -/
def Source.Extent.bytesIn (e : Extent) (cs : List Char) : List UInt8 :=
  ((bytesOf cs).take (bytesBefore cs e.endLine e.endOffset)).drop (bytesBefore cs e.line e.offset)

/-- An extent that lies in a source cuts a stretch out of it. -/
theorem Source.Extent.LiesIn.exists_stretch {e : Extent} {cs : List Char} (h : e.LiesIn cs) :
    ∃ before chars after, cs = before ++ chars ++ after ∧ LiesBehind before e.line e.offset ∧
      LiesBehind (before ++ chars) e.endLine e.endOffset ∧ e.bytesIn cs = bytesOf chars := by
  obtain ⟨before, rest, htext, hfirst, hbytes⟩ := h.first.exists_liesBehind
  obtain ⟨upto, after, htext', hlast, hbytes'⟩ := h.last.exists_liesBehind
  obtain ⟨chars, rfl⟩ := hfirst.exists_append hlast (htext.symm.trans htext') h.order
  refine ⟨before, chars, after, htext', hfirst, hlast, ?_⟩
  rw [bytesIn, ← hbytes, ← hbytes', htext', bytesOf_append (before ++ chars), List.take_left,
    bytesOf_append, List.drop_left]

namespace Node

/-- The column of a position is the one of the place behind the text that was read. -/
theorem columnAt_of_liesBehind {before : List Char} {line offset : Nat}
    (h : LiesBehind before line offset) (after : List Char) :
    (Place.start.advanceOver before).line = line ∧
      columnAt (newlineLines (before ++ after)) line offset =
        (Place.start.advanceOver before).column := by
  obtain ⟨above, left, hends, rfl, rfl⟩ := h
  obtain ⟨right, below, hafter⟩ := List.exists_cons_of_ne_nil (cutAt_ne_nil '\n' after)
  have hlines : newlineLines (before ++ after) = above ++ (left ++ right) :: below :=
    cutAt_append hends hafter
  obtain ⟨hline, hcolumn⟩ := Place.start_advanceOver hends
  have hat : (newlineLines (before ++ after))[above.length]? = some (left ++ right) := by
    rw [hlines, List.getElem?_append_right (Nat.le_refl _), Nat.sub_self]
    rfl
  refine ⟨hline, ?_⟩
  rw [hcolumn, columnAt, hat]
  exact charColumn_append left right

/-- An extent whose ends lie before and behind a stretch of the source has the span of it. -/
theorem spanOfExtent_eq_ofStretch {before chars after : List Char} {e : Extent}
    (hfirst : LiesBehind before e.line e.offset)
    (hlast : LiesBehind (before ++ chars) e.endLine e.endOffset) :
    spanOfExtent (newlineLines (before ++ chars ++ after)) e = Span.ofStretch before chars := by
  obtain ⟨hline, hcolumn⟩ := columnAt_of_liesBehind hfirst (chars ++ after)
  obtain ⟨hline', hcolumn'⟩ := columnAt_of_liesBehind hlast after
  rw [← List.append_assoc] at hcolumn
  rw [spanOfExtent, hcolumn, hcolumn', ← hline, ← hline', Place.advanceOver_append]
  rfl

theorem spanOf_of_extent (lines : List (List Char)) {form : Form} (h : form ≠ .module)
    (e : Extent) : spanOf lines form (some e) = spanOfExtent lines e := by
  unfold spanOf
  split
  · exact absurd rfl h
  · rfl

theorem text_ofAst_of_extent {cs : List Char} {a : Ast} {e : Extent} (hform : a.form ≠ .module)
    (hextent : a.extent = some e) :
    (ofAst (newlineLines cs) a).text (newlineLines cs) =
      String.ofList ((spanOfExtent (newlineLines cs) e).excerpt (newlineLines cs)) := by
  obtain ⟨form, value, extent, fields⟩ := a
  obtain rfl : extent = some e := hextent
  rw [← spanOf_of_extent (newlineLines cs) hform e]
  rfl

/-- The span of a module is that of its whole source. -/
theorem spanOf_module (cs : List Char) (extent : Option Extent) :
    spanOf (newlineLines cs) .module extent = Span.ofStretch [] cs := by
  obtain ⟨above, last, hlines⟩ : ∃ above last, newlineLines cs = above ++ [last] :=
    ⟨_, _, (List.dropLast_concat_getLast (cutAt_ne_nil '\n' cs)).symm⟩
  obtain ⟨hline, hcolumn⟩ := Place.start_advanceOver hlines
  have hstretch : Span.ofStretch [] cs = ⟨1, 0, (Place.start.advanceOver cs).line,
    (Place.start.advanceOver cs).column⟩ := rfl
  rw [hstretch, hline, hcolumn, spanOf, hlines]
  simp

theorem text_ofAst_of_module (cs : List Char) {a : Ast} (h : a.form = .module) :
    (ofAst (newlineLines cs) a).text (newlineLines cs) = String.ofList cs := by
  obtain ⟨form, value, extent, fields⟩ := a
  obtain rfl : form = .module := h
  have hspan : (ofAst (newlineLines cs) (.node .module value extent fields)).span =
      Span.ofStretch [] cs := spanOf_module cs extent
  have hexcerpt := Span.excerpt_ofStretch [] cs []
  rw [List.nil_append, List.append_nil] at hexcerpt
  rw [text, hspan, hexcerpt]

/-- The text of a node is an exact slice of the source. If the extent of a construct lies in the
source, both ends at boundaries of characters, then the text of its node is what the bytes of the
source between the two ends decode to, and has just these bytes, on however many lines they are.
A module has the whole source as its text, and the root of a document that is read has the
normalised source. -/
theorem text_is_source_slice :
    (∀ (cs : List Char) (a : Ast) (e : Extent), a.form ≠ .module → a.extent = some e →
      e.LiesIn cs →
        (ofAst (newlineLines cs) a).text (newlineLines cs) =
            String.ofList (decodeUtf8 (e.bytesIn cs)) ∧
          bytesOf ((ofAst (newlineLines cs) a).text (newlineLines cs)).toList = e.bytesIn cs) ∧
    (∀ (cs : List Char) (a : Ast), a.form = .module →
      (ofAst (newlineLines cs) a).text (newlineLines cs) = String.ofList cs) ∧
    ∀ (language path source : String) (limits : Document.Limits) (d : Document),
      Engine.read language path source limits = .ok (some d) →
        d.root.text d.lines = d.source ∧
          d.source = String.ofList (Document.normalize source) := by
  refine ⟨fun cs a e hform hextent hlies => ?_, fun cs a => text_ofAst_of_module cs, ?_⟩
  · obtain ⟨before, chars, after, rfl, hfirst, hlast, hbytes⟩ := hlies.exists_stretch
    rw [text_ofAst_of_extent hform hextent, spanOfExtent_eq_ofStretch hfirst hlast,
      Span.excerpt_ofStretch, hbytes, String.toList_ofList]
    exact ⟨congrArg String.ofList (decodeUtf8_flatMap chars).symm, rfl⟩
  · intro language path source limits d hread
    obtain ⟨a, hroot, hmodule, -⟩ := Engine.exists_tree_of_read hread
    have hsource := Engine.source_of_read hread
    rw [hroot, Engine.lines_of_read hread, text_ofAst_of_module _ hmodule]
    exact ⟨hsource.symm, hsource⟩

/-- A tuple over two lines, with letters of two bytes before it and in it, and a source with a
mark in front and another kind of line end. -/
theorem text_is_source_slice_with_wide_letters :
    let cs := "é = ('ü',\n  'z')\n".toList
    let e : Extent := ⟨1, 5, 2, 6⟩
    e.LiesIn cs ∧
      (ofAst (newlineLines cs) (.node .tuple .absent (some e) .nil)).text (newlineLines cs) =
        "('ü',\n  'z')" ∧
      ∃ d, Engine.read "python" "a.py" "\uFEFFx = 'é'\r\n" = .ok (some d) ∧
        d.root.text d.lines = "x = 'é'\n" := by
  intro cs e
  have hlies : e.LiesIn cs := by
    refine ⟨⟨by decide, by decide, "é = ".toList, "('ü',".toList, by decide, by decide⟩,
      ⟨by decide, by decide, "  'z')".toList, [], by decide, by decide⟩, .inl (by decide)⟩
  obtain ⟨hslice, -, hroot⟩ := text_is_source_slice
  have hbytes : decodeUtf8 (e.bytesIn cs) = "('ü',\n  'z')".toList := by decide +kernel
  have htext := (hslice cs (.node .tuple .absent (some e) .nil) e (by decide) rfl hlies).1
  rw [hbytes, String.ofList_toList] at htext
  have hread : (Engine.read "python" "a.py" "\uFEFFx = 'é'\r\n").toOption.join.map (·.source) =
      some "x = 'é'\n" := by decide +kernel
  obtain ⟨d, hd, hsource⟩ := Engine.read_eq_of_map hread
  exact ⟨hlies, htext, d, hd, (hroot _ _ _ _ d hd).1.trans hsource⟩

end Node

end QueryLint
