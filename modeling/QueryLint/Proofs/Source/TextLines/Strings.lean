import QueryLint.Proofs.Source.LexemePlaces
import QueryLint.Proofs.Source.TextLines.Basic

/-!
# The lines of texts in strings

Adjacent strings make one text, which starts with the first of them. The fields of a format
string are read from stretches of it: each stretch starts and ends on lines of the string, and
what is parsed from it is scanned from there.
-/

namespace QueryLint.Source

open Std.Do Parse

theorem literalRun_single_rest {top : Bool} {c : Char} {cs text rest : List Char}
    {stop : LiteralStop} (h : literalRun.single top c cs = some (text, stop, rest)) :
    rest = c :: cs := by
  unfold literalRun.single at h
  split_ifs at h <;> cases h <;> rfl

theorem literalRun_suffix {raw top named : Bool} {cs text rest : List Char} {stop : LiteralStop}
    (h : literalRun raw top named cs = some (text, stop, rest)) : rest <:+ cs := by
  -- a step only changes the text that the steps behind it find
  have hmap : ∀ {g : List Char × LiteralStop × List Char → List Char × LiteralStop × List Char}
      {run : Option (List Char × LiteralStop × List Char)} {text : List Char},
      run.map g = some (text, stop, rest) → (∀ x, (g x).2 = x.2) →
      ∃ t, run = some (t, stop, rest) := by
    intro g run text h hg
    obtain ⟨⟨t, x⟩, hrun, heq⟩ := Option.map_eq_some_iff.1 h
    obtain rfl : (stop, rest) = x := by simpa [heq] using hg (t, x)
    exact ⟨t, hrun⟩
  fun_induction literalRun raw top named cs generalizing text with
  | case1 => simp_all
  | case2 c cs ih | case3 cs _ ih | case5 c cs _ _ ih | case9 c d cs _ _ _ ih =>
    obtain ⟨t, ht⟩ := hmap h fun _ => rfl
    exact (ih ht).trans (List.suffix_cons _ _)
  | case4 cs _ ih =>
    obtain ⟨t, ht⟩ := hmap h fun _ => rfl
    exact (ih ht).trans (List.suffix_append ['\\', 'N', '\x7b'] cs)
  | case6 c cs _ _ ih =>
    obtain ⟨t, ht⟩ := hmap h fun _ => rfl
    exact (ih ht).trans (List.suffix_append ['\\', c] cs)
  | case7 c d => cases h; exact List.suffix_append [c, d] _
  | case8 | case10 => rw [literalRun_single_rest h]
  | case11 => cases h; exact List.nil_suffix

theorem fieldExpression_append {inside : Option Quotation} {open_ cs taken rest : List Char}
    (h : fieldExpression inside open_ cs = some (taken, rest)) : taken ++ rest = cs := by
  fun_induction fieldExpression inside open_ cs generalizing taken with
    grind [Option.map_eq_some_iff]

theorem equalsSign_suffix (expression rest : List Char) :
    (match rest with
      | '=' :: more =>
          (expression ++ '=' :: more.takeWhile isAsciiSpace, more.dropWhile isAsciiSpace)
      | _ => ([], rest)).2 <:+ rest := by
  split
  · exact (List.dropWhile_suffix _).trans (List.suffix_cons _ _)
  · exact List.suffix_rfl

theorem fieldHead_stretches {cs : List Char} {head : FieldHead} (h : fieldHead cs = some head) :
    head.expression <+: cs ∧ head.rest <:+ cs := by
  obtain ⟨⟨expression, rest⟩, hexpression, h⟩ := Option.bind_eq_some_iff.1 h
  have happ := fieldExpression_append hexpression
  simp only at h happ
  split_ifs at h
  have hmiddle := equalsSign_suffix expression rest
  obtain ⟨hhead, hrest⟩ : head.expression = expression ∧ head.rest <:+ rest := by
    split at h
    next c more heq =>
      split_ifs at h
      cases h
      have hmark : '!' :: c :: more <:+ rest := by
        rw [← heq]
        exact hmiddle
      exact ⟨rfl, (List.suffix_append ['!', c] more).trans hmark⟩
    next => cases h
    next => cases h; exact ⟨rfl, hmiddle⟩
  rw [hhead, ← happ]
  exact ⟨List.prefix_append _ _, hrest.trans (List.suffix_append _ _)⟩

/-- A string literal is its opening, its body and closing quotes. -/
theorem StringParts.opening_append_body (cs : List Char) :
    (StringParts.of cs).opening ++ (StringParts.of cs).body <+: cs := by
  simp only [StringParts.of, List.span_eq_takeWhile_dropWhile]
  generalize hletters : cs.takeWhile (fun c => !isQuote c) = letters
  generalize hquoted : cs.dropWhile (fun c => !isQuote c) = quoted
  obtain rfl : letters ++ quoted = cs := by
    rw [← hletters, ← hquoted, List.takeWhile_append_dropWhile]
  rw [List.append_assoc, ← List.take_add]
  exact (List.prefix_append_right_inj _).2 (List.take_prefix _ _)

variable [Window]

namespace Window

theorem Covers.sublist {place : Place} {cs ds : List Char} (h : Covers place cs)
    (hds : ds.Sublist cs) : Covers place ds := by
  have hcount := hds.count_le '\n'
  obtain ⟨⟨hfirst, -⟩, -, hlast⟩ := h
  refine ⟨⟨hfirst, ?_⟩, ?_, ?_⟩ <;> omega

theorem Covers.behind {place : Place} {before cs : List Char} (h : Covers place (before ++ cs)) :
    Covers (place.advanceOver before) cs := by
  have hline := place.line_advanceOver before
  obtain ⟨⟨hfirst, -⟩, -, hlast⟩ := h
  rw [List.count_append] at hlast
  refine ⟨⟨?_, ?_⟩, ?_, ?_⟩ <;> omega

theorem Covers.placeAfter {place : Place} {cs rest : List Char} (h : Covers place cs)
    (hrest : rest <:+ cs) : Covers (placeAfter place cs rest) rest := by
  obtain ⟨before, rfl⟩ := hrest
  have htaken : (before ++ rest).take ((before ++ rest).length - rest.length) = before := by simp
  rw [Source.placeAfter, htaken]
  exact h.behind

theorem Covers.fieldPlace {own : Extent} {place : Place} {cs ds : List Char}
    (h : Covers place ds) : Covers (fieldPlace own place cs) ds := by
  unfold Source.fieldPlace
  split_ifs <;> exact h

end Window

/-- What is scanned from a text on lines of the window is as the window asks. -/
theorem Window.holdsAll_of_scan {place : Place} {cs : List Char} {lexemes : List Lexeme}
    (hscan : scan place (cs ++ ['\n']) = some lexemes) (hcovers : Window.Covers place cs) :
    Window.HoldsAll lexemes := by
  obtain ⟨hstands, horder⟩ := standsIn_of_scan hscan
  obtain ⟨⟨hbelow, -⟩, -, habove⟩ := hcovers
  have hstarts : ∀ l ∈ lexemes, Window.first ≤ l.first.line :=
    fun l hl => hbelow.trans (hstands l hl).line_le
  have hlast : ∀ l ∈ lexemes, l.kind.IsTextual → l.last.line ≤ Window.last :=
    fun l hl hkind => ((hstands l hl).last_line_le hkind).trans habove
  refine ⟨hstarts, fun l hl hkind => ?_, fun l hl hkind => hlast l hl (.inr hkind),
    fun l hl => (hstands l hl).notAfter, horder.imp_of_mem fun {l m} _ hm hle => ?_⟩
  · have hends : l.last.line = l.first.line + l.chars.count '\n' := by
      rw [(hstands l hl).ends, Place.line_advanceOver]
    have hfirst := hstarts l hl
    have hend := hlast l hl (.inl hkind)
    refine ⟨⟨⟨hfirst, ?_⟩, ?_, ?_⟩, hends⟩ <;> omega
  · exact hle.trans (hstands m hm).notAfter

/-- Moving lexemes to the front within their lines makes no difference. -/
theorem Window.HoldsAll.map {lexemes : List Lexeme} {f : Lexeme → Lexeme}
    (h : Window.HoldsAll lexemes)
    (hf : ∀ l, (f l).kind = l.kind ∧ (f l).chars = l.chars ∧ (f l).first.line = l.first.line ∧
      (f l).first.offset ≤ l.first.offset ∧ (f l).last = l.last) :
    Window.HoldsAll (lexemes.map f) := by
  have hfront : ∀ l m, l.first.NotAfter m.last → (f l).first.NotAfter (f m).last := by
    intro l m hle
    obtain ⟨-, -, hline, hoffset, -⟩ := hf l
    rw [(hf m).2.2.2.2]
    exact .trans (.inr ⟨hline, hoffset⟩) hle
  refine ⟨List.forall_mem_map.2 fun l hl => ?_, List.forall_mem_map.2 fun l hl hkind => ?_,
    List.forall_mem_map.2 fun l hl hkind => ?_,
    List.forall_mem_map.2 fun l hl => hfront l l (h.forward l hl),
    List.pairwise_map.2 (h.order.imp fun {l m} => hfront l m)⟩
  all_goals obtain ⟨hsame, hchars, hline, -, hlast⟩ := hf l
  · rw [hline]
    exact h.starts l hl
  · obtain ⟨hcovers, hends⟩ := h.strings l hl (hsame ▸ hkind)
    constructor
    · rw [Window.Covers, hline, hchars]
      exact hcovers
    · rw [hlast, hline, hchars, hends]
  · rw [hlast]
    exact h.names l hl (hsame ▸ hkind)

theorem within_textNode {extent : Extent} (h : Window.Spans extent) (cs : List Char) :
    InWindow (textNode extent cs) :=
  ⟨⟨fun _ _ _ => ⟨extent, rfl, h⟩, by simp, by simp, by simp, by simp, by simp⟩, trivial⟩

theorem within_close {j : Joined} {extent : Extent} (hj : InWindow j.parts)
    (hextent : Window.Spans extent) : InWindow (j.close extent) := by
  intro a ha
  unfold Joined.close at ha
  split_ifs at ha
  · exact hj a (List.mem_reverse.1 ha)
  · obtain rfl | ha := List.mem_cons.1 (List.mem_reverse.1 ha)
    · exact within_textNode hextent _
    · exact hj a ha

section

variable {inner : Inner} (h : ∀ [Origin] r, Keeps (inner r))
include h

theorem within_fieldValue {place : Place} {cs : List Char} {a : Ast}
    (hcovers : Window.Covers place cs) (hvalue : fieldValue inner place cs = some a) :
    InWindow a := by
  obtain ⟨lexemes, hscan, hvalue⟩ := Option.bind_eq_some_iff.1 hvalue
  obtain ⟨⟨b, c⟩, hrun, hvalue⟩ := Option.bind_eq_some_iff.1 hvalue
  cases hvalue
  have hscan : scan place (('(' :: cs ++ [')']) ++ ['\n']) = some lexemes := by simpa using hscan
  have hcovers : Window.Covers place ('(' :: cs ++ [')']) := by
    simpa [Window.Covers] using hcovers
  let shifted (l : Lexeme) : Lexeme :=
    if l.first.line = place.line ∧ l.last.line ≠ place.line then
      { l with first := { l.first with offset := l.first.offset - place.offset } }
    else l
  have hahead : Window.HoldsAll (lexemes.map shifted) := by
    refine (Window.holdsAll_of_scan hscan hcovers).map fun l => ?_
    unfold shifted
    split_ifs
    · exact ⟨rfl, rfl, rfl, Nat.sub_le _ _, rfl⟩
    · exact ⟨rfl, rfl, rfl, Nat.le_refl _, rfl⟩
  exact (suffix_of_keeps (fun _ => h .starExpressions) hahead hrun).2

theorem within_formatPieces {raw : Bool} {whole own : Extent} (hwhole : Window.Spans whole)
    (hown : Window.Spans own) {n level : Nat} {place : Place} {j j' : Joined}
    {cs rest : List Char} (hcovers : Window.Covers place cs) (hj : InWindow j.parts)
    (hrun : formatPieces inner raw whole own n level place j cs = some (j', rest)) :
    InWindow j'.parts ∧ rest <:+ cs := by
  induction n generalizing level place j j' cs rest with
  | zero => cases hrun
  | succ n ih =>
    obtain ⟨⟨literal, stop, left⟩, hliteral, hrun⟩ := Option.bind_eq_some_iff.1 hrun
    obtain ⟨text, -, hrun⟩ := Option.bind_eq_some_iff.1 hrun
    have hleft := literalRun_suffix hliteral
    -- reading goes on with a suffix of the text, whatever parts there are by then
    have hgo : ∀ {k : Joined} {left : List Char}, InWindow k.parts → left <:+ cs →
        formatPieces inner raw whole own n level (placeAfter place cs left) k left =
          some (j', rest) → InWindow j'.parts ∧ rest <:+ cs := by
      intro k left hk hleft hrun
      obtain ⟨hparts, hrest⟩ := ih (hcovers.placeAfter hleft) hk hrun
      exact ⟨hparts, hrest.trans hleft⟩
    cases stop with
    | doubled => exact hgo (by exact hj) hleft hrun
    | finish =>
      dsimp only at hrun
      split_ifs at hrun
      cases hrun
      exact ⟨hj, hleft⟩
    | close =>
      cases hrun
      exact ⟨hj, hleft⟩
    | field =>
      dsimp only at hrun
      split_ifs at hrun
      obtain ⟨head, hhead, hrun⟩ := Option.bind_eq_some_iff.1 hrun
      obtain ⟨value, hvalue, hrun⟩ := Option.bind_eq_some_iff.1 hrun
      obtain ⟨hexpression, hrest⟩ := fieldHead_stretches hhead
      have hvalue : InWindow value := by
        refine within_fieldValue h (Window.Covers.fieldPlace ?_) hvalue
        have hsublist := hexpression.sublist.trans (List.drop_sublist 1 left)
        exact (hcovers.placeAfter hleft).sublist hsublist
      have hrest : head.rest <:+ cs := (hrest.trans (List.drop_suffix 1 left)).trans hleft
      have hfield : ∀ {spec : Option Ast} (pending : List Char), InWindow spec →
          InWindow (if pending.isEmpty then
            Ast.node .formattedValue .absent (some whole) (.child "value" value <|
              .plain "conversion" <| .optional "format_spec" spec .nil) :: j.parts
          else Ast.node .formattedValue .absent (some whole) (.child "value" value <|
              .plain "conversion" <| .optional "format_spec" spec .nil) ::
            textNode whole pending :: j.parts) := by
        intro spec pending hspec
        split_ifs <;> simp [hvalue, hspec, hj, within_textNode hwhole]
      split at hrun
      next more hmore =>
        obtain ⟨⟨inside, after⟩, hinside, hrun⟩ := Option.bind_eq_some_iff.1 hrun
        have hsuffix : more <:+ cs := (List.suffix_cons _ _).trans (hmore ▸ hrest)
        obtain ⟨hparts, hafter⟩ := ih (hcovers.placeAfter hsuffix) within_nil hinside
        dsimp only [Option.bind_eq_bind, Option.bind_some] at hrun
        split at hrun
        next left' =>
          refine hgo (hfield _ ?_) ?_ hrun
          · simpa using within_close hparts hown
          · exact (List.suffix_cons _ _).trans (hafter.trans hsuffix)
        next => cases hrun
      next =>
        dsimp only [Option.bind_eq_bind, Option.bind_some] at hrun
        split at hrun
        next left' hleft' =>
          exact hgo (hfield _ within_none) ((List.suffix_cons _ _).trans (hleft' ▸ hrest)) hrun
        next => cases hrun

omit h in
/-- A string and those behind it span the lines from its start to the end of the last. -/
theorem Window.Quotes.spans {l m : Lexeme} (hl : Window.Quotes l) (hm : Window.Quotes m)
    (hle : l.first.line ≤ m.last.line) : Window.Spans (.between l.first m.last) := by
  have habove := hm.covers.2.2
  rw [← hm.ends] at habove
  exact ⟨hl.covers.1.1, hle, habove⟩

theorem within_joinString {whole : Extent} (hwhole : Window.Spans whole) {j j' : Joined}
    {l : Lexeme} (hl : Window.Quotes l) (hj : InWindow j.parts)
    (hrun : joinString inner whole j l = some j') : InWindow j'.parts := by
  unfold joinString at hrun
  dsimp only at hrun
  split_ifs at hrun
  · obtain ⟨⟨k, rest⟩, hpieces, hrun⟩ := Option.bind_eq_some_iff.1 hrun
    cases hrun
    have hbody := (hl.covers.sublist (StringParts.opening_append_body l.chars).sublist).behind
    exact (within_formatPieces h hwhole (hl.spans hl (Nat.le.intro hl.ends.symm)) hbody hj
      hpieces).1
  · obtain ⟨text, -, hrun⟩ := Option.bind_eq_some_iff.1 hrun
    cases hrun
    exact hj

theorem within_joinStrings {whole : Extent} (hwhole : Window.Spans whole)
    {literals : List Lexeme} (hliterals : ∀ l ∈ literals, Window.Quotes l) {j j' : Joined}
    (hj : InWindow j.parts)
    (hrun : literals.foldlM (joinString inner whole) j = some j') : InWindow j'.parts := by
  induction literals generalizing j with
  | nil => cases hrun; exact hj
  | cons l literals ih =>
    obtain ⟨hl, hliterals⟩ := List.forall_mem_cons.1 hliterals
    obtain ⟨k, hk, hrun⟩ := Option.bind_eq_some_iff.1 hrun
    exact ih hliterals (within_joinString h hwhole hl hj hk) hrun

omit [Window] h in
/-- A string in front of a cursor is read, and nothing else is. -/
theorem string?_cases {c c' : Cursor} {o : Option Lexeme}
    (hrun : (do if (← peek) = .string then return some (← next) else return none : Parse _) c =
      some (o, c')) :
    (o = none ∧ c' = c) ∨
      ∃ l, o = some l ∧ l.kind = .string ∧ c.rest = l :: c'.rest ∧ c'.last = l.last := by
  obtain ⟨rest, count, last⟩ := c
  cases rest with
  | nil => cases hrun; exact .inl ⟨rfl, rfl⟩
  | cons l rest =>
    change (if l.kind = .string then some <$> next else pure none : Parse _) _ = _ at hrun
    split_ifs at hrun with hkind
    · cases hrun
      exact .inr ⟨l, rfl, hkind, rfl, by simp [Lexeme.isLayout, hkind]⟩
    · cases hrun; exact .inl ⟨rfl, rfl⟩

omit [Window] h in
/-- The strings in front of a cursor are read one by one, and it stops behind the last. -/
theorem many_strings_append {c c' : Cursor} {literals : List Lexeme}
    (hrun : many (do if (← peek) = .string then return some (← next) else return none) c =
      some (literals, c')) :
    literals ++ c'.rest = c.rest ∧ (∀ l ∈ literals, l.kind = .string) ∧
      ((literals.getLast?.map (·.last)).getD c.last = c'.last) := by
  change repeatUntilNone _ c.count c = _ at hrun
  generalize c.count = n at hrun
  induction n generalizing c literals with
  | zero => cases hrun; simp
  | succ n ih =>
    obtain ⟨o, d, hstep, hleft⟩ := Parse.bind_eq_some_iff.1 hrun
    obtain ⟨rfl, rfl⟩ | ⟨l, rfl, hkind, hrest, hlast⟩ := string?_cases hstep
    · cases hleft; simp
    · obtain ⟨more, e, hmore, hleft⟩ := Parse.bind_eq_some_iff.1 hleft
      cases hleft
      obtain ⟨happ, hkinds, hend⟩ := ih hmore
      refine ⟨by rw [hrest, List.cons_append, happ], List.forall_mem_cons.2 ⟨hkind, hkinds⟩, ?_⟩
      rw [← hend, hlast, List.getLast?_cons]
      cases more.getLast? <;> rfl

omit h in
/-- Adjacent strings span the lines from the first of them to the last. -/
theorem spans_strings {l : Lexeme} {more : List Lexeme}
    (hstrings : ∀ m ∈ l :: more, Window.Quotes m)
    (horder : (l :: more).Pairwise fun l m => l.first.NotAfter m.last) {last : Place}
    (hlast : ((l :: more).getLast?.map (·.last)).getD last = last) :
    Window.Spans (.between l.first last) := by
  obtain ⟨m, hm⟩ : ∃ m, (l :: more).getLast? = some m :=
    ⟨_, List.getLast?_eq_some_getLast (List.cons_ne_nil l more)⟩
  rw [hm] at hlast
  obtain rfl : m.last = last := hlast
  have hle : l.first.line ≤ m.last.line := by
    obtain rfl | hmore := List.mem_cons.1 (List.mem_of_getLast? hm)
    · exact Nat.le.intro (hstrings m List.mem_cons_self).ends.symm
    · exact ((List.pairwise_cons.1 horder).1 m hmore).line_le
  exact (hstrings l List.mem_cons_self).spans (hstrings m (List.mem_of_getLast? hm)) hle

/-- Adjacent strings are on the lines of the window. -/
@[spec] theorem keeps_strings [Origin] : Keeps (strings inner) := by
  rw [keeps_iff]
  intro c hc a c' hrun
  obtain ⟨first, d, hfirst, hleft⟩ := Parse.bind_eq_some_iff.1 hrun
  obtain ⟨l, rest, hrest, rfl, rfl⟩ := exists_of_here hfirst
  obtain ⟨literals, e, hliterals, hread⟩ := Parse.bind_eq_some_iff.1 hleft
  obtain ⟨whole, f, hwhole, hbuilt⟩ := Parse.bind_eq_some_iff.1 hread
  obtain ⟨rfl, rfl⟩ := Prod.mk.inj (Option.some.inj hwhole)
  obtain ⟨happ, hkinds, hlast⟩ := many_strings_append hliterals
  have he : e.Within := hc.of_suffix (happ ▸ List.suffix_append _ _)
  have hstrings : ∀ l ∈ literals, Window.Quotes l :=
    fun l hl => hc.ahead.strings l (happ ▸ List.mem_append_left _ hl) (hkinds l hl)
  have horder : literals.Pairwise fun l m => l.first.NotAfter m.last :=
    hc.ahead.order.sublist (happ ▸ List.sublist_append_left _ _)
  split at hbuilt
  · cases hbuilt
  next l' more =>
    obtain ⟨rfl, -⟩ : l' = l ∧ _ := List.cons.inj (happ.trans hrest)
    have hspans : Window.Spans (.between l'.first e.last) :=
      spans_strings hstrings horder (by simpa [List.getLast?_cons] using hlast)
    split_ifs at hbuilt
    · cases hbytes : (l' :: more).foldlM joinBytes [] with
      | none => rw [hbytes] at hbuilt; cases hbuilt
      | some bytes =>
        rw [hbytes] at hbuilt
        cases hbuilt
        exact ⟨he, (within_constant (by simp)).2 trivial⟩
    · cases hj : (l' :: more).foldlM (joinString inner (.between l'.first e.last)) {} with
      | none => rw [hj] at hbuilt; cases hbuilt
      | some j =>
        rw [hj] at hbuilt
        have hparts := within_joinStrings h hspans hstrings within_nil hj
        dsimp only at hbuilt
        split_ifs at hbuilt <;> cases hbuilt
        · exact ⟨he, by simpa using within_close hparts hspans⟩
        · exact ⟨he, within_textNode hspans _⟩

end

end QueryLint.Source
