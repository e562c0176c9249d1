import Mathlib.Data.List.Infix
import QueryLint.Proofs.Engine.Scan
import QueryLint.Proofs.Text.Utf8

/-!
# The forms in which a source is written down

The lines of a source may end in three ways, and a byte-order mark may stand before it. A source
is handed to a scan as a text or as the bytes of a file. Marks and line ends are taken away on the
way in, from a file even twice, and in the end every form of a source has come to the same text.
A source with a mark of its own behind the first is left aside: a file would lose both.
-/

namespace QueryLint

namespace Text

/-- How the end of a line is written. -/
inductive LineEnd where
  | newline
  | returnAndNewline
  | returnAlone
deriving DecidableEq

def LineEnd.chars : LineEnd → List Char
  | newline => ['\n']
  | returnAndNewline => ['\r', '\n']
  | returnAlone => ['\r']

/-- A text with every newline written as the given line end. -/
def withLineEnds (lineEnd : LineEnd) (cs : List Char) : List Char :=
  cs.flatMap fun c => if c = '\n' then lineEnd.chars else [c]

theorem withLineEnds_cons_newline (lineEnd : LineEnd) (cs : List Char) :
    withLineEnds lineEnd ('\n' :: cs) = lineEnd.chars ++ withLineEnds lineEnd cs := by
  rw [withLineEnds, List.flatMap_cons, if_pos rfl]
  rfl

theorem withLineEnds_cons_of_ne (lineEnd : LineEnd) {c : Char} (h : c ≠ '\n') (cs : List Char) :
    withLineEnds lineEnd (c :: cs) = c :: withLineEnds lineEnd cs := by
  rw [withLineEnds, List.flatMap_cons, if_neg h]
  rfl

theorem unifyNewlines_cons_of_ne {c : Char} (h : c ≠ '\r') (cs : List Char) :
    unifyNewlines (c :: cs) = c :: unifyNewlines cs :=
  unifyNewlines.eq_4 c cs (fun _ hreturn _ => h hreturn) h

theorem unifyNewlines_return {cs : List Char} (h : cs.head? ≠ some '\n') :
    unifyNewlines ('\r' :: cs) = '\n' :: unifyNewlines cs := by
  refine unifyNewlines.eq_3 cs fun rest hrest => h ?_
  rw [hrest, List.head?_cons]

/-- Where lines end in carriage returns alone, no newline is left. -/
theorem newline_not_mem_withLineEnds (cs : List Char) : '\n' ∉ withLineEnds .returnAlone cs := by
  intro h
  obtain ⟨c, -, hc⟩ := List.mem_flatMap.1 h
  by_cases hnewline : c = '\n'
  · simp [hnewline, LineEnd.chars] at hc
  · rw [if_neg hnewline, List.mem_singleton] at hc
    exact hnewline hc.symm

/-- However its line ends are written, a text without carriage returns comes back. -/
theorem unifyNewlines_withLineEnds (lineEnd : LineEnd) {cs : List Char} (h : '\r' ∉ cs) :
    unifyNewlines (withLineEnds lineEnd cs) = cs := by
  induction cs with
  | nil => rfl
  | cons c cs ih =>
    obtain ⟨hc, hcs⟩ : '\r' ≠ c ∧ '\r' ∉ cs := by simpa using h
    by_cases hnewline : c = '\n'
    · subst hnewline
      rw [withLineEnds_cons_newline]
      cases lineEnd with
      | newline =>
        rw [LineEnd.chars, List.singleton_append, unifyNewlines_cons_of_ne (by decide), ih hcs]
      | returnAndNewline =>
        rw [LineEnd.chars, List.cons_append, List.singleton_append, unifyNewlines, ih hcs]
      | returnAlone =>
        -- the next line end starts with a carriage return again, so no pair is seen
        have hhead : (withLineEnds .returnAlone cs).head? ≠ some '\n' := fun hhead =>
          newline_not_mem_withLineEnds cs (List.mem_of_head? hhead)
        rw [LineEnd.chars, List.singleton_append, unifyNewlines_return hhead, ih hcs]
    · rw [withLineEnds_cons_of_ne lineEnd hnewline, unifyNewlines_cons_of_ne hc.symm, ih hcs]

/-- The character of a byte-order mark. -/
def markChar : Char := '\uFEFF'

theorem dropMark_cons_mark (cs : List Char) : dropMark (markChar :: cs) = cs := rfl

theorem dropMark_of_head? {cs : List Char} (h : cs.head? ≠ some markChar) : dropMark cs = cs := by
  refine dropMark.eq_2 cs fun rest hrest => h ?_
  rw [hrest]
  rfl

/-- A text in one of its forms: with the given line ends, behind a mark or not. -/
def form (lineEnd : LineEnd) (marked : Bool) (s : String) : String :=
  String.ofList ((if marked then [markChar] else []) ++ withLineEnds lineEnd s.toList)

/-- One of the forms of a text is the text. -/
theorem form_newline_unmarked (s : String) : form .newline false s = s := by
  have hsame : ∀ cs : List Char, withLineEnds .newline cs = cs := by
    intro cs
    induction cs with
    | nil => rfl
    | cons c cs ih =>
      by_cases hnewline : c = '\n'
      · rw [hnewline, withLineEnds_cons_newline, ih, LineEnd.chars, List.singleton_append]
      · rw [withLineEnds_cons_of_ne .newline hnewline, ih]
  rw [form, if_neg Bool.false_ne_true, List.nil_append, hsame, String.ofList_toList]

end Text

open Text

theorem FileText.mark_eq : mark = String.utf8EncodeChar markChar := by decide

/-- Bytes that are the beginning of a mark, and not all of it, are those of no text. -/
theorem FileText.eq_nil_of_prefix_mark {cs : List Char}
    (hbefore : cs.flatMap String.utf8EncodeChar <+: mark)
    (hmark : ¬mark <+: cs.flatMap String.utf8EncodeChar) :
    cs.flatMap String.utf8EncodeChar = [] := by
  have hinits : mark.inits = [[], [0xEF], [0xEF, 0xBB], mark] := rfl
  have hcases := (List.mem_inits _ _).2 hbefore
  have hdecoded := decodeUtf8_flatMap cs
  rw [hinits] at hcases
  generalize hbytes : cs.flatMap String.utf8EncodeChar = bytes at *
  have hbroken : decodeUtf8 bytes = [replacement] → bytes = [0xEF, 0xBF, 0xBD] := by
    intro h
    rw [← hbytes, ← hdecoded, h]
    decide
  simp only [List.mem_cons, List.not_mem_nil, or_false] at hcases
  rcases hcases with rfl | rfl | rfl | rfl
  · rfl
  · exact absurd (hbroken (by decide)) (by decide)
  · exact absurd (hbroken (by decide)) (by decide)
  · exact absurd (List.prefix_refl _) hmark

/-- The bytes of a mark stand before the bytes of a text exactly if the text starts with it. -/
theorem FileText.mark_prefix_iff (cs : List Char) :
    mark <+: cs.flatMap String.utf8EncodeChar ↔ cs.head? = some markChar := by
  constructor
  · rintro ⟨rest, hrest⟩
    have hdecoded := decodeUtf8_flatMap cs
    rw [← hrest, mark_eq, decodeUtf8, decodeFrom_utf8EncodeChar] at hdecoded
    rw [← hdecoded, List.head?_cons]
  · intro h
    obtain ⟨rest, rfl⟩ := List.head?_eq_some_iff.1 h
    rw [List.flatMap_cons, mark_eq]
    exact List.prefix_append _ _

/-- A mark is taken from bytes as it is taken from their text. -/
theorem FileText.dropMarkBytes_flatMap (cs : List Char) :
    dropMarkBytes (cs.flatMap String.utf8EncodeChar) =
      (dropMark cs).flatMap String.utf8EncodeChar := by
  unfold dropMarkBytes
  by_cases hmark : cs.head? = some markChar
  · have hprefix := (mark_prefix_iff cs).2 hmark
    obtain ⟨rest, rfl⟩ := List.head?_eq_some_iff.1 hmark
    rw [if_pos (List.isPrefixOf_iff_prefix.2 hprefix), dropMark_cons_mark, List.flatMap_cons]
    rfl
  · have hprefix := mt (mark_prefix_iff cs).1 hmark
    rw [if_neg (mt List.isPrefixOf_iff_prefix.1 hprefix), dropMark_of_head? hmark]
    split
    · next hbefore =>
      exact (eq_nil_of_prefix_mark (List.isPrefixOf_iff_prefix.1 hbefore) hprefix).symm
    · rfl

/-- A file that holds the bytes of a text is read as the text comes to be read. -/
theorem FileText.lenient_toUTF8 (s : String) :
    lenient s.toUTF8.toList = String.ofList (Document.normalize s) := by
  rw [lenient, toList_toUTF8, dropMarkBytes_flatMap, decodeUtf8_flatMap, Document.normalize]

section

variable {s : String}

/-- No line end looks like a mark. -/
theorem Text.head?_withLineEnds {cs : List Char} (h : cs.head? ≠ some markChar)
    (lineEnd : LineEnd) : (withLineEnds lineEnd cs).head? ≠ some markChar := by
  cases cs with
  | nil => exact h
  | cons c cs =>
    by_cases hnewline : c = '\n'
    · rw [hnewline, withLineEnds_cons_newline]
      cases lineEnd <;> simp [LineEnd.chars, markChar]
    · rwa [withLineEnds_cons_of_ne lineEnd hnewline]

/-- In every form a text comes to be read as it is. -/
theorem Document.normalize_form (hreturn : '\r' ∉ s.toList)
    (hmark : s.toList.head? ≠ some markChar) (lineEnd : LineEnd) (marked : Bool) :
    normalize (form lineEnd marked s) = s.toList := by
  have hdrop : dropMark (form lineEnd marked s).toList = withLineEnds lineEnd s.toList := by
    rw [form, String.toList_ofList]
    cases marked with
    | true => exact dropMark_cons_mark _
    | false => exact dropMark_of_head? (head?_withLineEnds hmark lineEnd)
  rw [normalize, hdrop, unifyNewlines_withLineEnds lineEnd hreturn]

namespace Engine

/-- A scan sees of a source only what comes to be read. -/
theorem scanContent_congr_normalize (e : Engine) (language path : String) {t : String}
    (h : Document.normalize s = Document.normalize t) :
    e.scanContent language path s = e.scanContent language path t := by
  have hread : read language path s e.limits = read language path t e.limits := by
    unfold read Document.read
    rw [h]
  rw [scanContent, scanContent, scanText, scanText, hread]

/-- A source without carriage returns and without a mark of its own can be written down with any
line ends, behind a mark or not, and be handed in as a text or as a file. A scan always comes to
the same outcome. -/
theorem scan_of_form (hreturn : '\r' ∉ s.toList) (hmark : s.toList.head? ≠ some markChar)
    (e : Engine) {path : String} (hpath : (languageOf? path).isSome) (lineEnd : LineEnd)
    (marked : Bool) :
    e.scanContent "python" path (form lineEnd marked s) = e.scanContent "python" path s ∧
      ∀ fs : FileSystem, fs.readBytes path = .ok (form lineEnd marked s).toUTF8.toList →
        e.scanFile fs path = e.scanContent "python" path s := by
  have hform := Document.normalize_form hreturn hmark lineEnd marked
  have hplain := Document.normalize_form hreturn hmark .newline false
  rw [form_newline_unmarked] at hplain
  refine ⟨scanContent_congr_normalize e "python" path (hform.trans hplain.symm), ?_⟩
  intro fs hbytes
  obtain ⟨language, hlanguage⟩ := Option.isSome_iff_exists.1 hpath
  have hcontent : contentOf fs path = .ok s := by
    rw [contentOf, hbytes]
    change Except.ok (FileText.lenient _) = _
    rw [FileText.lenient_toUTF8, hform, String.ofList_toList]
  rw [scanFile_eq_scanContent e hlanguage hcontent]
  cases language
  rfl

/-- A traced text with a letter of two bytes, in a file with a mark and pairs as line ends. -/
theorem scan_of_form_of_traced_text :
    let s := "q = \"SELEKT é\"\nSqlCommand(q)\n"
    let t := form .returnAndNewline true s
    let fs : FileSystem := ⟨.folder [("a.py", .file t.toUTF8.toList)], []⟩
    let objecting : Validator := ⟨fun _ => .messages ["no such statement"], fun _ => []⟩
    let e : Engine := ⟨.null, .null, .null, .null, .info, [Origin.literal, .traced].map fun o =>
      SqlRules.rule o ⟨⟨["SqlCommand"], []⟩, ⟨[], []⟩⟩ objecting, .usual⟩
    '\r' ∉ s.toList ∧ s.toList.head? ≠ some markChar ∧ (languageOf? "a.py").isSome ∧
      t.toList.take 1 = [markChar] ∧ t.toList.count '\r' = 2 ∧
      fs.readBytes "a.py" = .ok t.toUTF8.toList ∧
      e.scanContent "python" "a.py" t = e.scanContent "python" "a.py" s ∧
      e.scanFile fs "a.py" = e.scanContent "python" "a.py" s ∧
      (e.scanFile fs "a.py").findings.length = 1 := by
  intro s t fs objecting e
  have hreturn : '\r' ∉ s.toList := by decide
  have hmark : s.toList.head? ≠ some markChar := by decide
  have hpath : (languageOf? "a.py").isSome := by decide +kernel
  have hbytes : fs.readBytes "a.py" = .ok t.toUTF8.toList := eq_ok_of_toOption (by decide +kernel)
  obtain ⟨htext, hfile⟩ := scan_of_form hreturn hmark e hpath .returnAndNewline true
  refine ⟨hreturn, hmark, hpath, by decide, by decide, hbytes, htext, hfile fs hbytes, ?_⟩
  rw [hfile fs hbytes]
  exact length_findings (by decide +kernel)

end Engine

end

end QueryLint
