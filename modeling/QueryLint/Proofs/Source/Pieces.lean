import QueryLint.Source.Scan
import QueryLint.Source.Tokens

/-!
# Pieces of a text

Every function that cuts a piece off the head of a text returns the piece and what is
left, and the two make up the text. String literals moreover end with a quote.
-/

namespace QueryLint.Source

open QueryLint.Text

/-- A step that only lengthens the piece which another step has cut off. -/
theorem exists_of_map_piece {r : Option (List Char × List Char)}
    {f : List Char × List Char → List Char × List Char} {piece rest : List Char}
    (hf : ∀ cs left, (f (cs, left)).2 = left) (h : r.map f = some (piece, rest)) :
    ∃ cs, r = some (cs, rest) ∧ piece = (f (cs, rest)).1 := by
  obtain ⟨⟨cs, left⟩, hr, heq⟩ := Option.map_eq_some_iff.1 h
  obtain rfl : left = rest := by rw [← hf cs left, heq]
  exact ⟨cs, hr, by rw [heq]⟩

theorem digitRun_append {ok : Char → Bool} {before : Bool} {cs ds rest : List Char}
    (h : digitRun ok before cs = some (ds, rest)) : ds ++ rest = cs := by
  fun_induction digitRun ok before cs generalizing ds with
  | case1 => simp_all
  | case2 => simp_all
  | case3 before c cs hok ih =>
    obtain ⟨es, hrun, rfl⟩ := exists_of_map_piece (fun _ _ => rfl) h
    simp [ih hrun]
  | case4 cs hok ih =>
    obtain ⟨es, hrun, rfl⟩ := exists_of_map_piece (fun _ _ => rfl) h
    simp [ih hrun]
  | case5 => simp_all
  | case6 => simp_all

theorem exponentPart_append {cs es rest : List Char} (h : exponentPart cs = some (es, rest)) :
    es ++ rest = cs := by
  unfold exponentPart at h
  split at h
  · split at h
    · split at h
      · split at h
        · obtain ⟨ds, hrun, rfl⟩ := exists_of_map_piece (fun _ _ => rfl) h
          simp [digitRun_append hrun]
        · split at h
          · obtain ⟨ds, hrun, rfl⟩ := exists_of_map_piece (fun _ _ => rfl) h
            simp [digitRun_append hrun]
          · cases h
            rfl
      · split at h
        · cases h
          rfl
        · split at h <;> cases h
          rfl
      · cases h
        rfl
    · cases h
      rfl
  · cases h
    rfl

theorem fractionPart_append {cs fs rest : List Char} (h : fractionPart cs = some (fs, rest)) :
    fs ++ rest = cs := by
  unfold fractionPart at h
  split at h
  · split at h
    · exact digitRun_append h
    · cases h
      rfl
  · cases h
    rfl

theorem endNumber_append {ds rest number left : List Char}
    (h : endNumber ds rest = some (number, left)) : number ++ left = ds ++ rest := by
  unfold endNumber at h
  split at h
  · split at h <;> split at h <;> cases h
    · simp
    · rfl
  · cases h
    rfl

theorem floatTail_append {ds rest number left : List Char}
    (h : floatTail ds rest = some (number, left)) : number ++ left = ds ++ rest := by
  obtain ⟨⟨es, more⟩, hexponent, hend⟩ := Option.bind_eq_some_iff.1 h
  rw [endNumber_append hend, List.append_assoc, exponentPart_append hexponent]

theorem basedNumber_append {ok : Char → Bool} {letter : Char} {rest number left : List Char}
    (h : basedNumber ok letter rest = some (number, left)) :
    number ++ left = '0' :: letter :: rest := by
  unfold basedNumber at h
  dsimp only at h
  obtain ⟨⟨ds, more⟩, hrun, hend⟩ := Option.bind_eq_some_iff.1 h
  dsimp only at hend
  split at hend
  · cases hend
    have happ := digitRun_append hrun
    split at happ <;> simp_all
  · cases hend

theorem decimalNumber_append {cs number rest : List Char}
    (h : decimalNumber cs = some (number, rest)) : number ++ rest = cs := by
  obtain ⟨⟨ds, more⟩, hrun, hend⟩ := Option.bind_eq_some_iff.1 h
  have hds := digitRun_append hrun
  dsimp only at hend
  split at hend
  · obtain ⟨⟨fs, left⟩, hfraction, htail⟩ := Option.bind_eq_some_iff.1 hend
    rw [floatTail_append htail, List.append_assoc, List.cons_append,
      fractionPart_append hfraction, hds]
  · obtain ⟨⟨es, left⟩, htail, hvalid⟩ := Option.bind_eq_some_iff.1 hend
    dsimp only at hvalid
    split at hvalid <;> cases hvalid
    rw [floatTail_append htail, hds]

theorem scanNumber_append {cs number rest : List Char} (h : scanNumber cs = some (number, rest)) :
    number ++ rest = cs := by
  unfold scanNumber at h
  split at h
  · split at h
    · exact basedNumber_append h
    · split at h
      · exact basedNumber_append h
      · split at h
        · exact basedNumber_append h
        · exact decimalNumber_append h
  · exact decimalNumber_append h

theorem shortString_append {quote : Char} {cs body rest : List Char}
    (h : shortString quote cs = some (body, rest)) :
    body ++ rest = cs ∧ body.getLast? = some quote := by
  fun_induction shortString quote cs generalizing body with
  | case1 => cases h
  | case2 c cs ih =>
    obtain ⟨more, hmore, rfl⟩ := exists_of_map_piece (fun _ _ => rfl) h
    obtain ⟨happ, hlast⟩ := ih hmore
    exact ⟨by simp [happ], by simp [List.getLast?_cons, hlast]⟩
  | case3 cs _ =>
    cases h
    exact ⟨rfl, rfl⟩
  | case4 => cases h
  | case5 c cs _ hquote hline ih =>
    obtain ⟨more, hmore, rfl⟩ := exists_of_map_piece (fun _ _ => rfl) h
    obtain ⟨happ, hlast⟩ := ih hmore
    exact ⟨by simp [happ], by simp [List.getLast?_cons, hlast]⟩

theorem longString_append {quote : Char} {cs body rest : List Char}
    (h : longString quote cs = some (body, rest)) :
    body ++ rest = cs ∧ body.getLast? = some quote := by
  fun_induction longString quote cs generalizing body with
  | case1 => cases h
  | case2 c cs ih =>
    obtain ⟨more, hmore, rfl⟩ := exists_of_map_piece (fun _ _ => rfl) h
    obtain ⟨happ, hlast⟩ := ih hmore
    exact ⟨by simp [happ], by simp [List.getLast?_cons, hlast]⟩
  | case3 c cs _ hquote =>
    cases h
    refine ⟨?_, by simp [hquote.1]⟩
    have happ := List.take_append_drop 2 cs
    rw [hquote.2] at happ
    simpa [hquote.1] using happ
  | case4 c cs _ hquote ih =>
    obtain ⟨more, hmore, rfl⟩ := exists_of_map_piece (fun _ _ => rfl) h
    obtain ⟨happ, hlast⟩ := ih hmore
    exact ⟨by simp [happ], by simp [List.getLast?_cons, hlast]⟩

theorem scanString_append {cs body rest : List Char} (h : scanString cs = some (body, rest)) :
    body ++ rest = cs ∧ body.getLast? = cs.head? := by
  unfold scanString at h
  split at h
  next q cs =>
    split at h
    next htriple =>
      obtain ⟨more, hmore, rfl⟩ := exists_of_map_piece (fun _ _ => rfl) h
      obtain ⟨happ, hlast⟩ := longString_append hmore
      have hcs := List.take_append_drop 2 cs
      rw [htriple, ← happ] at hcs
      exact ⟨by simpa using hcs, by simp [List.getLast?_cons, hlast]⟩
    next =>
      obtain ⟨more, hmore, rfl⟩ := exists_of_map_piece (fun _ _ => rfl) h
      obtain ⟨happ, hlast⟩ := shortString_append hmore
      exact ⟨by simp [happ], by simp [List.getLast?_cons, hlast]⟩
  next => cases h

/-- The letters of a string are followed by a quote. -/
theorem stringLetters_append {cs letters quoted : List Char}
    (h : stringLetters cs = some (letters, quoted)) :
    letters ++ quoted = cs ∧ ∃ q, quoted.head? = some q ∧ isQuote q = true := by
  unfold stringLetters at h
  dsimp only at h
  split at h
  next a b q cs =>
    split at h
    · cases h
      exact ⟨rfl, a, rfl, by assumption⟩
    · split at h
      · split at h <;> cases h
        exact ⟨rfl, b, rfl, by assumption⟩
      · split at h
        · split at h <;> cases h
          exact ⟨rfl, q, rfl, by assumption⟩
        · cases h
  next a q =>
    split at h
    · cases h
      exact ⟨rfl, a, rfl, by assumption⟩
    · split at h
      next hq =>
        cases h
        exact ⟨rfl, q, rfl, by simp_all⟩
      next => cases h
  next a =>
    split at h
    · cases h
      exact ⟨rfl, a, rfl, by assumption⟩
    · cases h
  next => cases h

/-- A whole string literal is cut off the head of a text, and ends with a quote. -/
theorem string_append {cs letters quoted body rest : List Char}
    (hletters : stringLetters cs = some (letters, quoted))
    (hbody : scanString quoted = some (body, rest)) :
    letters ++ body ++ rest = cs ∧ ∃ q, (letters ++ body).getLast? = some q ∧ isQuote q = true := by
  obtain ⟨hcs, q, hhead, hq⟩ := stringLetters_append hletters
  obtain ⟨happ, hlast⟩ := scanString_append hbody
  refine ⟨by rw [List.append_assoc, happ, hcs], q, ?_, hq⟩
  rw [List.getLast?_append, hlast, hhead]
  rfl

theorem first?_append {cs chars : List Char} {sign : Sign}
    (h : Sign.first? cs = some (chars, sign)) : chars ++ cs.drop chars.length = cs := by
  unfold Sign.first? at h
  have hfound : chars.isPrefixOf cs = true := by simpa using List.find?_some h
  obtain ⟨rest, rfl⟩ := List.isPrefixOf_iff_prefix.1 hfound
  simp

theorem moreDigits_append (ok : Char → Bool) (cs : List Char) :
    (moreDigits ok cs).1 ++ (moreDigits ok cs).2 = cs := by
  fun_induction moreDigits ok cs with
  | case1 d cs hok es r hmore ih => rw [hmore] at ih; simp [ih]
  | case2 => rfl
  | case3 c cs _ hok es r hmore ih => rw [hmore] at ih; simp [ih]
  | case4 => rfl
  | case5 => rfl

theorem decimalDigits?_append {cs ds rest : List Char} (h : decimalDigits? cs = some (ds, rest)) :
    ds ++ rest = cs := by
  unfold decimalDigits? at h
  split at h
  next c cs =>
    split at h
    next =>
      obtain ⟨rfl, rfl⟩ := Prod.mk.inj (Option.some.inj h)
      simp [moreDigits_append]
    next => cases h
  next => cases h

theorem exponentOrNot_append (cs : List Char) :
    (exponentOrNot cs).1 ++ (exponentOrNot cs).2 = cs := by
  unfold exponentOrNot
  split
  next e cs =>
    split
    · dsimp only
      split
      next ds r hdigits =>
        have happ := decimalDigits?_append hdigits
        split at happ <;> simp_all
      next => rfl
    · rfl
  next => rfl

theorem pointNumber?_append {cs ds rest : List Char} (h : pointNumber? cs = some (ds, rest)) :
    ds ++ rest = cs := by
  unfold pointNumber? at h
  split at h
  next cs =>
    obtain ⟨⟨part, left⟩, hpart, heq⟩ := Option.bind_eq_some_iff.1 h
    dsimp only at heq
    obtain ⟨rfl, rfl⟩ := Prod.mk.inj (Option.some.inj heq)
    simp [exponentOrNot_append, decimalDigits?_append hpart]
  next =>
    obtain ⟨⟨whole, left⟩, hwhole, heq⟩ := Option.bind_eq_some_iff.1 h
    have happ := decimalDigits?_append hwhole
    dsimp only at heq
    split at heq
    next more =>
      obtain ⟨rfl, rfl⟩ := Prod.mk.inj (Option.some.inj heq)
      cases hpart : decimalDigits? more with
      | none => simp [exponentOrNot_append, happ]
      | some found => simp [exponentOrNot_append, decimalDigits?_append hpart, happ]
    next =>
      have hexponent := exponentOrNot_append left
      split at heq
      next => cases heq
      next es r _ hes =>
        obtain ⟨rfl, rfl⟩ := Prod.mk.inj (Option.some.inj heq)
        rw [hes] at hexponent
        simp [hexponent, happ]

theorem zeros_append (rest : List Char) :
    (wholeNumber?.zeros rest).1 ++ (wholeNumber?.zeros rest).2 = '0' :: rest := by
  simp [wholeNumber?.zeros, moreDigits_append]

/-- A number in another base, or the zero before a letter that no digits follow. -/
theorem based_append {ok : Char → Bool} {b : Char} {more ds rest : List Char}
    (h : (match moreDigits ok more with
      | ([], _) => some (wholeNumber?.zeros (b :: more))
      | (ds, r) => some ('0' :: b :: ds, r)) = some (ds, rest)) :
    ds ++ rest = '0' :: b :: more := by
  have happ := moreDigits_append ok more
  split at h
  · have hzeros := zeros_append (b :: more)
    rw [Option.some.inj h] at hzeros
    exact hzeros
  next es r _ hes =>
    obtain ⟨rfl, rfl⟩ := Prod.mk.inj (Option.some.inj h)
    rw [hes] at happ
    simp [← happ]

theorem wholeNumber?_append {cs ds rest : List Char} (h : wholeNumber? cs = some (ds, rest)) :
    ds ++ rest = cs := by
  have hzeros : ∀ more, some (wholeNumber?.zeros more) = some (ds, rest) →
      ds ++ rest = '0' :: more := by
    intro more hsome
    have happ := zeros_append more
    rw [Option.some.inj hsome] at happ
    exact happ
  unfold wholeNumber? at h
  split at h
  next b more =>
    dsimp only at h
    split at h
    · exact based_append h
    · split at h
      · exact based_append h
      · split at h
        · exact based_append h
        · exact hzeros _ h
  next more => exact hzeros _ h
  next => exact decimalDigits?_append h

theorem withUnit?_append {number : Option (List Char × List Char)} {cs ds rest : List Char}
    (hnumber : ∀ es left, number = some (es, left) → es ++ left = cs)
    (h : withUnit? number = some (ds, rest)) : ds ++ rest = cs := by
  unfold withUnit? at h
  split at h
  next es c left =>
    split at h <;> cases h
    simpa using hnumber es (c :: rest) rfl
  next => cases h

theorem numberToken?_append {cs ds rest : List Char} (h : numberToken? cs = some (ds, rest)) :
    ds ++ rest = cs := by
  unfold numberToken? at h
  obtain hwhole | ⟨-, hpoint | ⟨-, hplain | ⟨-, hlast⟩⟩⟩ := by
    simpa only [Option.or_eq_some_iff] using h
  · exact withUnit?_append (fun _ _ => decimalDigits?_append) hwhole
  · exact withUnit?_append (fun _ _ => pointNumber?_append) hpoint
  · exact pointNumber?_append hplain
  · exact wholeNumber?_append hlast

/-- The characters of a piece. -/
def Piece.chars : Piece → List Char
  | token _ chars _ => chars
  | comment chars _ => chars
  | lineEnd _ => ['\n']
  | join _ => ['\\', '\n']

/-- What a piece leaves of the text. -/
def Piece.left : Piece → List Char
  | token _ _ rest => rest
  | comment _ rest => rest
  | lineEnd rest => rest
  | join rest => rest

theorem piece?_append {cs : List Char} {piece : Piece} (h : piece? cs = some piece) :
    piece.chars ++ piece.left = cs := by
  unfold piece? at h
  split at h
  · cases h
  · cases h
    rfl
  · cases h
    exact List.takeWhile_append_dropWhile
  · cases h
    rfl
  next c cs _ _ _ =>
    split at h
    next ds rest hnumber =>
      cases h
      exact numberToken?_append hnumber
    next =>
      split at h
      next sign _ hsign =>
        cases h
        exact first?_append hsign
      next =>
        split at h
        next chars rest hstring =>
          cases h
          unfold piece?.stringToken? at hstring
          obtain ⟨⟨letters, quoted⟩, hletters, hmore⟩ := Option.bind_eq_some_iff.1 hstring
          obtain ⟨⟨body, left⟩, hbody, heq⟩ := Option.bind_eq_some_iff.1 hmore
          cases heq
          exact (string_append hletters hbody).1
        next =>
          split at h <;> cases h
          exact List.takeWhile_append_dropWhile

end QueryLint.Source
