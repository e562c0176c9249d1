import QueryLint.Calendar
import QueryLint.Text.Digits

/-!
# Days and moments in documents

A day is a year, a month and a day with hyphens between them. A moment adds the time of
the day, with an optional fraction of a second and an optional time zone.
-/

namespace QueryLint.Yaml.Time

open Text (isDigit natOfDigits)

/-- One of several numbers of digits at the start of a text, as many as there are. -/
def number? (least most : Nat) (cs : List Char) : Option (Nat × List Char) :=
  let ds := (cs.take most).takeWhile isDigit
  if least ≤ ds.length then some (natOfDigits 10 ds, cs.drop ds.length) else none

def mark? (test : Char → Bool) : List Char → Option (List Char)
  | c :: cs => if test c then some cs else none
  | [] => none

def isSpace (c : Char) : Bool := c == ' ' || c == '\t'

/-- What parts a day from the time: a letter, or blanks. -/
def separator? (cs : List Char) : Option (List Char) :=
  match cs with
  | 'T' :: rest | 't' :: rest => some rest
  | c :: rest => if isSpace c then some (rest.dropWhile isSpace) else none
  | [] => none

/-- The fraction of a second in millionths; further digits do not count. -/
def fraction (cs : List Char) : Nat × List Char :=
  match cs with
  | '.' :: rest =>
      let ds := (rest.takeWhile isDigit).take 6
      (natOfDigits 10 (ds ++ List.replicate (6 - ds.length) '0'), rest.dropWhile isDigit)
  | cs => (0, cs)

/-- A time zone up to the end of the text, in minutes; there may be none. -/
def zone? (cs : List Char) : Option (Option Int) :=
  match cs with
  | [] => some none
  | cs =>
      match cs.dropWhile isSpace with
      | ['Z'] => some (some 0)
      | sign :: rest =>
          if sign == '+' || sign == '-' then do
            let (hours, rest) ← number? 1 2 rest
            let minutes ←
              match rest with
              | [] => some 0
              | ':' :: rest =>
                  match number? 2 2 rest with
                  | some (m, []) => some m
                  | _ => none
              | _ => none
            let total : Int := hours * 60 + minutes
            some (some (if sign == '-' then -total else total))
          else none
      | [] => none

/-- What a text says about a day and its time. -/
inductive Reading where
  | day (d : Date)
  | moment (m : Moment)

/-- Reads a day or a moment. `strict` asks for two digits in the month and the day
of a day alone. -/
def read? (strict : Bool) (cs : List Char) : Option Reading := do
  let (year, rest) ← number? 4 4 cs
  let rest ← mark? (· == '-') rest
  let monthText := rest
  let (month, rest) ← number? 1 2 rest
  let rest ← mark? (· == '-') rest
  let (day, after) ← number? 1 2 rest
  let date : Date := ⟨year, month, day⟩
  if after.isEmpty then
    if strict && monthText.length != 5 then none else some (.day date)
  else
    let rest ← separator? after
    let (hour, rest) ← number? 1 2 rest
    let rest ← mark? (· == ':') rest
    let (minute, rest) ← number? 2 2 rest
    let rest ← mark? (· == ':') rest
    let (second, rest) ← number? 2 2 rest
    let (microsecond, rest) := fraction rest
    let offset ← zone? rest
    some (.moment ⟨date, hour, minute, second, microsecond, offset⟩)

end QueryLint.Yaml.Time
