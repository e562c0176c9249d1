import QueryLint.Text.Lines
import QueryLint.Text.Quoted

/-!
# Days and moments

A day of the calendar, and a moment of a day, which may say how far its clock is off.
Both are shown in two forms: the plain one with hyphens and colons, and the one in
which messages quote values.
-/

namespace QueryLint

structure Date where
  year : Nat
  month : Nat
  day : Nat
deriving DecidableEq, Inhabited

/-- A moment; the offset of its clock is in minutes. -/
structure Moment where
  date : Date
  hour : Nat
  minute : Nat
  second : Nat
  microsecond : Nat
  offset : Option Int
deriving DecidableEq, Inhabited

namespace Calendar

/-- Why there is no such day or moment. -/
inductive Fault where
  | year (n : Nat)
  | month
  | day
  | hour
  | minute
  | second
  /-- A clock is off by a day or more. -/
  | offset (minutes : Int)
deriving DecidableEq, Inhabited

def isLeapYear (year : Nat) : Bool :=
  year % 4 == 0 && (year % 100 != 0 || year % 400 == 0)

def daysInMonth (year month : Nat) : Nat :=
  match month with
  | 2 => if isLeapYear year then 29 else 28
  | 4 | 6 | 9 | 11 => 30
  | _ => 31

def minutesPerDay : Int := 1440

/-- A length of time as days and seconds; only the days may be negative. -/
def durationText (minutes : Int) : String :=
  let days := minutes.fdiv minutesPerDay
  let seconds := (minutes.fmod minutesPerDay) * 60
  let parts :=
    (if days = 0 then [] else ["days=" ++ toString days]) ++
      if seconds = 0 then [] else ["seconds=" ++ toString seconds]
  "datetime.timedelta(" ++ (if parts.isEmpty then "0" else Text.joinWith ", " parts) ++ ")"

def Fault.message : Fault → String
  | year n => "year " ++ toString n ++ " is out of range"
  | month => "month must be in 1..12"
  | day => "day is out of range for month"
  | hour => "hour must be in 0..23"
  | minute => "minute must be in 0..59"
  | second => "second must be in 0..59"
  | offset minutes =>
      "offset must be a timedelta strictly between -timedelta(hours=24) and " ++
        "timedelta(hours=24), not " ++ durationText minutes ++ "."

/-- A number with leading zeros. -/
def padded (width n : Nat) : String :=
  let ds := Nat.toDigits 10 n
  String.ofList (List.replicate (width - ds.length) '0' ++ ds)

end Calendar

namespace Date

open Calendar (padded)

/-- Refuses days that are not in the calendar. -/
def check (d : Date) : Except Calendar.Fault Date :=
  if d.year < 1 then .error (.year d.year)
  else if d.month < 1 ∨ 12 < d.month then .error .month
  else if d.day < 1 ∨ Calendar.daysInMonth d.year d.month < d.day then .error .day
  else .ok d

def plain (d : Date) : String := padded 4 d.year ++ "-" ++ padded 2 d.month ++ "-" ++ padded 2 d.day

/-- The days up to this one, from the first of the calendar on. -/
def count (d : Date) : Nat :=
  let years := d.year - 1
  let months := (List.range (d.month - 1)).map fun m => Calendar.daysInMonth d.year (m + 1)
  years * 365 + years / 4 - years / 100 + years / 400 + months.foldl (· + ·) d.day

/-- The numbers of a day. -/
def numbers (d : Date) : List Nat := [d.year, d.month, d.day]

def display (d : Date) : String :=
  "datetime.date(" ++ Text.joinWith ", " (d.numbers.map toString) ++ ")"

end Date

namespace Moment

open Calendar (padded)

/-- Refuses moments that are not in the calendar. -/
def check (m : Moment) : Except Calendar.Fault Moment := do
  match m.offset with
  | some o =>
      if o ≤ -Calendar.minutesPerDay ∨ Calendar.minutesPerDay ≤ o then throw (.offset o)
  | none => pure ()
  let _ ← m.date.check
  if 23 < m.hour then throw .hour
  if 59 < m.minute then throw .minute
  if 59 < m.second then throw .second
  return m

/-- The microseconds that have passed at a clock that is not off. -/
def microseconds (m : Moment) (offset : Int) : Int :=
  ((m.date.count * Calendar.minutesPerDay + m.hour * 60 + m.minute - offset) * 60 + m.second) *
    1000000 + m.microsecond

/-- Whether two moments are the same time. What a clock shows is compared as it is if no clock
says how far it is off. -/
def isSame (a b : Moment) : Bool :=
  match a.offset, b.offset with
  | some o, some p => a.microseconds o == b.microseconds p
  | _, _ => a == b

/-- An offset as hours and minutes with its sign. -/
def offsetText (minutes : Int) : String :=
  (if minutes < 0 then "-" else "+") ++ padded 2 (minutes.natAbs / 60) ++ ":" ++
    padded 2 (minutes.natAbs % 60)

def plain (m : Moment) : String :=
  m.date.plain ++ " " ++ padded 2 m.hour ++ ":" ++ padded 2 m.minute ++ ":" ++ padded 2 m.second ++
    (if m.microsecond = 0 then "" else "." ++ padded 6 m.microsecond) ++
    (m.offset.map offsetText).getD ""

/-- The numbers of a moment; the smallest ones are left out if they are zero. -/
def numbers (m : Moment) : List Nat :=
  m.date.numbers ++ [m.hour, m.minute] ++
    if m.microsecond = 0 then (if m.second = 0 then [] else [m.second])
    else [m.second, m.microsecond]

def zoneText (offset : Int) : String :=
  if offset = 0 then "datetime.timezone.utc"
  else "datetime.timezone(" ++ Calendar.durationText offset ++ ")"

def display (m : Moment) : String :=
  let zone := (m.offset.map fun o => ["tzinfo=" ++ zoneText o]).getD []
  "datetime.datetime(" ++ Text.joinWith ", " (m.numbers.map toString ++ zone) ++ ")"

end Moment

end QueryLint
