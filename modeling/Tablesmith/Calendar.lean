/-
# Dates and times of day

A date of the calendar from year 1 to year 9999, and a moment: a date with a time of day, down to
microseconds, and perhaps the offset from universal time. Two moments that both have an offset are
the same if they are the same instant; without offsets they are the same if they read the same.
-/

import Tablesmith.Text.Numeral

namespace Tablesmith

/-- Why numbers do not make a date or a moment. -/
inductive CalendarMisfit where
  | year (n : Nat)
  | month
  | day
  | hour
  | minute
  | second
  /-- The offset, in minutes, is a day or more. -/
  | offset (minutes : Int)
deriving Repr, DecidableEq

/-- A date. -/
structure Date where
  year : Nat
  month : Nat
  day : Nat
deriving Repr, DecidableEq, Inhabited

/-- A date and a time of day. The offset counts minutes. -/
structure Moment where
  date : Date
  hour : Nat
  minute : Nat
  second : Nat
  microsecond : Nat := 0
  offset : Option Int := none
deriving Repr, DecidableEq, Inhabited

namespace Date

/-- Every fourth year, but of the full centuries only every fourth. -/
def isLeapYear (year : Nat) : Bool := year % 4 == 0 && (year % 100 != 0 || year % 400 == 0)

/-- The number of days of a month. -/
def daysOfMonth (year month : Nat) : Nat :=
  if month = 2 then (if isLeapYear year then 29 else 28)
  else if month = 4 ∨ month = 6 ∨ month = 9 ∨ month = 11 then 30
  else 31

/-- The date with these numbers. -/
def ofParts (year month day : Nat) : Except CalendarMisfit Date :=
  if year = 0 ∨ 9999 < year then .error (.year year)
  else if month = 0 ∨ 12 < month then .error .month
  else if day = 0 ∨ daysOfMonth year month < day then .error .day
  else .ok ⟨year, month, day⟩

/-- The number of a day, counted from the first one of year 1. -/
def number (d : Date) : Nat :=
  let before := d.year - 1
  let months := (List.range (d.month - 1)).map fun m => daysOfMonth d.year (m + 1)
  365 * before + before / 4 - before / 100 + before / 400 + months.foldl Nat.add 0
    + (d.day - 1)

/-- Year, month and day with dashes between them. -/
def text (d : Date) : Text :=
  Text.padNat 4 d.year ++ '-' :: Text.padNat 2 d.month ++ '-' :: Text.padNat 2 d.day

/-- The date as an expression that makes it. -/
def shown (d : Date) : Text :=
  "datetime.date(" ++ Text.join ", " ([d.year, d.month, d.day].map Text.ofNat) ++ ")"

end Date

/-- The expression that makes a duration of whole seconds, written with days and seconds of a
day. -/
def shownDuration (seconds : Int) : Text :=
  let days := seconds.fdiv 86400
  let rest := seconds.fmod 86400
  let part (name : Text) (n : Int) : List Text :=
    if n = 0 then [] else [name ++ '=' :: Text.ofInt n]
  let parts := part "days" days ++ part "seconds" rest
  ("datetime.timedelta(" : Text) ++ (if parts.isEmpty then ['0'] else Text.join ", " parts) ++ [')']

namespace Moment

/-- The moment with these numbers. The offset is looked at first, then the date, then the time. -/
def ofParts (year month day hour minute second microsecond : Nat) (offset : Option Int) :
    Except CalendarMisfit Moment := do
  if offset.any fun minutes => 1440 ≤ minutes.natAbs then .error (.offset (offset.getD 0))
  let date ← Date.ofParts year month day
  if 23 < hour then .error .hour
  if 59 < minute then .error .minute
  if 59 < second then .error .second
  return ⟨date, hour, minute, second, microsecond, offset⟩

/-- How many microseconds lie between the beginning of year 1 and the moment, as it reads. -/
def reading (m : Moment) : Int :=
  (((m.date.number * 24 + m.hour) * 60 + m.minute) * 60 + m.second) * 1000000 + m.microsecond

/-- Are these the same moment? -/
def same (m n : Moment) : Bool :=
  match m.offset, n.offset with
  | none, none => m.reading == n.reading
  | some a, some b => m.reading - a * 60000000 == n.reading - b * 60000000
  | _, _ => false

/-- An offset as a sign, hours and minutes. -/
def offsetText (minutes : Int) : Text :=
  (if minutes < 0 then '-' else '+') :: Text.padNat 2 (minutes.natAbs / 60)
    ++ ':' :: Text.padNat 2 (minutes.natAbs % 60)

/-- Date and time with a blank between them, microseconds only if there are any. -/
def text (m : Moment) : Text :=
  m.date.text ++ ' ' :: Text.padNat 2 m.hour ++ ':' :: Text.padNat 2 m.minute
    ++ ':' :: Text.padNat 2 m.second
    ++ (if m.microsecond = 0 then [] else '.' :: Text.padNat 6 m.microsecond)
    ++ (m.offset.map offsetText).getD []

/-- The moment as an expression that makes it. Zeros behind the minute are left out. -/
def shown (m : Moment) : Text :=
  let fine := if m.microsecond ≠ 0 then [m.second, m.microsecond]
    else if m.second ≠ 0 then [m.second] else []
  let numbers := [m.date.year, m.date.month, m.date.day, m.hour, m.minute] ++ fine
  let zone := match m.offset with
    | none => []
    | some 0 => [("tzinfo=datetime.timezone.utc" : Text)]
    | some n => [("tzinfo=datetime.timezone(" : Text) ++ shownDuration (n * 60) ++ ")"]
  "datetime.datetime(" ++ Text.join ", " (numbers.map Text.ofNat ++ zone) ++ ")"

end Moment

namespace CalendarMisfit

/-- What is said about a misfit. -/
def message : CalendarMisfit → Text
  | year n => ("year " : Text) ++ Text.ofNat n ++ " is out of range"
  | month => "month must be in 1..12"
  | day => "day is out of range for month"
  | hour => "hour must be in 0..23"
  | minute => "minute must be in 0..59"
  | second => "second must be in 0..59"
  | offset minutes =>
    ("offset must be a timedelta strictly between " : Text)
      ++ "-timedelta(hours=24) and timedelta(hours=24), not " ++ shownDuration (minutes * 60) ++ "."

end CalendarMisfit

/-- A date that was made reads as its numbers say. -/
theorem Date.ofParts_eq_ok {year month day : Nat} {d : Date}
    (h : Date.ofParts year month day = .ok d) :
    d = ⟨year, month, day⟩ ∧ 1 ≤ d.day ∧ d.day ≤ Date.daysOfMonth year month := by
  simp only [Date.ofParts] at h
  split at h
  · exact absurd h (by simp)
  · split at h
    · exact absurd h (by simp)
    · split at h
      · exact absurd h (by simp)
      · next hd =>
        cases h
        simp only [not_or] at hd
        refine ⟨rfl, ?_, ?_⟩ <;> dsimp only <;> omega

example : (Moment.mk ⟨2024, 1, 15⟩ 1 2 3 500000 (some (-90))).text =
      "2024-01-15 01:02:03.500000-01:30" ∧
    (Moment.mk ⟨2024, 1, 15⟩ 10 0 0 0 (some 60)).same ⟨⟨2024, 1, 15⟩, 9, 0, 0, 0, some 0⟩ := by
  decide +kernel

end Tablesmith
