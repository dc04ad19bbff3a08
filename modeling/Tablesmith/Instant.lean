/-
# Instants

An instant is a number of seconds after the beginning of 1970, and is written as a date and a time
of day without an offset from universal time.

Dates are computed from days in years that begin in March, so that a leap day is the last day of
its year and the lengths of the months before it follow one rule.
-/

import Tablesmith.Text.Numeral

namespace Tablesmith

/-- A number of seconds after the beginning of 1970. -/
abbrev Instant := Nat

namespace Instant

/-- The seconds of a day. -/
def daySeconds : Nat := 86400

/-- The year, the month and the day of a number of days after the beginning of 1970. -/
def date (days : Nat) : Nat × Nat × Nat :=
  -- four centuries have 146097 days, and 719468 lie between the first March and 1970
  let days := days + 719468
  let cycle := days / 146097
  let day := days % 146097
  let year := (day - day / 1460 + day / 36524 - day / 146096) / 365
  let day := day - (365 * year + year / 4 - year / 100)
  let month := (5 * day + 2) / 153
  let day := day - (153 * month + 2) / 5
  let year := 400 * cycle + year
  if month < 10 then (year, month + 3, day + 1) else (year + 1, month - 9, day + 1)

/-- The date of an instant. -/
def dateText (t : Instant) : Text :=
  let (year, month, day) := date (t / daySeconds)
  Text.padNat 4 year ++ '-' :: Text.padNat 2 month ++ '-' :: Text.padNat 2 day

/-- The time of day of an instant. -/
def timeText (t : Instant) : Text :=
  let part (n : Nat) : Text := Text.padNat 2 (n % 60)
  Text.padNat 2 (t / 3600 % 24) ++ ':' :: part (t / 60) ++ ':' :: part t

/-- Date and time with a blank between them. -/
def text (t : Instant) : Text := dateText t ++ ' ' :: timeText t

/-- Date and time in one word, with the offset. -/
def stamp (t : Instant) : Text := dateText t ++ 'T' :: timeText t ++ "+00:00".toList

example : text 0 = "1970-01-01 00:00:00" ∧ stamp 1709251199 = "2024-02-29T23:59:59+00:00" ∧
    text 951868800 = "2000-03-01 00:00:00" ∧ text 946684799 = "1999-12-31 23:59:59" := by
  decide +kernel

end Instant
end Tablesmith
