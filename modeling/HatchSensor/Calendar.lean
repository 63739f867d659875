import HatchSensor.Bytes

/-!
# Calendar dates

The date and time of day of an instant that is given in seconds since 1970, in universal time and
without leap seconds.

A cycle of the calendar is 400 years.  Counting starts on the first of March of the year 0, so
that the leap day is the last day of its year.
-/

namespace HatchSensor

/-- A date and a time of day. -/
structure CalendarTime where
  year : Nat
  month : Nat
  /-- The day of the month, from 1. -/
  day : Nat
  /-- The second of the day, from 0. -/
  second : Nat
deriving DecidableEq

namespace CalendarTime

/-- The days from the first of March of the year 0 to the first of January of 1970. -/
def daysBefore1970 : Nat := 719468

/-- The days of a cycle of 400 years. -/
def cycleDays : Nat := 146097

/-- The year of a cycle in which a day of the cycle lies. -/
def yearOfCycle (day : Nat) : Nat :=
  (day - day / 1460 + day / 36524 - day / 146096) / 365

/-- The date and time of day of an instant. -/
def ofSeconds (seconds : Nat) : CalendarTime :=
  let days := seconds / 86400 + daysBefore1970
  let dayOfCycle := days % cycleDays
  let year := yearOfCycle dayOfCycle
  let dayOfYear := dayOfCycle - (365 * year + year / 4 - year / 100)
  let monthFromMarch := (5 * dayOfYear + 2) / 153
  let month := if monthFromMarch < 10 then monthFromMarch + 3 else monthFromMarch - 9
  { year := days / cycleDays * 400 + year + if month ≤ 2 then 1 else 0
    month
    day := dayOfYear - (153 * monthFromMarch + 2) / 5 + 1
    second := seconds % 86400 }

/-- A number with zeros in front up to a width. -/
def digits (width n : Nat) : String :=
  String.ofList (List.replicate (width - n.repr.length) '0') ++ n.repr

/-- The date and the time with the offset of universal time. -/
def toText (t : CalendarTime) : String :=
  digits 4 t.year ++ "-" ++ digits 2 t.month ++ "-" ++ digits 2 t.day ++ "T"
    ++ digits 2 (t.second / 3600) ++ ":" ++ digits 2 (t.second / 60 % 60) ++ ":"
    ++ digits 2 (t.second % 60) ++ "+00:00"

end CalendarTime

end HatchSensor
