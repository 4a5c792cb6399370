/-!
# Moments

A moment is a count of seconds since the beginning of 1970 and of nanoseconds
within the second, in UTC.  Its date follows from the count of days in the
Gregorian calendar, whose leap years repeat every 400 years.

The log shows a moment to the microsecond; a stored report has as many digits
as are needed, in groups of three.
-/

namespace BrowserSuite

/-- Seconds since the beginning of 1970, and nanoseconds within the second. -/
structure Moment where
  seconds : Int
  nanos : Nat
  deriving DecidableEq, Repr, Inhabited

namespace Moment

/-- A date of the Gregorian calendar. -/
structure Date where
  year : Int
  month : Nat
  day : Nat
  deriving DecidableEq, Repr

/-- The date of a day, counted from the first of January 1970.  Years are
reckoned from March, so that a leap day ends its year. -/
def dateOf (days : Int) : Date :=
  let shifted := days + 719468
  let era := shifted.fdiv 146097
  let dayOfEra := (shifted.fmod 146097).toNat
  let yearOfEra :=
    (dayOfEra - dayOfEra / 1460 + dayOfEra / 36524 - dayOfEra / 146096) / 365
  let dayOfYear := dayOfEra - (365 * yearOfEra + yearOfEra / 4 - yearOfEra / 100)
  let monthFromMarch := (5 * dayOfYear + 2) / 153
  let day := dayOfYear - (153 * monthFromMarch + 2) / 5 + 1
  let month := if monthFromMarch < 10 then monthFromMarch + 3 else monthFromMarch - 9
  let year := (yearOfEra : Int) + era * 400 + (if month ≤ 2 then 1 else 0)
  ⟨year, month, day⟩

/-- A number with zeros in front, up to some width. -/
def padded (width n : Nat) : String :=
  let digits := (toString n).toList
  String.ofList (List.replicate (width - digits.length) '0' ++ digits)

/-- A year with at least four digits, and a sign where four do not do. -/
def yearText (year : Int) : String :=
  if year < 0 then "-" ++ padded 4 year.natAbs
  else if 9999 < year then "+" ++ toString year
  else padded 4 year.toNat

/-- The date and the time of day of a moment, with a mark between them. -/
def dateTime (m : Moment) (mark : String) : String :=
  let date := dateOf (m.seconds.fdiv 86400)
  let second := (m.seconds.fmod 86400).toNat
  let day := yearText date.year ++ "-" ++ padded 2 date.month ++ "-" ++ padded 2 date.day
  let time := padded 2 (second / 3600) ++ ":" ++ padded 2 (second / 60 % 60) ++ ":" ++
    padded 2 (second % 60)
  day ++ mark ++ time

/-- A moment as the log shows it, to the microsecond. -/
def logText (m : Moment) : String :=
  m.dateTime " " ++ "." ++ padded 6 (m.nanos / 1000)

/-- A moment as a stored report shows it: with 0, 3, 6 or 9 digits of the
second, the fewest that are exact. -/
def exactText (m : Moment) : String :=
  let part :=
    if m.nanos = 0 then ""
    else if m.nanos % 1000000 = 0 then "." ++ padded 3 (m.nanos / 1000000)
    else if m.nanos % 1000 = 0 then "." ++ padded 6 (m.nanos / 1000)
    else "." ++ padded 9 m.nanos
  m.dateTime "T" ++ part ++ "Z"

/-- The moment some milliseconds later. -/
def later (m : Moment) (ms : Nat) : Moment :=
  let nanos := m.nanos + ms * 1000000
  ⟨m.seconds + nanos / 1000000000, nanos % 1000000000⟩

end Moment

end BrowserSuite
