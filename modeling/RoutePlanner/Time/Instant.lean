import RoutePlanner.Json.Decode

/-!
# Instants in UTC

An `Instant` is a point of UTC time: whole seconds since 1970-01-01T00:00:00Z and nanoseconds
within the second. A leap second (`23:59:60`) shares its whole second with the second before
it and is told apart by nanoseconds of one billion or more, so instants compare as pairs
`(seconds, nanos)` and a leap second comes after the second it extends.

The calendar is the proleptic Gregorian one, with years from `-262143` to `262142`.
`daysFromCivil` and `civilFromDays` convert between dates and days since the epoch by the
era-of-400-years method.

Instants are written as `YYYY-MM-DDTHH:MM:SSZ` (`Instant.text`): the fraction of a second is
shown only when it is not zero, with 3, 6 or 9 digits as needed; a year outside `0 … 9999` is
written with its sign and at least four digits; a leap second shows as `:60`.
-/

namespace RoutePlanner

open RoutePlanner.Json

/-- A point of UTC time. -/
structure Instant where
  seconds : Int
  nanos : Nat
  deriving DecidableEq, Repr

/-- A calendar date. -/
structure CivilDate where
  year : Int
  month : Nat
  day : Nat
  deriving DecidableEq, Repr

/-- Days since 1970-01-01 of a proleptic Gregorian date. -/
def daysFromCivil (d : CivilDate) : Int :=
  let y : Int := if d.month ≤ 2 then d.year - 1 else d.year
  let era := y / 400
  let yoe := y - era * 400
  let mp : Int := if d.month > 2 then d.month - 3 else d.month + 9
  let doy := (153 * mp + 2) / 5 + d.day - 1
  let doe := yoe * 365 + yoe / 4 - yoe / 100 + doy
  era * 146097 + doe - 719468

/-- The proleptic Gregorian date of a count of days since 1970-01-01. -/
def civilFromDays (z : Int) : CivilDate :=
  let z := z + 719468
  let era := z / 146097
  let doe := z - era * 146097
  let yoe := (doe - doe / 1460 + doe / 36524 - doe / 146096) / 365
  let doy := doe - (365 * yoe + yoe / 4 - yoe / 100)
  let mp := (5 * doy + 2) / 153
  let d := doy - (153 * mp + 2) / 5 + 1
  let m := if mp < 10 then mp + 3 else mp - 9
  let y := yoe + era * 400
  ⟨if m ≤ 2 then y + 1 else y, m.toNat, d.toNat⟩

/-- Whether a year is a leap year. -/
def isLeapYear (y : Int) : Bool := y % 4 == 0 && (y % 100 != 0 || y % 400 == 0)

/-- The number of days of a month. -/
def daysInMonth (y : Int) (m : Nat) : Nat :=
  match m with
  | 2 => if isLeapYear y then 29 else 28
  | 4 | 6 | 9 | 11 => 30
  | _ => 31

/-- The earliest year of the calendar. -/
def minYear : Int := -262143

/-- The latest year of the calendar. -/
def maxYear : Int := 262142

/-- Whether a count of days since the epoch falls within the calendar's years. -/
def dayInRange (days : Int) : Bool :=
  daysFromCivil ⟨minYear, 1, 1⟩ ≤ days && days ≤ daysFromCivil ⟨maxYear, 12, 31⟩

namespace Instant

/-- The instant at a whole number of seconds since the epoch, if the calendar reaches it. -/
def ofSeconds? (s : Int) : Option Instant :=
  if dayInRange (s / 86400) then some ⟨s, 0⟩ else none

/-- Whether the instant lies within the calendar. -/
def inRange (t : Instant) : Bool := dayInRange (t.seconds / 86400)

/-- Instants compare by seconds, then nanoseconds. -/
def lt (a b : Instant) : Bool := a.seconds < b.seconds || (a.seconds == b.seconds && a.nanos < b.nanos)

/-- Whether `a` is not later than `b`. -/
def le (a b : Instant) : Bool := !(lt b a)

/-- The instant `ms` milliseconds later, kept within the second's nanoseconds. -/
def addMillis (t : Instant) (ms : Int) : Instant :=
  let total := t.seconds * 1000000000 + (t.nanos : Int) + ms * 1000000
  ⟨total / 1000000000, (total % 1000000000).toNat⟩

/-- The whole milliseconds from `a` to `b`, rounded toward zero. -/
def millisBetween (a b : Instant) : Int :=
  ((b.seconds - a.seconds) * 1000000000 + (b.nanos : Int) - (a.nanos : Int)).tdiv 1000000

/-- `n` with at least `w` digits. -/
def padded (w : Nat) (n : Nat) : String :=
  let s := toString n
  String.ofList (List.replicate (w - s.length) '0') ++ s

/-- A year: four digits within `0 … 9999`, else its sign and at least four digits. -/
def yearText (y : Int) : String :=
  if 0 ≤ y ∧ y ≤ 9999 then padded 4 y.toNat
  else (if y < 0 then "-" else "+") ++ padded 4 y.natAbs

/-- The fraction of a second: none when zero, else 3, 6 or 9 digits. -/
def fractionText (nanos : Nat) : String :=
  if nanos = 0 then ""
  else if nanos % 1000000 = 0 then "." ++ padded 3 (nanos / 1000000)
  else if nanos % 1000 = 0 then "." ++ padded 6 (nanos / 1000)
  else "." ++ padded 9 nanos

/-- The date and time of day, with the fraction given by `frac`. -/
def textWith (frac : Nat → String) (t : Instant) : String :=
  let days := t.seconds / 86400
  let secs := (t.seconds % 86400).toNat
  let date := civilFromDays days
  let (sec, nanos) := if t.nanos ≥ 1000000000 then (secs % 60 + 1, t.nanos - 1000000000)
    else (secs % 60, t.nanos)
  yearText date.year ++ "-" ++ padded 2 date.month ++ "-" ++ padded 2 date.day ++ "T" ++
    padded 2 (secs / 3600) ++ ":" ++ padded 2 (secs / 60 % 60) ++ ":" ++ padded 2 sec ++
    frac nanos ++ "Z"

/-- **The text of an instant**, with as many fraction digits as it needs. -/
def text (t : Instant) : String := textWith fractionText t

/-- The text of an instant with exactly three fraction digits. -/
def millisText (t : Instant) : String := textWith (fun n => "." ++ padded 3 (n / 1000000)) t

/-- An instant as JSON. -/
def toJson (t : Instant) : Value := .string t.text

end Instant

end RoutePlanner
