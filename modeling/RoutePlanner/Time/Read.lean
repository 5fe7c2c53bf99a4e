import RoutePlanner.Time.Instant
import RoutePlanner.Text.Blank
import RoutePlanner.Number.Read

/-!
# Reading timestamps

Timestamps are read in a relaxed RFC 3339 form: `date sep time offset`, where

* the date is `year-month-day`; the year has one to four digits, or a sign and any number
  of digits; month and day have one or two digits;
* `sep` is `T`, `t` or a space;
* the time is `hour:minute:second`, each of one or two digits, then optionally a point and
  at least one digit (the first nine count); a second of `60` is a leap second;
* the offset is `Z`, `z`, `UTC` in any case, or a sign (`+`, `-` or the minus sign U+2212),
  two digits of hours, any run of colons and blanks, and two digits of minutes below 60;
* blanks may stand before every number, before each `-` and `:` of date and time, before the
  offset and at the end.

The fields must make a real date and time (hours below 24, minutes below 60, seconds up to
60), the offset must be less than a day, and the instant must fall within the calendar.
-/

namespace RoutePlanner

open RoutePlanner.Number

/-- Between `lo` and `hi` decimal digits. -/
def scanDigits (lo hi : Nat) (cs : List Char) : Except String (Nat × List Char) :=
  let ds := (cs.take hi).takeWhile Char.isDigit
  if ds.length < lo then .error "invalid" else .ok (digitsValue ds, cs.drop ds.length)

/-- The text after one expected character, itself after blanks. -/
def expectAfterBlanks (c : Char) (cs : List Char) : Except String (List Char) :=
  match trimStart cs with
  | d :: rest => if d = c then .ok rest else .error "invalid"
  | [] => .error "too short"

/-- A year: a sign and any number of digits, or one to four digits; after blanks. -/
def scanYear (cs : List Char) : Except String (Int × List Char) :=
  match trimStart cs with
  | '-' :: r => do let (n, r) ← scanDigits 1 r.length r; pure (-(n : Int), r)
  | '+' :: r => do let (n, r) ← scanDigits 1 r.length r; pure ((n : Int), r)
  | r => do let (n, r) ← scanDigits 1 4 r; pure ((n : Int), r)

/-- A fraction of a second after its point: nanoseconds from the first nine digits, the
rest of the digits skipped. -/
def scanFraction : List Char → Except String (Nat × List Char)
  | '.' :: r =>
    let ds := (r.take 9).takeWhile Char.isDigit
    if ds.isEmpty then .error "invalid"
    else .ok (digitsValue ds * Nat.pow 10 (9 - ds.length), (r.drop ds.length).dropWhile Char.isDigit)
  | cs => .ok (0, cs)

/-- Two ASCII digits. -/
def twoDigits : List Char → Option (Nat × Nat)
  | a :: b :: _ => if a.isDigit ∧ b.isDigit then some (a.toNat - 48, b.toNat - 48) else none
  | _ => none

/-- **An offset from UTC** in seconds east: `Z`, or a sign, hours, separators, minutes. -/
def scanOffset (cs : List Char) : Except String (Int × List Char) :=
  match cs with
  | 'Z' :: r | 'z' :: r => .ok (0, r)
  | c :: r =>
    if c = '+' ∨ c = '-' ∨ c = Char.ofNat 0x2212 then
      match twoDigits r with
      | none => .error "invalid offset"
      | some (h1, h2) =>
        let r := (r.drop 2).dropWhile fun x => x = ':' || isBlank x
        match twoDigits r with
        | some (m1, m2) =>
          if m1 ≤ 5 then
            let v : Int := ((h1 * 10 + h2) * 3600 + (m1 * 10 + m2) * 60 : Nat)
            .ok (if c = '+' then v else -v, r.drop 2)
          else .error "offset minutes out of range"
        | none => .error "invalid offset"
    else .error "invalid offset"
  | [] => .error "too short"

/-- Whether the text starts with `UTC` in any case. -/
def startsWithUtc (cs : List Char) : Bool :=
  (cs.take 3).map Char.toUpper == ['U', 'T', 'C']

/-- The instant of a local date and time at an offset, if the fields are valid. -/
def Instant.ofFields (year : Int) (month day hour minute second nanos : Nat) (offset : Int) :
    Option Instant :=
  if minYear ≤ year ∧ year ≤ maxYear ∧ 1 ≤ month ∧ month ≤ 12 ∧ 1 ≤ day ∧
      day ≤ daysInMonth year month ∧ hour ≤ 23 ∧ minute ≤ 59 ∧ second ≤ 60 ∧
      offset.natAbs < 86400 then
    let leap := if second = 60 then 1000000000 else 0
    let secs : Int := daysFromCivil ⟨year, month, day⟩ * 86400 +
      (hour * 3600 + minute * 60 + min second 59 : Nat) - offset
    let t : Instant := ⟨secs, nanos + leap⟩
    if t.inRange then some t else none
  else none

/-- **Reads a timestamp** in the relaxed RFC 3339 form. -/
def Instant.parse? (s : String) : Option Instant :=
  let read : Except String Instant := do
    let (year, cs) ← scanYear s.toList
    let cs ← expectAfterBlanks '-' cs
    let (month, cs) ← scanDigits 1 2 (trimStart cs)
    let cs ← expectAfterBlanks '-' cs
    let (day, cs) ← scanDigits 1 2 (trimStart cs)
    let cs ← match cs with
      | c :: r => if c = 'T' ∨ c = 't' ∨ c = ' ' then pure r else throw "invalid"
      | [] => throw "too short"
    let (hour, cs) ← scanDigits 1 2 (trimStart cs)
    let cs ← expectAfterBlanks ':' cs
    let (minute, cs) ← scanDigits 1 2 (trimStart cs)
    let cs ← expectAfterBlanks ':' cs
    let (second, cs) ← scanDigits 1 2 (trimStart cs)
    let (nanos, cs) ← scanFraction cs
    let cs := trimStart cs
    let (offset, cs) ← if startsWithUtc cs then pure (0, cs.drop 3) else scanOffset cs
    if !(trimStart cs).isEmpty then throw "trailing input"
    match Instant.ofFields year month day hour minute second nanos offset with
    | some t => pure t
    | none => throw "out of range"
  match read with
  | .ok t => some t
  | .error _ => none

/-- An instant from JSON text. -/
def Instant.ofJson : Json.Value → Json.Decoded Instant
  | .string s =>
    match Instant.parse? s with
    | some t => .ok t
    | none => .error "invalid timestamp"
  | _ => .error "expected a string"

end RoutePlanner
