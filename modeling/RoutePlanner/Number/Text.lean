import RoutePlanner.Number.Shortest

/-!
# Writing doubles as text

Two ways to write a double, both over the exact digits of `Number.Binary`:

* **Shortest form**, `Layout.render`: the digits of `Binary.shortest`, placed by a `Layout`
  record. A layout decides where positional notation stops and an exponent takes over, whether
  a whole number keeps a `.0`, how a tie between two shortest candidates goes, and how NaN and
  the infinities are spelled. Each output format of the library names one layout value.
* **Fixed places**, `fixedPlaces`: the exact binary value rounded to a given number of places
  after the point, halves to even. The sign of a negative value stays even when all its
  digits round away (`-0.000000`).
-/

namespace RoutePlanner.Number

/-- `n` zeros. -/
def zeros (n : Nat) : String := String.ofList (List.replicate n '0')

/-- **Layout of a shortest decimal.** With `kk` the number of digits before the point when
the decimal is written positionally (the exponent of the leading digit plus one), the
layout is positional when `alwaysPlain` holds or `plainAbove < kk ≤ plainUpTo`, and
scientific (`d.ddde-7`, `d.ddde+20` or `d.ddde20`, no padding) otherwise. -/
structure Layout where
  alwaysPlain : Bool
  plainAbove : Int
  plainUpTo : Int
  /-- a whole number is written with `.0` -/
  pointZero : Bool
  /-- a positive exponent is written with `+` -/
  exponentPlus : Bool
  tie : Tie
  nan : String
  infinity : String

/-- The digits of a positive decimal, placed by the layout. -/
def Layout.place (l : Layout) (d : Decimal) : String :=
  let s := Nat.repr d.digits
  let len : Int := s.length
  let kk := len + d.exponent
  if l.alwaysPlain || (l.plainAbove < kk && kk ≤ l.plainUpTo) then
    if 0 ≤ d.exponent then
      s ++ zeros d.exponent.toNat ++ (if l.pointZero then ".0" else "")
    else if 0 < kk then
      String.ofList (s.toList.take kk.toNat) ++ "." ++ String.ofList (s.toList.drop kk.toNat)
    else "0." ++ zeros (-kk).toNat ++ s
  else
    let e := (if l.exponentPlus && 0 ≤ kk - 1 then "+" else "") ++ toString (kk - 1)
    if s.length = 1 then s ++ "e" ++ e
    else String.ofList (s.toList.take 1) ++ "." ++ String.ofList (s.toList.drop 1) ++ "e" ++ e

/-- **Shortest text** of a double under a layout. -/
def Layout.render (l : Layout) (x : Float) : String :=
  match classify x with
  | .nan => l.nan
  | .infinite neg => (if neg then "-" else "") ++ l.infinity
  | .finite neg b =>
    (if neg then "-" else "") ++
      (if b.mantissa = 0 then (if l.pointZero then "0.0" else "0")
       else l.place (b.shortest l.tie))

/-- **Plain decimal text**, the way messages and query strings write a double: all digits
positional however large or small, no `.0` on whole numbers, a tie between two shortest
candidates upward, and `NaN`, `inf`, `-inf`. -/
def plainLayout : Layout where
  alwaysPlain := true
  plainAbove := 0
  plainUpTo := 0
  pointZero := false
  exponentPlus := false
  tie := .up
  nan := "NaN"
  infinity := "inf"

/-- A double in plain decimal text. -/
def plainText (x : Float) : String := plainLayout.render x

/-- `n` written with `frac` digits after a point (none when `frac = 0`), padded with leading
zeros so that one digit stands before the point. -/
def pointed (n : Nat) (frac : Nat) : String :=
  let s := Nat.repr n
  let s := zeros (frac + 1 - s.length) ++ s
  if frac = 0 then s
  else
    let cut := s.length - frac
    String.ofList (s.toList.take cut) ++ "." ++ String.ofList (s.toList.drop cut)

/-- A magnitude with `places` digits after the point, rounded half to even. -/
def Binary.fixedPlaces (b : Binary) (places : Nat) : String :=
  if 0 ≤ b.exponent then
    pointed (b.mantissa * Nat.pow 2 b.exponent.toNat) 0 ++
      (if places = 0 then "" else "." ++ zeros places)
  else
    let s := (-b.exponent).toNat
    if s ≤ places then
      -- the expansion is exact at `s` places; the rest are zeros
      pointed (b.mantissa * Nat.pow 5 s) s ++ (if s < places then zeros (places - s) else "")
    else pointed (roundDiv (b.mantissa * Nat.pow 10 places) (Nat.pow 2 s) .toEven) places

/-- **Fixed places.** The exact value of a double with `places` digits after the point,
halves to even; NaN and the infinities as `NaN`, `inf`, `-inf`. -/
def fixedPlaces (x : Float) (places : Nat) : String :=
  match classify x with
  | .nan => "NaN"
  | .infinite neg => if neg then "-inf" else "inf"
  | .finite neg b => (if neg then "-" else "") ++ b.fixedPlaces places

end RoutePlanner.Number
