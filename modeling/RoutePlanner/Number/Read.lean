import RoutePlanner.Number.Binary

/-!
# Reading decimal text as a double

`decimalToFloat` gives the double nearest to `digits * 10 ^ exponent` (ties to even), so a
reader only has to split its text into digits and an exponent. `readFloat` is the plain
reader of a number's text: an optional sign, digits with an optional point, an optional
exponent, or one of the words `inf`, `infinity`, `nan` in any case.
-/

namespace RoutePlanner.Number

/-- **Nearest double** to `digits * 10 ^ exponent`, with the given sign. Exponents far outside
the range of doubles give an infinity or a zero without building the power of ten. -/
def decimalToFloat (negative : Bool) (digits : Nat) (exponent : Int) : Float :=
  if digits = 0 then nearestFloat negative 0 1
  else if 400 < exponent then nearestFloat negative (Nat.pow 10 400) 1
  else if exponent + (Nat.repr digits).length < -400 then nearestFloat negative 0 1
  else if 0 ≤ exponent then nearestFloat negative (digits * Nat.pow 10 exponent.toNat) 1
  else nearestFloat negative digits (Nat.pow 10 (-exponent).toNat)

/-- The value of a run of decimal digits, read left to right. -/
def digitsValue (cs : List Char) : Nat :=
  cs.foldl (fun acc c => 10 * acc + (c.toNat - '0'.toNat)) 0

/-- Splits off the longest prefix of decimal digits. -/
def spanDigits (cs : List Char) : List Char × List Char :=
  (cs.takeWhile Char.isDigit, cs.dropWhile Char.isDigit)

/-- An optional sign in front of the text. -/
def takeSign (cs : List Char) : Bool × List Char :=
  match cs with
  | '-' :: rest => (true, rest)
  | '+' :: rest => (false, rest)
  | _ => (false, cs)

/-- The exponent part `e`/`E`, an optional sign and at least one digit, or nothing. -/
def readExponent (cs : List Char) : Option Int :=
  match cs with
  | [] => some 0
  | c :: rest =>
    if c = 'e' ∨ c = 'E' then
      let (neg, rest) := takeSign rest
      let (ds, tail) := spanDigits rest
      if ds.isEmpty ∨ ¬tail.isEmpty then none
      else some (if neg then -(digitsValue ds : Int) else (digitsValue ds : Int))
    else none

/-- **Reads a number's text.** Digits with an optional point (at least one digit on some side
of it) and an optional exponent, after an optional sign; or `inf`, `infinity`, `nan` in any
case. -/
def readFloat (text : String) : Option Float :=
  let (neg, cs) := takeSign text.toList
  let word := String.ofList (cs.map Char.toLower)
  if word = "inf" ∨ word = "infinity" then
    some (Float.ofBits (infinityBits neg))
  else if word = "nan" then some (0.0 / 0.0)
  else
    let (whole, rest) := spanDigits cs
    let (frac, rest) := match rest with
      | '.' :: tail => spanDigits tail
      | _ => ([], rest)
    if whole.isEmpty ∧ frac.isEmpty then none
    else match readExponent rest with
      | none => none
      | some e => some (decimalToFloat neg (digitsValue (whole ++ frac)) (e - frac.length))

end RoutePlanner.Number
