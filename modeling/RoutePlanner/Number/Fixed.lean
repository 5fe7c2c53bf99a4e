import RoutePlanner.Number.Text
import RoutePlanner.Number.Arith
import RoutePlanner.Number.Read

/-!
# Fixed places with ties away from zero

`toFixed x d` writes `x` with `max d 0` places after the point. It differs from plain
`fixedPlaces`, which rounds the exact binary value half to even, only at exact binary ties:
when `x · 2 ^ (d + 1)` is an odd whole number, `x` lies exactly halfway between two
neighbours on the grid of `d` places, and a nudge of `signum x · 10 ^ -(d + 3)` is added first,
so that the tie goes away from zero (`0.0078125` at six places is `0.007813`). Both powers
are computed by `powi`, so the nudge is the double the arithmetic gives, which may vanish
against a large `x`.
-/

namespace RoutePlanner.Number

/-- Whether `x` lies exactly halfway between two neighbours with `d` places. -/
def isBinaryTie (x : Float) (d : Int) : Bool :=
  isFinite x && isOddWholeNumber (x * powi 2.0 (d + 1))

/-- **Fixed places, ties away from zero.** -/
def toFixed (x : Float) (d : Int) : String :=
  let places := (max d 0).toNat
  if isBinaryTie x d then fixedPlaces (x + signum x * powi 10.0 (-(d + 3))) places
  else fixedPlaces x places

/-- A value rounded to `d` places and read back; the value itself when the text does not
read as a number. -/
def roundTo (x : Float) (d : Int) : Float :=
  (readFloat (toFixed x d)).getD x

end RoutePlanner.Number
