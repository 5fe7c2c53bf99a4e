import RoutePlanner.Number.Binary

/-!
# Rounding and conversions of doubles

The conversions of a double to whole numbers that the library uses, each defined on the exact
magnitude from `Number.Binary` rather than through opaque float primitives:

* `roundMetric` — a measured quantity as a count: halves away from zero, and zero for
  anything that is not a positive finite number; the count stops at `2 ^ 64 - 1`.
* `saturatingCount32` — truncation toward zero, clamped to `0 … 2 ^ 32 - 1`, NaN as zero.
* `roundHalfAway` — the nearest whole double, halves away from zero, sign kept.
* `isWholeNumber`, `isOddWholeNumber` — integrality tests on finite doubles.
* `powi` — a double raised to an integer power by repeated squaring, as machine code does it:
  the square-and-multiply loop on the magnitude of the exponent, then one reciprocal for a
  negative exponent. Every step rounds, so `powi 10 (-9)` is not the double nearest `1e-9`.
-/

namespace RoutePlanner.Number

/-- The largest value of an unsigned 64-bit count. -/
def maxCount64 : Nat := Nat.pow 2 64 - 1

/-- The largest value of an unsigned 32-bit count. -/
def maxCount32 : Nat := Nat.pow 2 32 - 1

/-- **Metric rounding.** A positive finite double rounded half away from zero, saturated at
`2 ^ 64 - 1`; every other double (zero, negative, NaN, infinite) gives `0`. -/
def roundMetric (x : Float) : Nat :=
  match classify x with
  | .finite false b => if b.mantissa = 0 then 0 else min b.roundAway maxCount64
  | _ => 0

/-- **Saturating 32-bit count.** Truncation toward zero clamped to `0 … 2 ^ 32 - 1`;
NaN gives `0` and `+∞` the largest count. -/
def saturatingCount32 (x : Float) : Nat :=
  match classify x with
  | .nan => 0
  | .infinite neg => if neg then 0 else maxCount32
  | .finite neg b => if neg then 0 else min b.truncate maxCount32

/-- Whether a double is finite and a whole number. -/
def isWholeNumber (x : Float) : Bool :=
  match classify x with
  | .finite _ b => b.isIntegral
  | _ => false

/-- Whether a double is finite and an odd whole number. -/
def isOddWholeNumber (x : Float) : Bool :=
  match classify x with
  | .finite _ b => b.isIntegral && b.truncate % 2 == 1
  | _ => false

/-- Whether a double is neither NaN nor infinite. -/
def isFinite (x : Float) : Bool :=
  match classify x with
  | .finite _ _ => true
  | _ => false

/-- **Nearest whole double**, halves away from zero, keeping the sign (`-0.4` gives `-0.0`).
NaN and the infinities are returned unchanged. -/
def roundHalfAway (x : Float) : Float :=
  match classify x with
  | .finite neg b => if b.isIntegral then x else nearestFloat neg b.roundAway 1
  | _ => x

/-- The sign of a double as `1.0` or `-1.0` (by its sign bit, so `-0.0` gives `-1.0`), and
NaN for NaN. -/
def signum (x : Float) : Float :=
  match classify x with
  | .nan => x
  | _ => if signBit x then -1.0 else 1.0

/-- The square-and-multiply loop of `powi` on the magnitude of the exponent. -/
def powLoop (a r : Float) (n : Nat) : Float :=
  let r' := if n % 2 = 1 then r * a else r
  if h : n / 2 = 0 then r'
  else powLoop (a * a) r' (n / 2)
termination_by n
decreasing_by omega

/-- **Integer power by repeated squaring**, then a reciprocal for a negative exponent. -/
def powi (a : Float) (n : Int) : Float :=
  let r := powLoop a 1.0 n.natAbs
  if n < 0 then 1.0 / r else r

end RoutePlanner.Number
