import RoutePlanner.Number.Binary

/-!
# The shortest decimal that reads back

A finite double stands for every real that rounds to it: the interval from halfway to the
double below to halfway to the double above, with its ends when the mantissa is even. The
shortest decimal of a double is the decimal with the fewest significant digits inside that
interval, and of those the one nearest to the double; an exact tie between two such decimals
goes by a `Tie` rule.

The search is the specification turned into a loop. For one digit, two digits, and so on, it
looks at the grid `10 ^ (k - n)`, where `k` is the least power of ten above the value, and
tests the two grid points next to the value. The first grid with a point inside wins.

* `Binary.readsBack` — the interval test, by cross-multiplying naturals.
* `Binary.shortest` — the search.
* `Decimal.stripZeros` — trailing zeros moved into the exponent.
-/

namespace RoutePlanner.Number

/-- `digits * 10 ^ exponent`. -/
structure Decimal where
  digits : Nat
  exponent : Int
  deriving DecidableEq, Repr

/-- Compares `a * 10 ^ i` with `n * 2 ^ j` exactly. -/
def cmpScaled (a : Nat) (i : Int) (n : Nat) (j : Int) : Ordering :=
  compare (a * Nat.pow 10 i.toNat * Nat.pow 2 (-j).toNat) (n * Nat.pow 2 j.toNat * Nat.pow 10 (-i).toNat)

/-- **Reads back.** The decimal lies among the reals that round to the double (to nearest,
ties to even): strictly inside the rounding interval, or on one of its ends when the
mantissa is even. -/
def Binary.readsBack (x : Binary) (d : Decimal) : Bool :=
  let lo := if x.narrowBelow then 4 * x.mantissa - 1 else 4 * x.mantissa - 2
  let hi := 4 * x.mantissa + 2
  let incl := x.mantissa % 2 == 0
  let cl := cmpScaled d.digits d.exponent lo (x.exponent - 2)
  let ch := cmpScaled d.digits d.exponent hi (x.exponent - 2)
  (cl == .gt || (incl && cl == .eq)) && (ch == .lt || (incl && ch == .eq))

/-- The first `i` in `start, start + 1, …` (at most `fuel` steps) with `p i`. -/
def firstFrom (p : Int → Bool) (start : Int) : Nat → Int
  | 0 => start
  | fuel + 1 => if p start then start else firstFrom p (start + 1) fuel

/-- The least `k` with `mantissa * 2 ^ exponent < 10 ^ k`, for a positive mantissa. The
binary logarithm gives an estimate that is at most two steps off. -/
def Binary.scale (x : Binary) : Int :=
  let e2 : Int := (x.mantissa.log2 : Int) + x.exponent
  let est : Int := e2 * 30103 / 100000
  firstFrom (fun k => cmpScaled 1 k x.mantissa x.exponent == .gt) (est - 2) 8

/-- `⌊mantissa * 2 ^ exponent / 10 ^ g⌋`. -/
def Binary.floorOnGrid (x : Binary) (g : Int) : Nat :=
  (x.mantissa * Nat.pow 2 x.exponent.toNat * Nat.pow 10 (-g).toNat) /
    (Nat.pow 2 (-x.exponent).toNat * Nat.pow 10 g.toNat)

/-- Of two neighbouring grid points `t` and `t + 1`, both reading back, the one nearer to
the value; an exact tie goes by `tie`. -/
def Binary.nearer (x : Binary) (t : Nat) (g : Int) (tie : Tie) : Nat :=
  -- compare twice the value with (2t + 1) * 10^g
  match cmpScaled (2 * t + 1) g (2 * x.mantissa) x.exponent with
  | .gt => t
  | .lt => t + 1
  | .eq => match tie with
    | .up => t + 1
    | .toEven => if t % 2 == 0 then t else t + 1

/-- The search over grids with `n, n + 1, …` significant digits, below the scale `k`. -/
def Binary.searchFrom (x : Binary) (k : Int) (tie : Tie) (n : Nat) : Nat → Decimal
  | 0 =>
    let g := k - n
    let t := x.floorOnGrid g
    ⟨x.nearer t g tie, g⟩
  | fuel + 1 =>
    let g := k - n
    let t := x.floorOnGrid g
    let low := x.readsBack ⟨t, g⟩
    let high := x.readsBack ⟨t + 1, g⟩
    if low && high then ⟨x.nearer t g tie, g⟩
    else if low then ⟨t, g⟩
    else if high then ⟨t + 1, g⟩
    else x.searchFrom k tie (n + 1) fuel

/-- Trailing zeros of the digits moved into the exponent. -/
def Decimal.stripZeros (d : Decimal) : Decimal :=
  go d.digits d.exponent d.digits
where
  /-- `fuel` bounds the number of zeros removed -/
  go (digits : Nat) (exponent : Int) : Nat → Decimal
    | 0 => ⟨digits, exponent⟩
    | fuel + 1 =>
      if digits ≠ 0 ∧ digits % 10 = 0 then go (digits / 10) (exponent + 1) fuel
      else ⟨digits, exponent⟩

/-- **Shortest decimal** of a positive magnitude, trailing zeros stripped. -/
def Binary.shortest (x : Binary) (tie : Tie) : Decimal :=
  (x.searchFrom x.scale tie 1 17).stripZeros

/-- The number of decimal digits of a natural (one for zero). -/
def digitCount (n : Nat) : Nat := (Nat.repr n).length

end RoutePlanner.Number
