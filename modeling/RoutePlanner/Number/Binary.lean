/-!
# Binary64 values as exact integers

Every finite double is `mantissa * 2 ^ exponent` for a natural mantissa and an integer
exponent. This module reads that pair off the bits of a `Float` and, the other way round,
builds the double nearest to a quotient of naturals. All arithmetic here is on `Nat` and
`Int`, so what it computes is visible to proofs; `Float` only enters through `toBits` and
`ofBits`.

* `classify` — NaN, an infinity, or a finite signed magnitude.
* `roundDiv` — a quotient of naturals rounded to an integer, with the tie rule as a parameter.
* `nearestFloat` — the double nearest to `num / den` (ties to even), as a reader needs it.
* `Binary.truncate`, `Binary.roundAway` — the integer parts used by saturating conversions.
-/

namespace RoutePlanner.Number

/-- **Tie rule.** Where a value lies exactly halfway between two candidates. -/
inductive Tie where
  /-- the candidate with an even last digit -/
  | toEven
  /-- the candidate further from zero -/
  | up
  deriving DecidableEq, Repr

/-- **Rounded quotient.** `num / den` rounded to an integer; a tie goes as `t` says. -/
def roundDiv (num den : Nat) (t : Tie) : Nat :=
  let q := num / den
  let r := num % den
  match compare (2 * r) den, t with
  | .lt, _ => q
  | .gt, _ => q + 1
  | .eq, .up => q + 1
  | .eq, .toEven => if q % 2 == 0 then q else q + 1

/-- The rounded quotient is within half a unit of the exact one. -/
theorem roundDiv_near (num den : Nat) (t : Tie) (h : 0 < den) :
    2 * (roundDiv num den t * den) ≤ 2 * num + den ∧
      2 * num ≤ 2 * (roundDiv num den t * den) + den := by
  have e : den * (num / den) + num % den = num := Nat.div_add_mod num den
  have l : num % den < den := Nat.mod_lt _ h
  simp only [roundDiv]
  generalize num / den = q at *
  generalize num % den = r at *
  have hq : (q + 1) * den = den * q + den := by rw [Nat.add_mul, Nat.mul_comm]; simp
  have hq0 : q * den = den * q := Nat.mul_comm ..
  generalize den * q = p at *
  split
  · rename_i hc; rw [Nat.compare_eq_lt] at hc; omega
  · rename_i hc; rw [Nat.compare_eq_gt] at hc; omega
  · rename_i hc; rw [Nat.compare_eq_eq] at hc; omega
  · rename_i hc; rw [Nat.compare_eq_eq] at hc; split <;> omega

/-- On an exact tie, ties to even gives an even number. -/
theorem roundDiv_tie_even (num den : Nat) (h : 2 * (num % den) = den) :
    roundDiv num den .toEven % 2 = 0 := by
  have hc : compare (2 * (num % den)) den = .eq := by rw [h]; exact Nat.compare_eq_eq.mpr rfl
  simp only [roundDiv, hc]
  split
  · simp_all
  · simp_all; omega

/-- A finite binary64 magnitude, `mantissa * 2 ^ exponent`. -/
structure Binary where
  mantissa : Nat
  exponent : Int
  /-- the gap to the value below is half the gap to the value above -/
  narrowBelow : Bool
  deriving DecidableEq, Repr

/-- **What a bit pattern stands for.** NaN, an infinity, or a finite signed magnitude. -/
inductive FloatClass where
  | nan
  | infinite (negative : Bool)
  | finite (negative : Bool) (magnitude : Binary)
  deriving DecidableEq, Repr

/-- Reads the sign, exponent and fraction fields of a bit pattern. -/
def classifyBits (b : UInt64) : FloatClass :=
  let negative := (b >>> 63) == 1
  let e := ((b >>> 52) &&& 0x7FF).toNat
  let f := (b &&& 0xFFFFFFFFFFFFF).toNat
  if e == 0x7FF then
    if f == 0 then .infinite negative else .nan
  else if e == 0 then .finite negative ⟨f, -1074, false⟩
  else .finite negative ⟨Nat.pow 2 52 + f, (e : Int) - 1075, f == 0 && e > 1⟩

/-- The class of a double, read off its bits. -/
def classify (x : Float) : FloatClass := classifyBits x.toBits

/-- Whether the sign bit is set (true for `-0.0` too). -/
def signBit (x : Float) : Bool := (x.toBits >>> 63) == 1

/-- `⌊log₂ (num / den)⌋` for positive `num` and `den`. -/
def floorLog2 (num den : Nat) : Int :=
  let l : Int := (num.log2 : Int) - (den.log2 : Int)
  if 0 ≤ l then (if den * Nat.pow 2 l.toNat ≤ num then l else l - 1)
  else (if den ≤ num * Nat.pow 2 (-l).toNat then l else l - 1)

/-- Bits of the signed zero. -/
def zeroBits (negative : Bool) : UInt64 := if negative then 0x8000000000000000 else 0

/-- Bits of the signed infinity. -/
def infinityBits (negative : Bool) : UInt64 :=
  if negative then 0xFFF0000000000000 else 0x7FF0000000000000

/-- **Nearest double.** The binary64 value nearest to `num / den`, ties to even, with the
given sign. A quotient beyond the largest finite double reads as an infinity, one below half
the least subnormal as zero. -/
def nearestFloat (negative : Bool) (num den : Nat) : Float :=
  if num = 0 ∨ den = 0 then Float.ofBits (zeroBits negative)
  else
    let q0 : Int := max (floorLog2 num den - 52) (-1074)
    let m0 := if 0 ≤ q0 then roundDiv num (den * Nat.pow 2 q0.toNat) .toEven
      else roundDiv (num * Nat.pow 2 (-q0).toNat) den .toEven
    -- rounding up may reach the next power of two
    let (m, q) := if Nat.pow 2 53 ≤ m0 then (m0 / 2, q0 + 1) else (m0, q0)
    if 971 < q then Float.ofBits (infinityBits negative)
    else if m = 0 then Float.ofBits (zeroBits negative)
    else
      let sign : UInt64 := if negative then 0x8000000000000000 else 0
      let body : Nat := if Nat.pow 2 52 ≤ m then (q + 1075).toNat * Nat.pow 2 52 + (m - Nat.pow 2 52) else m
      Float.ofBits (sign ||| body.toUInt64)

/-- The integer part of a magnitude (truncation toward zero). -/
def Binary.truncate (b : Binary) : Nat :=
  if 0 ≤ b.exponent then b.mantissa * Nat.pow 2 b.exponent.toNat
  else b.mantissa / Nat.pow 2 (-b.exponent).toNat

/-- The magnitude rounded to an integer, halves away from zero. -/
def Binary.roundAway (b : Binary) : Nat :=
  if 0 ≤ b.exponent then b.mantissa * Nat.pow 2 b.exponent.toNat
  else roundDiv b.mantissa (Nat.pow 2 (-b.exponent).toNat) .up

/-- Whether the magnitude is a whole number. -/
def Binary.isIntegral (b : Binary) : Bool :=
  0 ≤ b.exponent || b.mantissa % Nat.pow 2 (-b.exponent).toNat == 0

end RoutePlanner.Number
