import RoutePlanner.Proofs.DoubleRounding
import RoutePlanner.Number.Arith
import Mathlib.Data.Rat.Floor

/-!
# Sums and quotients of non-negative doubles

`+` and `/` on doubles are the float model's: both operands unpacked, the exact result rounded
by `roundWithAccuracy`, the result packed. Read through `doubleValue`, for operands of known
sign:

* `doubleValue_add_nonneg`: the sum of two non-negative doubles is a double within one unit
  `2 ^ (N - 52)` of the exact sum when that is at most `2 ^ N`, and it is never below the first
  summand. So a running total of non-negative amounts never decreases.
* `doubleValue_div_pos`: the quotient of two positive doubles is a non-negative double within
  one unit of the exact quotient.

Signed zeros are included: `-0.0` is a non-negative double of value zero, and a sum of zeros is
a zero of one sign or the other.
-/

namespace RoutePlanner.Number

open Float.Model Float.Model.UnpackedFloat

/-! ### Operands -/

/-- A sum of doubles is the model's sum of their unpacked classes, packed. -/
theorem classify_add (x y : Float) :
    classify (x + y) = classify (Float.ofModel (Float.Model.pack
      (UnpackedFloat.add Format.binary64 (classify x).unpacked (classify y).unpacked))) := by
  rw [← Float.unpack_eq_unpacked, ← Float.unpack_eq_unpacked]
  rfl

/-- A quotient of doubles is the model's quotient of their unpacked classes, packed. -/
theorem classify_div (x y : Float) :
    classify (x / y) = classify (Float.ofModel (Float.Model.pack
      (UnpackedFloat.div Format.binary64 (classify x).unpacked (classify y).unpacked))) := by
  rw [← Float.unpack_eq_unpacked, ← Float.unpack_eq_unpacked]
  rfl

/-- The exponent of a finite double is at most `971`: its biased exponent is below `2047`. -/
theorem classify_exponent_le {x : Float} {neg : Bool} {b : Binary}
    (h : classify x = .finite neg b) : b.exponent ≤ 971 := by
  rw [classify, classifyBits_eq_fields] at h
  unfold classifyFields at h
  split at h
  · split at h <;> cases h
  · rename_i he
    simp only [beq_iff_eq] at he
    split at h
    · cases h
      show (-1074 : Int) ≤ 971
      decide
    · cases h
      show ((x.toBits.toNat / 2 ^ 52 % 2048 : Nat) : Int) - 1075 ≤ 971
      omega

/-- A double with a value is a finite one of that value. -/
theorem classify_of_doubleValue {x : Float} {v : ℚ} (h : doubleValue x = some v) :
    ∃ n b, classify x = .finite n b ∧ (FloatClass.finite n b).value = v := by
  unfold doubleValue at h
  split at h
  · rename_i n b hb
    rw [hb] at h
    exact ⟨n, b, hb, Option.some.inj h⟩
  · cases h

/-- The zeros pack to zeros. -/
theorem doubleValue_pack_zero (s : Sign) :
    doubleValue (Float.ofModel (Float.Model.pack (.zero s))) = some 0 := by
  have h : classify (Float.ofModel (Float.Model.pack (.zero s))) =
      .finite (s == .negative) ⟨0, -1074, false⟩ := by
    cases s <;> decide
  rw [doubleValue_of_classify h, toRat_of_zero rfl]
  simp

/-- **A non-negative double unpacks as a zero or a positive magnitude**: a zero of either sign
with value zero, or a positive finite double whose magnitude is its value. -/
theorem unpacked_of_nonneg {x : Float} {v : ℚ} (hx : doubleValue x = some v) (hv : 0 ≤ v) :
    (∃ s, (classify x).unpacked = .zero s ∧ v = 0) ∨
      ∃ b : Binary, ∃ h : 0 < b.mantissa, classify x = .finite false b ∧
        (classify x).unpacked = .finite .positive b.mantissa b.exponent h ∧ v = b.toRat := by
  obtain ⟨neg, b, hb, hval⟩ := classify_of_doubleValue hx
  rw [hb]
  simp only [FloatClass.value] at hval
  rcases Nat.eq_zero_or_pos b.mantissa with hz | hp
  · -- a zero, of either sign
    refine .inl ⟨signOf neg, unpacked_of_zero hz, ?_⟩
    rw [← hval, toRat_of_zero hz]
    simp
  · -- a positive magnitude cannot carry the minus sign, since the value is not negative
    have hpos := toRat_pos hp
    cases neg
    · exact .inr ⟨b, hp, rfl, unpacked_of_pos hp, by simpa using hval.symm⟩
    · simp only [if_true] at hval
      linarith

/-- The value of a double depends on its class only. -/
theorem doubleValue_congr {x y : Float} (h : classify x = classify y) :
    doubleValue x = doubleValue y := by
  unfold doubleValue
  rw [h]

/-- A positive magnitude stands for its value. -/
theorem doubleValue_of_classify_pos {x : Float} {b : Binary} (h : classify x = .finite false b) :
    doubleValue x = some b.toRat := by
  rw [doubleValue_of_classify h]
  rfl

/-- A positive magnitude that `classify` reads packs back to a double of its value. -/
theorem doubleValue_pack_of_classify {x : Float} {b : Binary} (hx : classify x = .finite false b)
    (h : 0 < b.mantissa) :
    doubleValue (Float.ofModel (Float.Model.pack (.finite .positive b.mantissa b.exponent h))) =
      some b.toRat := by
  obtain ⟨h53, hc, hmin⟩ := classify_normal hx
  obtain ⟨b', hb', hm, he⟩ := classify_pack_finite h h53 hc hmin (classify_exponent_le hx)
  rw [doubleValue_of_classify_pos hb', Binary.toRat, Binary.toRat, hm, he]

/-- A magnitude moved down to a smaller exponent keeps its value. -/
theorem shiftLeft_toRat (m : Nat) {e t : Int} (ht : t ≤ e) :
    ((m <<< (e - t).toNat : Nat) : ℚ) * 2 ^ t = m * 2 ^ e := by
  rw [Nat.shiftLeft_eq, Nat.cast_mul, Nat.cast_pow, Nat.cast_ofNat, mul_assoc, ← zpow_natCast,
    ← zpow_add₀ (by norm_num)]
  congr 2
  omega

/-! ### Sums -/

/-- **Rounding an exact value**: the model first moves a positive mantissa down to the target
exponent, so that it has at least 53 bits unless it sits at the least exponent, and then rounds
it exactly; the value stays. -/
theorem round_eq {m : Nat} (hm : 0 < m) (e : Int) :
    ∃ m' e', UnpackedFloat.round Format.binary64 .positive m e =
        roundWithAccuracy Format.binary64 .positive m' e' .exact ∧
      (m' : ℚ) * 2 ^ e' = m * 2 ^ e ∧ (52 ≤ m'.log2 ∨ e' ≤ -1074) := by
  have ht := targetExponent_eq m e
  refine ⟨m <<< (e - Format.binary64.targetExponent (totalExponent m e)).toNat,
    e - (e - Format.binary64.targetExponent (totalExponent m e)).toNat, rfl, ?_, ?_⟩
  · have := shiftLeft_toRat m (show e - (e - Format.binary64.targetExponent
      (totalExponent m e)).toNat ≤ e by omega)
    rwa [show (e - (e - (e - Format.binary64.targetExponent (totalExponent m e)).toNat)).toNat =
      (e - Format.binary64.targetExponent (totalExponent m e)).toNat by omega] at this
  · rw [ht]
    by_cases hle : e ≤ max ((m.log2 : Int) + e - 52) (-1074)
    · -- no move: the mantissa has its 53 bits already, or sits at the least exponent
      rw [show (e - max ((m.log2 : Int) + e - 52) (-1074)).toNat = 0 by omega,
        Nat.shiftLeft_zero]
      omega
    · by_cases hmin : (m.log2 : Int) + e - 52 ≤ -1074
      · exact .inr (by omega)
      · -- moved by `52 - log₂ m`, its leading bit lands on `2 ^ 52`
        left
        have hm : m ≠ 0 := Nat.pos_iff_ne_zero.1 hm
        have hk : (e - max ((m.log2 : Int) + e - 52) (-1074)).toNat = 52 - m.log2 := by omega
        rw [hk, Nat.shiftLeft_eq]
        refine (Nat.le_log2 (Nat.mul_ne_zero hm (Nat.pos_iff_ne_zero.1 (Nat.two_pow_pos _)))).2 ?_
        calc 2 ^ 52 = 2 ^ m.log2 * 2 ^ (52 - m.log2) := by rw [← Nat.pow_add]; congr 1; omega
          _ ≤ m * 2 ^ (52 - m.log2) := Nat.mul_le_mul_right _ (Nat.log2_self_le hm)

/-- Two positive finite operands are added exactly at the smaller exponent and rounded. -/
theorem add_finite_positive {mx my : Nat} {ex ey : Int} (hx : 0 < mx) (hy : 0 < my) :
    UnpackedFloat.add Format.binary64 (.finite .positive mx ex hx) (.finite .positive my ey hy) =
      UnpackedFloat.round Format.binary64 .positive
        (mx <<< (ex - min ex ey).toNat + my <<< (ey - min ex ey).toNat) (min ex ey) := by
  have hpos : 0 < mx <<< (ex - min ex ey).toNat + my <<< (ey - min ex ey).toNat := by
    rw [Nat.shiftLeft_eq]
    exact Nat.add_pos_left (Nat.mul_pos hx (Nat.two_pow_pos _)) _
  show UnpackedFloat.normalize Format.binary64 ((mx <<< (ex - min ex ey).toNat : Nat) +
    (my <<< (ey - min ex ey).toNat : Nat)) (min ex ey) .positive = _
  unfold UnpackedFloat.normalize
  rw [show compare ((mx <<< (ex - min ex ey).toNat : Nat) + (my <<< (ey - min ex ey).toNat : Nat)
      : Int) 0 = .gt from Int.compare_eq_gt.2 (by omega)]
  rfl

/-- **Sums of non-negative doubles.** The sum of two non-negative doubles, with an exact sum at
most `2 ^ N` for `N` within the normal exponents, is a double within one unit `2 ^ (N - 52)`
of the exact sum, and never below the first summand: the first summand is a double at most
the exact sum, and rounding loses no such double. -/
theorem doubleValue_add_nonneg {x y : Float} {vx vy : ℚ} (hx : doubleValue x = some vx)
    (hy : doubleValue y = some vy) (hx0 : 0 ≤ vx) (hy0 : 0 ≤ vy) {N : Int} (hN : -1022 ≤ N)
    (hN' : N ≤ 1022) (hs : vx + vy ≤ 2 ^ N) :
    ∃ v, doubleValue (x + y) = some v ∧ vx ≤ v ∧
      vx + vy - 2 ^ (N - 52) ≤ v ∧ v ≤ vx + vy + 2 ^ (N - 52) := by
  have hunit : (0 : ℚ) ≤ 2 ^ (N - 52) := zpow_nonneg (by norm_num) _
  rw [doubleValue_congr (classify_add x y)]
  rcases unpacked_of_nonneg hx hx0 with ⟨sx, hux, rfl⟩ | ⟨bx, hbx, hcx, hux, rfl⟩ <;>
    rcases unpacked_of_nonneg hy hy0 with ⟨sy, huy, rfl⟩ | ⟨b, hb, hcy, huy, rfl⟩ <;>
    rw [hux, huy] <;> clear hux huy
  · -- two zeros add to a zero
    have hz : UnpackedFloat.add Format.binary64 (.zero sx) (.zero sy) =
        .zero (if sx == sy then sx else .positive) := by
      cases sx <;> cases sy <;> rfl
    rw [hz, doubleValue_pack_zero]
    exact ⟨0, rfl, le_rfl, by linarith, by linarith⟩
  · -- a zero and a positive number add to that number
    have hz : UnpackedFloat.add Format.binary64 (.zero sx)
        (.finite .positive b.mantissa b.exponent hb) =
          .finite .positive b.mantissa b.exponent hb := by
      cases sx <;> rfl
    rw [hz, doubleValue_pack_of_classify hcy hb]
    exact ⟨b.toRat, rfl, hy0, by linarith, by linarith⟩
  · have hz : UnpackedFloat.add Format.binary64 (.finite .positive bx.mantissa bx.exponent hbx)
        (.zero sy) = .finite .positive bx.mantissa bx.exponent hbx := by
      cases sy <;> rfl
    rw [hz, doubleValue_pack_of_classify hcx hbx]
    exact ⟨bx.toRat, rfl, le_rfl, by linarith, by linarith⟩
  · -- two positive numbers: the exact sum at the smaller exponent, rounded
    rw [add_finite_positive]
    have hsum : 0 < bx.mantissa <<< (bx.exponent - min bx.exponent b.exponent).toNat +
        b.mantissa <<< (b.exponent - min bx.exponent b.exponent).toNat := by
      rw [Nat.shiftLeft_eq]
      exact Nat.add_pos_left (Nat.mul_pos hbx (Nat.two_pow_pos _)) _
    obtain ⟨m, e, hround, hval, hc⟩ := round_eq hsum (min bx.exponent b.exponent)
    have hq : (m : ℚ) * 2 ^ e = bx.toRat + b.toRat := by
      rw [hval, Nat.cast_add, add_mul, shiftLeft_toRat _ (min_le_left _ _),
        shiftLeft_toRat _ (min_le_right _ _)]
      rfl
    have hq' : bx.toRat + b.toRat < (m + 1) * 2 ^ e := by
      rw [← hq, add_mul, one_mul]
      exact lt_add_of_pos_right _ (zpow_pos (by norm_num) e)
    rw [hround]
    obtain ⟨r, hr, hlow, hlo, hhi⟩ :=
      classify_roundWithAccuracy .exact hc ⟨hq.le, hq'⟩ hN hN' hs
    refine ⟨r.toRat, doubleValue_of_classify_pos hr, ?_, hlo, hhi⟩
    exact hlow bx (classify_normal hcx) (le_add_of_nonneg_right hy0)

/-! ### Quotients -/

section Quotient

variable {m₁ m₂ : Nat} {e₁ e₂ : Int}

/-- Two positive finite operands are divided by `divCore` and rounded with its accuracy. -/
theorem div_finite_positive (h₁ : 0 < m₁) (h₂ : 0 < m₂) :
    UnpackedFloat.div Format.binary64 (.finite .positive m₁ e₁ h₁) (.finite .positive m₂ e₂ h₂) =
      roundWithAccuracy Format.binary64 .positive (divCore Format.binary64 m₁ e₁ m₂ e₂).1
        (divCore Format.binary64 m₁ e₁ m₂ e₂).2.1 (divCore Format.binary64 m₁ e₁ m₂ e₂).2.2 :=
  rfl

/-- **The quotient `divCore` computes is a floor**: `m₁ · 2 ^ s` divided by `m₂` in whole numbers,
at the exponent `e₁ - e₂ - s`, so the exact quotient lies between it and the next unit. -/
theorem divCore_sandwich (h₂ : 0 < m₂) :
    ((divCore Format.binary64 m₁ e₁ m₂ e₂).1 : ℚ) * 2 ^ (divCore Format.binary64 m₁ e₁ m₂ e₂).2.1 ≤
        (m₁ * 2 ^ e₁) / (m₂ * 2 ^ e₂) ∧
      (m₁ * 2 ^ e₁) / (m₂ * 2 ^ e₂) <
        ((divCore Format.binary64 m₁ e₁ m₂ e₂).1 + 1 : ℚ) *
          2 ^ (divCore Format.binary64 m₁ e₁ m₂ e₂).2.1 := by
  simp only [divCore]
  generalize ht : min (e₁ - e₂) (Format.binary64.targetExponent
    (totalExponent m₁ e₁ - totalExponent m₂ e₂)) = t
  have hte : t ≤ e₁ - e₂ := ht ▸ min_le_left _ _
  set A := m₁ <<< (e₁ - e₂ - t).toNat
  -- the exact quotient is `A / m₂` units of `2 ^ t`
  have hq : (m₁ * (2 : ℚ) ^ e₁) / (m₂ * 2 ^ e₂) = (A / m₂ : ℚ) * 2 ^ t := by
    have hA : (A : ℚ) * 2 ^ t = m₁ * 2 ^ (e₁ - e₂) := shiftLeft_toRat m₁ hte
    rw [div_mul_eq_mul_div, hA, zpow_sub₀ (by norm_num)]
    field_simp
  have hlo : ((A / m₂ : Nat) : ℚ) ≤ A / m₂ := by
    rw [le_div_iff₀ (by exact_mod_cast h₂)]
    exact_mod_cast Nat.div_mul_le_self A m₂
  have hhi : (A / m₂ : ℚ) < (A / m₂ : Nat) + 1 := by
    rw [div_lt_iff₀ (by exact_mod_cast h₂)]
    exact_mod_cast (Nat.lt_mul_div_succ A h₂).trans_eq (Nat.mul_comm _ _)
  have hunit : (0 : ℚ) < 2 ^ t := zpow_pos (by norm_num) t
  rw [hq]
  exact ⟨mul_le_mul_of_nonneg_right hlo hunit.le, mul_lt_mul_of_pos_right hhi hunit⟩

/-- **The quotient `divCore` computes is canonical**: it has at least 53 bits unless its
exponent is at most the least one. Above the least exponent, the exponent is at most 53 below
the quotient's leading bit, so `m₁ · 2 ^ s` is at least `2 ^ 52 · m₂`. -/
theorem divCore_canonical (h₁ : 0 < m₁) (h₂ : 0 < m₂) :
    52 ≤ (divCore Format.binary64 m₁ e₁ m₂ e₂).1.log2 ∨
      (divCore Format.binary64 m₁ e₁ m₂ e₂).2.1 ≤ -1074 := by
  simp only [divCore]
  have htarget : Format.binary64.targetExponent (totalExponent m₁ e₁ - totalExponent m₂ e₂) =
      max ((m₁.log2 : Int) + e₁ - m₂.log2 - e₂ - 53) (-1074) := by
    have hbits : (Format.binary64.mantissaBits : Int) = 53 := rfl
    simp only [Format.targetExponent, totalExponent, Format.minExponent, hbits]
    omega
  rw [htarget]
  generalize ht : min (e₁ - e₂) (max ((m₁.log2 : Int) + e₁ - m₂.log2 - e₂ - 53) (-1074)) = t
  by_cases hmin : t ≤ -1074
  · exact .inr hmin
  · left
    -- the shift is at least `log₂ m₂ - log₂ m₁ + 53`
    have hs : m₂.log2 + 53 ≤ m₁.log2 + (e₁ - e₂ - t).toNat := by omega
    have hA : 2 ^ 52 * m₂ ≤ m₁ <<< (e₁ - e₂ - t).toNat := by
      rw [Nat.shiftLeft_eq]
      calc 2 ^ 52 * m₂ ≤ 2 ^ 52 * 2 ^ (m₂.log2 + 1) :=
            Nat.mul_le_mul_left _ (Nat.lt_log2_self).le
        _ = 2 ^ (m₂.log2 + 53) := by rw [← Nat.pow_add]; congr 1; omega
        _ ≤ 2 ^ (m₁.log2 + (e₁ - e₂ - t).toNat) := Nat.pow_le_pow_right (by decide) hs
        _ = 2 ^ m₁.log2 * 2 ^ (e₁ - e₂ - t).toNat := Nat.pow_add _ _ _
        _ ≤ m₁ * 2 ^ (e₁ - e₂ - t).toNat :=
            Nat.mul_le_mul_right _ (Nat.log2_self_le (Nat.pos_iff_ne_zero.1 h₁))
    have hQ : 2 ^ 52 ≤ m₁ <<< (e₁ - e₂ - t).toNat / m₂ :=
      (Nat.le_div_iff_mul_le h₂).2 hA
    exact (Nat.le_log2 (by omega)).2 hQ

end Quotient

/-- **Quotients of positive doubles.** The quotient of two positive doubles, with an exact
quotient at most `2 ^ N` for `N` within the normal exponents, is a non-negative double within
one unit `2 ^ (N - 52)` of the exact quotient. -/
theorem doubleValue_div_pos {x y : Float} {vx vy : ℚ} (hx : doubleValue x = some vx)
    (hy : doubleValue y = some vy) (hx0 : 0 < vx) (hy0 : 0 < vy) {N : Int} (hN : -1022 ≤ N)
    (hN' : N ≤ 1022) (hq : vx / vy ≤ 2 ^ N) :
    ∃ v, doubleValue (x / y) = some v ∧ 0 ≤ v ∧
      vx / vy - 2 ^ (N - 52) ≤ v ∧ v ≤ vx / vy + 2 ^ (N - 52) := by
  -- both operands are positive magnitudes
  obtain ⟨sx, -, rfl⟩ | ⟨bx, hbx, -, hux, rfl⟩ := unpacked_of_nonneg hx hx0.le
  · exact absurd hx0 (lt_irrefl 0)
  obtain ⟨sy, -, rfl⟩ | ⟨b, hb, -, huy, rfl⟩ := unpacked_of_nonneg hy hy0.le
  · exact absurd hy0 (lt_irrefl 0)
  rw [doubleValue_congr (classify_div x y), hux, huy, div_finite_positive]
  obtain ⟨r, hr, -, hlo, hhi⟩ := classify_roundWithAccuracy _ (divCore_canonical hbx hb)
    (divCore_sandwich hb) hN hN' hq
  refine ⟨r.toRat, doubleValue_of_classify_pos hr, ?_, hlo, hhi⟩
  exact mul_nonneg (Nat.cast_nonneg _) (zpow_nonneg (by norm_num) _)

/-! ### Counts -/

/-- Rounding half up brackets the quotient: `r - 1/2 ≤ num / den < r + 1/2`. -/
theorem roundDiv_up_bounds (num den : Nat) (h : 0 < den) :
    2 * (roundDiv num den .up * den) ≤ 2 * num + den ∧
      2 * num + den < 2 * (roundDiv num den .up * den) + 2 * den := by
  have e : den * (num / den) + num % den = num := Nat.div_add_mod num den
  have l : num % den < den := Nat.mod_lt _ h
  simp only [roundDiv]
  generalize num / den = q at *
  generalize num % den = r at *
  have hq : (q + 1) * den = den * q + den := by rw [Nat.add_mul, Nat.mul_comm]; simp
  have hq0 : q * den = den * q := Nat.mul_comm ..
  generalize den * q = p at *
  split
  · rename_i hc; rw [Nat.compare_eq_lt] at hc; omega
  · rename_i hc; rw [Nat.compare_eq_gt] at hc; omega
  · rename_i hc _; rw [Nat.compare_eq_eq] at hc; omega
  · rename_i hc; cases hc

/-- **Rounding half away from zero is the floor of the value plus a half.** -/
theorem Binary.roundAway_eq_floor (b : Binary) : b.roundAway = ⌊b.toRat + 1 / 2⌋₊ := by
  have hx : 0 ≤ b.toRat + 1 / 2 := by
    have : 0 ≤ b.toRat := mul_nonneg (Nat.cast_nonneg _) (zpow_nonneg (by norm_num) _)
    linarith
  symm
  rw [Nat.floor_eq_iff hx]
  unfold Binary.roundAway Binary.toRat
  by_cases he : 0 ≤ b.exponent
  · -- a whole number: the half does not reach the next one
    rw [if_pos he]
    obtain ⟨k, hk⟩ := Int.eq_ofNat_of_zero_le he
    rw [hk, zpow_natCast, show (k : Int).toNat = k from rfl, Nat.pow_eq]
    push_cast
    constructor <;> linarith
  · -- `m / 2 ^ k` rounded half up
    rw [if_neg he]
    obtain ⟨k, hk⟩ : ∃ k : Nat, b.exponent = -(k : Int) := ⟨(-b.exponent).toNat, by omega⟩
    rw [hk, show (-(-(k : Int))).toNat = k by omega, Nat.pow_eq, zpow_neg, zpow_natCast]
    have hpos : (0 : ℚ) < 2 ^ k := by positivity
    obtain ⟨hlo, hhi⟩ := roundDiv_up_bounds b.mantissa (2 ^ k) (Nat.two_pow_pos k)
    generalize roundDiv b.mantissa (2 ^ k) Tie.up = r at hlo hhi ⊢
    have hlo' : 2 * ((r : ℚ) * 2 ^ k) ≤ 2 * b.mantissa + 2 ^ k := by exact_mod_cast hlo
    have hhi' : 2 * (b.mantissa : ℚ) + 2 ^ k < 2 * ((r : ℚ) * 2 ^ k) + 2 * 2 ^ k := by
      exact_mod_cast hhi
    rw [← div_eq_mul_inv]
    constructor
    · rw [← sub_nonneg]
      have : (b.mantissa : ℚ) / 2 ^ k + 1 / 2 - r =
          (2 * b.mantissa + 2 ^ k - 2 * (r * 2 ^ k)) / (2 * 2 ^ k) := by
        field_simp
      rw [this]
      exact div_nonneg (by linarith) (by positivity)
    · rw [← sub_pos]
      have : (r : ℚ) + 1 - ((b.mantissa : ℚ) / 2 ^ k + 1 / 2) =
          (2 * (r * 2 ^ k) + 2 * 2 ^ k - (2 * b.mantissa + 2 ^ k)) / (2 * 2 ^ k) := by
        field_simp
      rw [this]
      exact div_pos (by linarith) (by positivity)

/-- **A measured quantity as a count**: a non-negative double of value `v` is recorded as `v`
rounded half up, saturated at `2 ^ 64 - 1`. A zero of either sign counts as zero. -/
theorem roundMetric_eq_floor {x : Float} {v : ℚ} (hx : doubleValue x = some v) (hv : 0 ≤ v) :
    roundMetric x = min ⌊v + 1 / 2⌋₊ maxCount64 := by
  have hhalf : ⌊(0 : ℚ) + 1 / 2⌋₊ = 0 := Nat.floor_eq_zero.2 (by norm_num)
  rcases unpacked_of_nonneg hx hv with ⟨s, hu, rfl⟩ | ⟨b, hb, hc, -, rfl⟩
  · -- a zero: `classify` reads a zero mantissa, of one sign or the other
    rw [hhalf, Nat.zero_min]
    unfold roundMetric
    cases hcx : classify x with
    | nan => rw [hcx] at hu
    | infinite neg => rw [hcx] at hu
    | finite neg b =>
      cases neg
      · have hb : b.mantissa = 0 := by
          by_contra hne
          rw [hcx, unpacked_of_pos (Nat.pos_of_ne_zero hne)] at hu
          cases hu
        dsimp only
        rw [if_pos hb]
      · rfl
  · unfold roundMetric
    rw [hc]
    dsimp only
    rw [if_neg (Nat.pos_iff_ne_zero.1 hb), Binary.roundAway_eq_floor]

/-- **Counts of measured quantities keep their order.** -/
theorem roundMetric_mono {x y : Float} {v w : ℚ} (hx : doubleValue x = some v)
    (hy : doubleValue y = some w) (hv : 0 ≤ v) (hvw : v ≤ w) : roundMetric x ≤ roundMetric y := by
  rw [roundMetric_eq_floor hx hv, roundMetric_eq_floor hy (hv.trans hvw)]
  exact min_le_min_right _ (Nat.floor_mono (by linarith))

end RoutePlanner.Number
