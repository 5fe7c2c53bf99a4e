import RoutePlanner.Proofs.DoubleValue

/-!
# Rounding sums and quotients of doubles

The float model behind `Float` adds and divides exactly and then rounds: it writes the exact
result as a mantissa at an exponent, moves it to the exponent the format keeps for that
magnitude (`targetExponent`), cutting the mantissa to 53 bits, and rounds the cut mantissa
by the bits it dropped (`roundWithAccuracy`). Read as arithmetic, the cut is a floor and the
rounding adds at most one unit, so a rounded result lies between the largest multiple of the
unit `2 ^ E` below the exact value and one unit above it.

Two consequences are what sums and quotients of measured quantities need.

* **No double below the exact value is lost** (`classify_roundWithAccuracy`): a double whose
  value is at most the exact value is at most the rounded one. Either its exponent is at least
  `E`, and then it is a multiple of the unit below the exact value, or its exponent is smaller,
  and then it is below `2 ^ (E + 52)`, the least magnitude that rounds at `E`.
* **The rounded value is within one unit above the exact value**, and for an exact value up to
  `2 ^ N` the unit is at most `2 ^ (N - 52)`; so a result below the largest exponents is finite.

Main statements: `classify_add_nonneg` (a sum of non-negative doubles never falls below the
first summand and exceeds the exact sum by at most one unit) and `classify_div_pos` (a quotient
of positive doubles exceeds the exact quotient by at most one unit).
-/

namespace RoutePlanner.Number

open Float.Model Float.Model.UnpackedFloat

/-! ### Cutting and rounding a mantissa -/

/-- Shifting an extended mantissa right by `k` floors its mantissa by `2 ^ k`. -/
theorem mantissa_shiftRight (em : ExtendedMantissa) (k : Nat) :
    (em >>> k).mantissa = em.mantissa / 2 ^ k := by
  induction k generalizing em with
  | zero => exact (Nat.div_one _).symm
  | succ k ih =>
    show (ExtendedMantissa.shiftRightOne (em >>> k)).mantissa = _
    rw [ExtendedMantissa.shiftRightOne, ih, Nat.div_div_eq_div_mul, Nat.pow_succ]

/-- Rounding a cut mantissa keeps it or adds one. -/
theorem roundedMantissa_bounds (em : ExtendedMantissa) :
    em.mantissa ≤ em.roundedMantissa ∧ em.roundedMantissa ≤ em.mantissa + 1 := by
  obtain ⟨m, r, s⟩ := em
  cases r <;> cases s <;>
    simp only [ExtendedMantissa.roundedMantissa, ExtendedMantissa.accuracy,
      Accuracy.roundToNearestEven] <;> omega

/-- The exponent a magnitude `m · 2 ^ e` is rounded at: 53 bits below its leading bit, but not
below the exponent of the subnormals. -/
theorem targetExponent_eq (m : Nat) (e : Int) :
    Format.binary64.targetExponent (totalExponent m e) = max ((m.log2 : Int) + e - 52) (-1074) := by
  have hbits : (Format.binary64.mantissaBits : Int) = 53 := rfl
  simp only [Format.targetExponent, totalExponent, Format.minExponent, hbits]
  omega

/-- The mantissa an accuracy is attached to. -/
theorem mantissa_ofMantissaAndAccuracy (m : Nat) (acc : Accuracy) :
    (ExtendedMantissa.ofMantissaAndAccuracy m acc).mantissa = m := by
  cases acc with
  | exact => rfl
  | inexact o => cases o <;> rfl

section Cut

variable (m : Nat) (e : Int) (acc : Accuracy)

/-- The first cut: the mantissa floored by `2 ^ s` for the shift `s` to the target exponent. -/
theorem shiftToTargetExponent_mantissa :
    (shiftToTargetExponent Format.binary64 m e acc).1.mantissa =
      m / 2 ^ (Format.binary64.targetExponent (totalExponent m e) - e).toNat := by
  rw [shiftToTargetExponent, shiftToExponent, mantissa_shiftRight,
    mantissa_ofMantissaAndAccuracy]

theorem shiftToTargetExponent_exponent :
    (shiftToTargetExponent Format.binary64 m e acc).2 =
      e + (Format.binary64.targetExponent (totalExponent m e) - e).toNat := rfl

/-- The cut mantissa has at most 53 bits, and the exponent it stands at is not below that of
the subnormals. -/
theorem shiftToTargetExponent_bounds :
    (shiftToTargetExponent Format.binary64 m e acc).1.mantissa < 2 ^ 53 ∧
      -1074 ≤ (shiftToTargetExponent Format.binary64 m e acc).2 := by
  rw [shiftToTargetExponent_mantissa, shiftToTargetExponent_exponent, targetExponent_eq]
  refine ⟨?_, by omega⟩
  -- `m < 2 ^ (log₂ m + 1)`, and the shift takes at least `log₂ m - 52` bits off
  rw [Nat.div_lt_iff_lt_mul (Nat.two_pow_pos _), ← Nat.pow_add]
  exact lt_of_lt_of_le Nat.lt_log2_self (Nat.pow_le_pow_right (by decide) (by omega))

/-- **A canonical input stays canonical**: a mantissa of at least 53 bits, or one at the least
exponent, is cut to at least 53 bits unless it stands at the least exponent. -/
theorem shiftToTargetExponent_canonical (hc : 52 ≤ m.log2 ∨ e ≤ -1074) :
    2 ^ 52 ≤ (shiftToTargetExponent Format.binary64 m e acc).1.mantissa ∨
      (shiftToTargetExponent Format.binary64 m e acc).2 = -1074 := by
  rw [shiftToTargetExponent_mantissa, shiftToTargetExponent_exponent, targetExponent_eq]
  by_cases hmin : (m.log2 : Int) + e - 52 ≤ -1074
  · exact .inr (by omega)
  · -- the shift takes exactly `log₂ m - 52` bits off, leaving the leading 53
    left
    have hm : m ≠ 0 := by rintro rfl; simp only [Nat.log2_zero] at hc hmin; omega
    rw [Nat.le_div_iff_mul_le (Nat.two_pow_pos _), ← Nat.pow_add]
    exact le_trans (Nat.pow_le_pow_right (by decide) (by omega)) (Nat.log2_self_le hm)

/-- Cut at a canonical input, the exponent is the target exponent itself. -/
theorem shiftToTargetExponent_exponent_eq (hc : 52 ≤ m.log2 ∨ e ≤ -1074) :
    (shiftToTargetExponent Format.binary64 m e acc).2 = max ((m.log2 : Int) + e - 52) (-1074) := by
  rw [shiftToTargetExponent_exponent, targetExponent_eq]
  omega

/-- **The unit of a bounded value**: cut at a canonical input of value at most `2 ^ N`, the
exponent is at most `N - 52`, for `N` not below the exponents of the normal numbers. -/
theorem shiftToTargetExponent_exponent_le (hc : 52 ≤ m.log2 ∨ e ≤ -1074) {q : ℚ} {N : Int}
    (hq : m * (2 : ℚ) ^ e ≤ q) (hN : -1022 ≤ N) (hqN : q ≤ 2 ^ N) :
    (shiftToTargetExponent Format.binary64 m e acc).2 ≤ N - 52 := by
  rw [shiftToTargetExponent_exponent_eq m e acc hc]
  rcases Nat.eq_zero_or_pos m with rfl | hm
  · -- no bits: the input sits at the least exponent already
    rw [Nat.log2_zero] at hc ⊢
    omega
  · -- the leading bit `2 ^ (log₂ m + e)` is at most the value
    have hlead : (2 : ℚ) ^ ((m.log2 : Int) + e) ≤ 2 ^ N :=
      calc (2 : ℚ) ^ ((m.log2 : Int) + e) = (2 ^ m.log2 : Nat) * 2 ^ e := by
            rw [zpow_add₀ (by norm_num), zpow_natCast]; push_cast; ring
        _ ≤ m * 2 ^ e := mul_le_mul_of_nonneg_right
            (by exact_mod_cast Nat.log2_self_le (Nat.pos_iff_ne_zero.1 hm))
            (zpow_nonneg (by norm_num) e)
        _ ≤ 2 ^ N := hq.trans hqN
    have := (zpow_le_zpow_iff_right₀ (by norm_num : (1 : ℚ) < 2)).1 hlead
    omega

end Cut

/-- **Flooring a mantissa floors the value**: a value between `m · 2 ^ e` and the next multiple
of `2 ^ e` lies between `⌊m / 2 ^ s⌋` units of `2 ^ (e + s)` and the next such unit. -/
theorem floor_sandwich (m s : Nat) (e : Int) {q : ℚ}
    (hq : m * (2 : ℚ) ^ e ≤ q ∧ q < (m + 1) * (2 : ℚ) ^ e) :
    ((m / 2 ^ s : Nat) : ℚ) * 2 ^ (e + s) ≤ q ∧ q < ((m / 2 ^ s : Nat) + 1 : ℚ) * 2 ^ (e + s) := by
  have hlo : m / 2 ^ s * 2 ^ s ≤ m := Nat.div_mul_le_self m (2 ^ s)
  have hhi : m + 1 ≤ (m / 2 ^ s + 1) * 2 ^ s := by
    have := Nat.lt_mul_div_succ m (Nat.two_pow_pos s)
    rw [Nat.mul_comm] at this
    omega
  have hlo' : ((m / 2 ^ s : Nat) : ℚ) * 2 ^ s ≤ m := by exact_mod_cast hlo
  have hhi' : (m + 1 : ℚ) ≤ ((m / 2 ^ s : Nat) + 1 : ℚ) * 2 ^ s := by exact_mod_cast hhi
  have he : (0 : ℚ) < 2 ^ e := zpow_pos (by norm_num) e
  rw [zpow_add₀ (by norm_num), zpow_natCast, mul_comm ((2 : ℚ) ^ e), ← mul_assoc, ← mul_assoc]
  constructor
  · calc ((m / 2 ^ s : Nat) : ℚ) * 2 ^ s * 2 ^ e ≤ m * 2 ^ e := by gcongr
      _ ≤ q := hq.1
  · calc q < (m + 1) * 2 ^ e := hq.2
      _ ≤ ((m / 2 ^ s : Nat) + 1 : ℚ) * 2 ^ s * 2 ^ e := by gcongr

/-! ### The second cut -/

/-- A rounded mantissa below `2 ^ 53` is left where it is by the second cut. -/
theorem shiftToTargetExponent_small {r : Nat} {E : Int} (hr : r < 2 ^ 53) (hE : -1074 ≤ E) :
    (shiftToTargetExponent Format.binary64 r E .exact).1.mantissa = r ∧
      (shiftToTargetExponent Format.binary64 r E .exact).2 = E := by
  have hlog : r.log2 ≤ 52 := by
    rcases Nat.eq_zero_or_pos r with rfl | hpos
    · simp
    · exact Nat.lt_succ_iff.1 ((Nat.log2_lt (Nat.pos_iff_ne_zero.1 hpos)).2 hr)
  have hs : (Format.binary64.targetExponent (totalExponent r E) - E).toNat = 0 := by
    rw [targetExponent_eq]
    omega
  rw [shiftToTargetExponent_mantissa, shiftToTargetExponent_exponent, hs]
  simp

/-- The carry `2 ^ 53` of a rounding is moved one exponent up, as `2 ^ 52`. -/
theorem shiftToTargetExponent_carry {E : Int} (hE : -1074 ≤ E) :
    (shiftToTargetExponent Format.binary64 (2 ^ 53) E .exact).1.mantissa = 2 ^ 52 ∧
      (shiftToTargetExponent Format.binary64 (2 ^ 53) E .exact).2 = E + 1 := by
  have hs : (Format.binary64.targetExponent (totalExponent (2 ^ 53) E) - E).toNat = 1 := by
    rw [targetExponent_eq, Nat.log2_two_pow]
    omega
  rw [shiftToTargetExponent_mantissa, shiftToTargetExponent_exponent, hs]
  exact ⟨rfl, by push_cast; rfl⟩

/-! ### Packing -/

/-- The bits of a positive double from its exponent and fraction fields. -/
theorem packComponents_positive_toNat (ex : BitVec 11) (mt : BitVec 52) :
    (packComponents Format.binary64 .positive ex mt).toNat = ex.toNat * 2 ^ 52 + mt.toNat := by
  unfold packComponents
  rw [BitVec.toNat_append, BitVec.toNat_append, ← Nat.shiftLeft_add_eq_or_of_lt mt.isLt,
    ← Nat.shiftLeft_add_eq_or_of_lt ex.isLt, Nat.shiftLeft_eq, Nat.shiftLeft_eq]
  simp [Sign.toBitVec]

/-- The bits a positive normalised magnitude packs to: the biased exponent above the fraction
for a normal number, the mantissa itself for a subnormal one. -/
theorem pack_finite_toNat {m : Nat} {e : Int} (h : 0 < m) (hm : m < 2 ^ 53)
    (he : -1074 ≤ e) (hmax : e ≤ 971) :
    (UnpackedFloat.pack Format.binary64 (.finite .positive m e h)).toNat =
      if 2 ^ 52 ≤ m then (e + 1075).toNat * 2 ^ 52 + m % 2 ^ 52 else m := by
  have hbias : (Format.binary64.exponentBias : Int) = 1023 := rfl
  unfold UnpackedFloat.pack
  dsimp only
  rw [hbias, if_neg (by omega)]
  by_cases hn : 2 ^ 52 ≤ m
  · have hlog : m.log2 + 1 = Format.binary64.mantissaBits := by
      rw [(Nat.log2_eq_iff (by omega)).2 ⟨hn, hm⟩]; rfl
    rw [if_pos hlog, if_pos hn, packComponents_positive_toNat, BitVec.toNat_ofNat,
      BitVec.toNat_ofNat]
    omega
  · have hlog : m.log2 + 1 ≠ Format.binary64.mantissaBits := by
      have := (Nat.log2_lt (by omega)).2 (show m < 2 ^ 52 by omega)
      show m.log2 + 1 ≠ 53
      omega
    rw [if_neg hlog, if_neg hn, packComponents_positive_toNat, BitVec.toNat_ofNat]
    simp
    omega

/-- **A normalised magnitude packs to itself**: a positive mantissa of at most 53 bits, at least
53 unless at the least exponent, at an exponent that fits, is read back by `classify` as it is. -/
theorem classify_pack_finite {m : Nat} {e : Int} (h : 0 < m) (hm : m < 2 ^ 53)
    (hc : 2 ^ 52 ≤ m ∨ e = -1074) (he : -1074 ≤ e) (hmax : e ≤ 971) :
    ∃ b : Binary, classify (Float.ofModel (Float.Model.pack (.finite .positive m e h))) =
      .finite false b ∧ b.mantissa = m ∧ b.exponent = e := by
  show ∃ b, classifyBits (UInt64.ofBitVec (UnpackedFloat.pack Format.binary64 _)) = _ ∧ _
  rw [classifyBits_eq_fields, UInt64.toNat_ofBitVec, pack_finite_toNat h hm he hmax]
  unfold classifyFields
  by_cases hn : 2 ^ 52 ≤ m
  · -- a normal number: the biased exponent and the fraction below the leading bit
    rw [if_pos hn]
    have h1 : ((e + 1075).toNat * 2 ^ 52 + m % 2 ^ 52) / 2 ^ 63 = 0 := by omega
    have h2 : ((e + 1075).toNat * 2 ^ 52 + m % 2 ^ 52) / 2 ^ 52 % 2048 = (e + 1075).toNat := by
      omega
    have h3 : ((e + 1075).toNat * 2 ^ 52 + m % 2 ^ 52) % 2 ^ 52 = m % 2 ^ 52 := by omega
    rw [h1, h2, h3, if_neg (by simp; omega), if_neg (by simp; omega)]
    exact ⟨_, rfl, by dsimp only; rw [Nat.pow_eq]; omega, by dsimp only; omega⟩
  · -- a subnormal number: exponent field zero, the mantissa as the fraction
    obtain rfl : e = -1074 := hc.resolve_left hn
    rw [if_neg hn]
    have h1 : m / 2 ^ 63 = 0 := by omega
    have h2 : m / 2 ^ 52 % 2048 = 0 := by omega
    have h3 : m % 2 ^ 52 = m := by omega
    rw [h1, h2, h3, if_neg (by decide), if_pos (by decide)]
    exact ⟨_, rfl, rfl, rfl⟩

/-- The positive zero packs to the positive zero. -/
theorem classify_pack_zero :
    classify (Float.ofModel (Float.Model.pack (.zero .positive))) =
      .finite false ⟨0, -1074, false⟩ := by
  decide

/-- A zero or a normalised positive magnitude, as the rounding leaves it, packs to a double of
that value. -/
theorem classify_pack_rounded {r : Nat} {E : Int} (hr : r < 2 ^ 53) (hc : 2 ^ 52 ≤ r ∨ E = -1074)
    (hE : -1074 ≤ E) (hmax : E ≤ 971) :
    ∃ b : Binary, classify (Float.ofModel (Float.Model.pack
        (if h : r = 0 then .zero .positive else .finite .positive r E (Nat.pos_of_ne_zero h)))) =
      .finite false b ∧ b.toRat = r * 2 ^ E := by
  by_cases h : r = 0
  · rw [dif_pos h, classify_pack_zero]
    exact ⟨_, rfl, by simp [Binary.toRat, h]⟩
  · rw [dif_neg h]
    obtain ⟨b, hb, hm, he⟩ := classify_pack_finite (Nat.pos_of_ne_zero h) hr hc hE hmax
    exact ⟨b, hb, by rw [Binary.toRat, hm, he]⟩

/-! ### Rounding -/

/-- The rounding of the float model: the first cut, the rounded mantissa, the second cut, and a
zero for a zero mantissa. -/
theorem roundWithAccuracy_eq (s : Sign) (m : Nat) (e : Int) (acc : Accuracy) :
    roundWithAccuracy Format.binary64 s m e acc =
      let first := shiftToTargetExponent Format.binary64 m e acc
      let last := shiftToTargetExponent Format.binary64 first.1.roundedMantissa first.2 .exact
      if h : last.1.mantissa = 0 then .zero s
      else .finite s last.1.mantissa last.2 (Nat.pos_of_ne_zero h) := rfl

/-- **A double below a value is below its floor**: if a value lies below the next multiple of
the unit `2 ^ E` above `M · 2 ^ E`, with `M` of at least 53 bits unless `E` is the least exponent,
every normalised magnitude at most that value is at most `M · 2 ^ E`. With an exponent of at
least `E` it is a whole number of units, so at most `M` of them; with a smaller one it is below
`2 ^ 52 · 2 ^ E`. -/
theorem Binary.toRat_le_floor {w : Binary} (hw : w.Normal) {M : Nat} {E : Int} {q : ℚ}
    (hcan : 2 ^ 52 ≤ M ∨ E = -1074) (hq : q < (M + 1) * 2 ^ E) (hwq : w.toRat ≤ q) :
    w.toRat ≤ M * 2 ^ E := by
  obtain ⟨hw53, -, hwmin⟩ := hw
  by_cases hle : E ≤ w.exponent
  · -- a whole number `K` of units `2 ^ E`
    set K := w.mantissa * 2 ^ (w.exponent - E).toNat
    have hK : w.toRat = K * 2 ^ E := by
      rw [Binary.toRat, Nat.cast_mul, Nat.cast_pow, Nat.cast_ofNat, mul_assoc, ← zpow_natCast,
        ← zpow_add₀ (by norm_num)]
      congr 2
      omega
    have hKM : (K : ℚ) < M + 1 := by
      have := lt_of_le_of_lt (hK ▸ hwq) hq
      exact lt_of_mul_lt_mul_right this (zpow_nonneg (by norm_num) E)
    have hKM' : K ≤ M := by exact_mod_cast Nat.lt_succ_iff.1 (by exact_mod_cast hKM)
    rw [hK]
    exact mul_le_mul_of_nonneg_right (by exact_mod_cast hKM') (zpow_nonneg (by norm_num) E)
  · -- a smaller exponent: below `2 ^ 53 · 2 ^ (E - 1)`, and `M` has 53 bits
    have hM : (2 : ℚ) ^ 52 ≤ M := by
      rcases hcan with h | h
      · exact_mod_cast h
      · omega
    calc w.toRat = w.mantissa * 2 ^ w.exponent := rfl
      _ ≤ 2 ^ 53 * 2 ^ (E - 1) :=
          mul_le_mul (by exact_mod_cast hw53.le) (zpow_le_zpow_right₀ (by norm_num) (by omega))
            (zpow_nonneg (by norm_num) _) (by norm_num)
      _ = 2 ^ 52 * 2 ^ E := by
          rw [zpow_sub₀ (by norm_num), zpow_one]; ring
      _ ≤ M * 2 ^ E := mul_le_mul_of_nonneg_right hM (zpow_nonneg (by norm_num) E)

/-- **The second cut keeps the value**: a rounded mantissa of at most `2 ^ 53` ends normalised,
at most one exponent up, with the value it had. -/
theorem shiftToTargetExponent_rounded {r : Nat} {E : Int} (hr : r ≤ 2 ^ 53) (hE : -1074 ≤ E)
    (hc : 2 ^ 52 ≤ r ∨ E = -1074) :
    (shiftToTargetExponent Format.binary64 r E .exact).1.mantissa < 2 ^ 53 ∧
      (2 ^ 52 ≤ (shiftToTargetExponent Format.binary64 r E .exact).1.mantissa ∨
        (shiftToTargetExponent Format.binary64 r E .exact).2 = -1074) ∧
      -1074 ≤ (shiftToTargetExponent Format.binary64 r E .exact).2 ∧
      (shiftToTargetExponent Format.binary64 r E .exact).2 ≤ E + 1 ∧
      ((shiftToTargetExponent Format.binary64 r E .exact).1.mantissa : ℚ) *
          2 ^ (shiftToTargetExponent Format.binary64 r E .exact).2 = r * 2 ^ E := by
  rcases Nat.lt_or_ge r (2 ^ 53) with hlt | hge
  · obtain ⟨hm, he⟩ := shiftToTargetExponent_small hlt hE
    rw [hm, he]
    exact ⟨hlt, hc, hE, by omega, rfl⟩
  · -- the carry: `2 ^ 52` one exponent up is `2 ^ 53` at `E`
    obtain rfl : r = 2 ^ 53 := by omega
    obtain ⟨hm, he⟩ := shiftToTargetExponent_carry hE
    rw [hm, he, zpow_add₀ (by norm_num), zpow_one]
    exact ⟨by decide, .inl le_rfl, by omega, le_rfl, by push_cast; ring⟩

/-- **Rounding in the float model.** Let a positive value `q` lie between `m · 2 ^ e` and the
next multiple of `2 ^ e`, with `m` of at least 53 bits unless `e` is at the least exponent, and
be at most `2 ^ N`. Rounded from `m` and `e` with any accuracy, the result is a finite
non-negative double; no double at most `q` is above it, and it is within one unit
`2 ^ (N - 52)` of `q`. -/
theorem classify_roundWithAccuracy {m : Nat} {e : Int} (acc : Accuracy) {q : ℚ} {N : Int}
    (hc : 52 ≤ m.log2 ∨ e ≤ -1074) (hq : m * (2 : ℚ) ^ e ≤ q ∧ q < (m + 1) * (2 : ℚ) ^ e)
    (hN : -1022 ≤ N) (hN' : N ≤ 1022) (hqN : q ≤ 2 ^ N) :
    ∃ b : Binary, classify (Float.ofModel (Float.Model.pack
        (roundWithAccuracy Format.binary64 .positive m e acc))) = .finite false b ∧
      (∀ w : Binary, w.Normal → w.toRat ≤ q → w.toRat ≤ b.toRat) ∧
      q - 2 ^ (N - 52) ≤ b.toRat ∧ b.toRat ≤ q + 2 ^ (N - 52) := by
  -- the first cut floors the value at its unit, which is at most `2 ^ (N - 52)`
  have hsand := floor_sandwich m (Format.binary64.targetExponent (totalExponent m e) - e).toNat e hq
  rw [← shiftToTargetExponent_mantissa m e acc, ← shiftToTargetExponent_exponent m e acc] at hsand
  obtain ⟨hM53, hEmin⟩ := shiftToTargetExponent_bounds m e acc
  have hcan := shiftToTargetExponent_canonical m e acc hc
  have hEN := shiftToTargetExponent_exponent_le m e acc hc hq.1 hN hqN
  rw [roundWithAccuracy_eq]
  dsimp only
  generalize shiftToTargetExponent Format.binary64 m e acc = first at *
  -- rounding adds at most one unit, and the second cut keeps the value
  obtain ⟨hRlo, hRhi⟩ := roundedMantissa_bounds first.1
  obtain ⟨h53, hcan', hmin', hmax', hval⟩ :=
    shiftToTargetExponent_rounded (r := first.1.roundedMantissa) (E := first.2) (by omega) hEmin
      (by omega)
  obtain ⟨b, hb, hbv⟩ := classify_pack_rounded h53 hcan' hmin' (by omega)
  have hunit : (0 : ℚ) ≤ 2 ^ first.2 := zpow_nonneg (by norm_num) _
  have hunitN : (2 : ℚ) ^ first.2 ≤ 2 ^ (N - 52) := zpow_le_zpow_right₀ (by norm_num) hEN
  have hfloor : (first.1.mantissa : ℚ) * 2 ^ first.2 ≤ first.1.roundedMantissa * 2 ^ first.2 :=
    mul_le_mul_of_nonneg_right (by exact_mod_cast hRlo) hunit
  refine ⟨b, hb, fun w hw hwq => ?_, ?_, ?_⟩
  · rw [hbv, hval]
    exact (Binary.toRat_le_floor hw hcan hsand.2 hwq).trans hfloor
  · -- the floor is less than one unit below the value
    rw [hbv, hval]
    have := hsand.2
    rw [add_mul, one_mul] at this
    linarith
  · rw [hbv, hval]
    calc (first.1.roundedMantissa : ℚ) * 2 ^ first.2
        ≤ (first.1.mantissa + 1 : ℚ) * 2 ^ first.2 :=
          mul_le_mul_of_nonneg_right (by exact_mod_cast hRhi) hunit
      _ = first.1.mantissa * 2 ^ first.2 + 2 ^ first.2 := by ring
      _ ≤ q + 2 ^ (N - 52) := add_le_add hsand.1 hunitN

end RoutePlanner.Number
