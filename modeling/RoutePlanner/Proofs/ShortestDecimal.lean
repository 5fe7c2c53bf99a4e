import Mathlib.Tactic.Positivity
import RoutePlanner.Proofs.DoubleValue
import RoutePlanner.Number.Shortest

/-!
# The shortest decimal reads back

`Binary.shortest` looks for a short decimal among the reals that round to a magnitude: inside
its rounding interval, or on an end of it when the mantissa is even (`Binary.Admits`, the exact
reading of `Binary.readsBack`, `readsBack_iff`). The search tries grids of one, two, … up to
seventeen significant digits and falls back to an unchecked point after that. This module shows
that the fallback is never reached for a magnitude that a double has (`Binary.InRange`): the
estimate of the decimal scale is never too high (`scale_le`), so the grid of seventeen digits is
finer than the rounding interval, and one of the two grid points next to the value lies inside
it (`admits_of_spacing`). Hence `admits_shortest`: the shortest decimal of every finite nonzero
double is admitted by it.

The intervals of distinct magnitudes overlap at most in an end, which only one of the two
admits, since neighbouring mantissas have different parities (`Binary.eq_of_admits`). So a
decimal is admitted by one magnitude at most: the shortest decimal determines the double.
-/

namespace RoutePlanner.Number

/-! ### Exact comparisons -/

/-- The exact value of a decimal, `digits * 10 ^ exponent`. -/
def Decimal.toRat (d : Decimal) : ℚ := d.digits * 10 ^ d.exponent

/-- A power with an integer exponent, times the power of its negative part, is the power of its
positive part. -/
theorem zpow_mul_pow_toNat_neg {q : ℚ} (hq : q ≠ 0) (i : Int) :
    q ^ i * q ^ (-i).toNat = q ^ i.toNat := by
  rw [← zpow_natCast, ← zpow_natCast, ← zpow_add₀ hq]
  congr 1
  omega

/-- The two sides `cmpScaled` compares are those of `a * 10 ^ i` and `n * 2 ^ j`, each scaled by
the same positive factor. -/
theorem cmpScaled_sides (a : Nat) (i : Int) (n : Nat) (j : Int) :
    ((a * Nat.pow 10 i.toNat * Nat.pow 2 (-j).toNat : Nat) : ℚ) =
        a * 10 ^ i * (10 ^ (-i).toNat * 2 ^ (-j).toNat) ∧
      ((n * Nat.pow 2 j.toNat * Nat.pow 10 (-i).toNat : Nat) : ℚ) =
        n * 2 ^ j * (10 ^ (-i).toNat * 2 ^ (-j).toNat) := by
  have h10 := zpow_mul_pow_toNat_neg (show (10 : ℚ) ≠ 0 by norm_num) i
  have h2 := zpow_mul_pow_toNat_neg (show (2 : ℚ) ≠ 0 by norm_num) j
  constructor
  · push_cast [Nat.pow_eq]
    rw [← h10]
    ring
  · push_cast [Nat.pow_eq]
    rw [← h2]
    ring

theorem cmpScaled_factor_pos (i j : Int) : (0 : ℚ) < 10 ^ (-i).toNat * 2 ^ (-j).toNat := by
  positivity

theorem cmpScaled_eq_lt_iff (a : Nat) (i : Int) (n : Nat) (j : Int) :
    cmpScaled a i n j = .lt ↔ (a : ℚ) * 10 ^ i < n * 2 ^ j := by
  obtain ⟨hl, hr⟩ := cmpScaled_sides a i n j
  rw [cmpScaled, Nat.compare_eq_lt, ← @Nat.cast_lt ℚ, hl, hr]
  exact mul_lt_mul_iff_of_pos_right (cmpScaled_factor_pos i j)

theorem cmpScaled_eq_gt_iff (a : Nat) (i : Int) (n : Nat) (j : Int) :
    cmpScaled a i n j = .gt ↔ (n : ℚ) * 2 ^ j < a * 10 ^ i := by
  obtain ⟨hl, hr⟩ := cmpScaled_sides a i n j
  rw [cmpScaled, Nat.compare_eq_gt, ← @Nat.cast_lt ℚ, hl, hr]
  exact mul_lt_mul_iff_of_pos_right (cmpScaled_factor_pos i j)

theorem cmpScaled_eq_eq_iff (a : Nat) (i : Int) (n : Nat) (j : Int) :
    cmpScaled a i n j = .eq ↔ (a : ℚ) * 10 ^ i = n * 2 ^ j := by
  obtain ⟨hl, hr⟩ := cmpScaled_sides a i n j
  rw [cmpScaled, Nat.compare_eq_eq, ← @Nat.cast_inj ℚ, hl, hr]
  exact mul_left_inj' (cmpScaled_factor_pos i j).ne'

/-! ### The rounding interval -/

/-- The lower end of the rounding interval: halfway to the magnitude below, a quarter of a unit
below when that one is nearer. -/
def Binary.lower (b : Binary) : ℚ :=
  ((if b.narrowBelow then 4 * b.mantissa - 1 else 4 * b.mantissa - 2 : Nat) : ℚ) *
    2 ^ (b.exponent - 2)

/-- The upper end of the rounding interval: halfway to the magnitude above. -/
def Binary.upper (b : Binary) : ℚ := ((4 * b.mantissa + 2 : Nat) : ℚ) * 2 ^ (b.exponent - 2)

/-- **The reals that round to `b`** (to nearest, ties to even): those strictly inside its
rounding interval, and its ends when the mantissa is even. -/
def Binary.Admits (b : Binary) (q : ℚ) : Prop :=
  (b.lower < q ∨ b.mantissa % 2 = 0 ∧ q = b.lower) ∧
    (q < b.upper ∨ b.mantissa % 2 = 0 ∧ q = b.upper)

/-- **`readsBack` is the rounding interval**, compared exactly. -/
theorem readsBack_iff (b : Binary) (d : Decimal) : b.readsBack d = true ↔ b.Admits d.toRat := by
  simp only [Binary.readsBack, Bool.and_eq_true, Bool.or_eq_true, beq_iff_eq,
    cmpScaled_eq_gt_iff, cmpScaled_eq_eq_iff, cmpScaled_eq_lt_iff, Binary.Admits, Binary.lower,
    Binary.upper, Decimal.toRat]

/-- **A magnitude that a double has**: normalised, with an exponent of at most `971`, and a
nearer neighbour below exactly at the powers of two above the subnormals. -/
structure Binary.InRange (b : Binary) : Prop where
  normal : b.Normal
  exponent_le : b.exponent ≤ 971
  narrowBelow_iff : b.narrowBelow = true ↔ b.mantissa = 2 ^ 52 ∧ -1074 < b.exponent

section Interval

variable {b : Binary}

theorem Binary.toRat_eq (b : Binary) :
    b.toRat = ((4 * b.mantissa : Nat) : ℚ) * 2 ^ (b.exponent - 2) := by
  rw [Binary.toRat, zpow_sub₀ two_ne_zero]
  push_cast
  ring

theorem Binary.lower_lt_toRat (hm : 0 < b.mantissa) : b.lower < b.toRat := by
  rw [Binary.toRat_eq, Binary.lower]
  refine mul_lt_mul_of_pos_right ?_ (zpow_pos two_pos _)
  exact_mod_cast (show (if b.narrowBelow then 4 * b.mantissa - 1 else 4 * b.mantissa - 2) <
    4 * b.mantissa by split <;> omega)

theorem Binary.toRat_lt_upper : b.toRat < b.upper := by
  rw [Binary.toRat_eq, Binary.upper]
  exact mul_lt_mul_of_pos_right (by exact_mod_cast (show 4 * b.mantissa < 4 * b.mantissa + 2 by
    omega)) (zpow_pos two_pos _)

/-- An admitted real is positive when the mantissa is. -/
theorem Binary.Admits.pos {q : ℚ} (hm : 0 < b.mantissa) (h : b.Admits q) : 0 < q := by
  have hlo : 0 < b.lower := by
    unfold Binary.lower
    have : 0 < (if b.narrowBelow then 4 * b.mantissa - 1 else 4 * b.mantissa - 2) := by
      split <;> omega
    exact mul_pos (by exact_mod_cast this) (zpow_pos two_pos _)
  rcases h.1 with h | ⟨-, rfl⟩
  · exact lt_trans hlo h
  · exact hlo

end Interval

/-! ### Intervals of distinct magnitudes -/

/-- Reals scaled by one positive unit compare as their natural coefficients. -/
theorem coef_lt_coef_iff {A B : Nat} {u : ℚ} (hu : 0 < u) :
    (A : ℚ) * u < B * u ↔ A < B := by
  rw [mul_lt_mul_iff_of_pos_right hu, Nat.cast_lt]

/-- **The interval of a smaller magnitude ends where the next one's begins, or below.** The two
ends meet only between neighbours, whose mantissas have different parities. -/
theorem Binary.upper_le_lower {c₁ c₂ : Binary} (h₁ : c₁.InRange) (h₂ : c₂.InRange)
    (hlt : c₁.exponent < c₂.exponent ∨ c₁.exponent = c₂.exponent ∧ c₁.mantissa < c₂.mantissa) :
    c₁.upper < c₂.lower ∨ c₁.upper = c₂.lower ∧ (c₁.mantissa % 2 = 1 ∨ c₂.mantissa % 2 = 1) := by
  have hu := zpow_pos (two_pos : (0 : ℚ) < 2) (c₁.exponent - 2)
  rcases hlt with he | ⟨he, hm⟩
  · -- a higher exponent: `c₂` is normal, and its interval begins at the top of `c₁`'s binade
    have he₁ : -1074 ≤ c₁.exponent := h₁.normal.2.2
    have hm₂ : 2 ^ 52 ≤ c₂.mantissa := h₂.normal.2.1.resolve_right (by omega)
    have hm₁ : c₁.mantissa < 2 ^ 53 := h₁.normal.1
    have hB : 2 ^ 54 - 1 ≤
        (if c₂.narrowBelow then 4 * c₂.mantissa - 1 else 4 * c₂.mantissa - 2) := by
      by_cases hn : c₂.narrowBelow = true
      · rw [if_pos hn]
        omega
      · rw [if_neg hn]
        have : c₂.mantissa ≠ 2 ^ 52 := fun h => hn (h₂.narrowBelow_iff.2 ⟨h, by omega⟩)
        omega
    have hu₂ : 2 * (2 : ℚ) ^ (c₁.exponent - 2) ≤ 2 ^ (c₂.exponent - 2) := by
      calc 2 * (2 : ℚ) ^ (c₁.exponent - 2) = 2 ^ (c₁.exponent - 2 + 1) := by
            rw [zpow_add_one₀ two_ne_zero]
            ring
        _ ≤ 2 ^ (c₂.exponent - 2) := zpow_le_zpow_right₀ one_le_two (by omega)
    have htop : c₁.upper ≤ ((2 ^ 55 - 2 : Nat) : ℚ) * 2 ^ (c₁.exponent - 2) :=
      mul_le_mul_of_nonneg_right (by exact_mod_cast (show 4 * c₁.mantissa + 2 ≤ 2 ^ 55 - 2 by
        omega)) hu.le
    have hbot : ((2 ^ 55 - 2 : Nat) : ℚ) * 2 ^ (c₁.exponent - 2) ≤ c₂.lower :=
      calc ((2 ^ 55 - 2 : Nat) : ℚ) * 2 ^ (c₁.exponent - 2)
          = ((2 ^ 54 - 1 : Nat) : ℚ) * (2 * 2 ^ (c₁.exponent - 2)) := by
            norm_num
            ring
        _ ≤ c₂.lower := mul_le_mul (by exact_mod_cast hB) hu₂ (by positivity) (Nat.cast_nonneg _)
    rcases (htop.trans hbot).lt_or_eq with hlt | heq
    · exact .inl hlt
    · -- meeting ends need the last mantissa of `c₁`'s binade, which is odd
      refine .inr ⟨heq, .inl ?_⟩
      by_contra hodd
      have hless : c₁.upper < ((2 ^ 55 - 2 : Nat) : ℚ) * 2 ^ (c₁.exponent - 2) :=
        (coef_lt_coef_iff hu).2 (by omega)
      exact absurd heq (ne_of_lt (hless.trans_le hbot))
  · -- one exponent: both ends are multiples of one unit
    have hlower : c₂.lower =
        ((if c₂.narrowBelow then 4 * c₂.mantissa - 1 else 4 * c₂.mantissa - 2 : Nat) : ℚ) *
          2 ^ (c₁.exponent - 2) := by
      rw [Binary.lower, he]
    rw [hlower, Binary.upper]
    by_cases hn : c₂.narrowBelow = true
    · rw [if_pos hn]
      exact .inl ((coef_lt_coef_iff hu).2 (by omega))
    · rw [if_neg hn]
      rcases Nat.lt_or_ge (c₁.mantissa + 1) c₂.mantissa with hfar | hnext
      · exact .inl ((coef_lt_coef_iff hu).2 (by omega))
      · exact .inr ⟨by rw [show 4 * c₂.mantissa - 2 = 4 * c₁.mantissa + 2 by omega], by omega⟩

/-- **A real is admitted by one magnitude at most.** -/
theorem Binary.eq_of_admits {b₁ b₂ : Binary} (h₁ : b₁.InRange) (h₂ : b₂.InRange) {q : ℚ}
    (a₁ : b₁.Admits q) (a₂ : b₂.Admits q) : b₁ = b₂ := by
  -- of two magnitudes in lexicographic order, no real is admitted by both
  have key : ∀ {c₁ c₂ : Binary}, c₁.InRange → c₂.InRange →
      (c₁.exponent < c₂.exponent ∨ c₁.exponent = c₂.exponent ∧ c₁.mantissa < c₂.mantissa) →
      c₁.Admits q → c₂.Admits q → False := by
    intro c₁ c₂ h₁ h₂ hlt a₁ a₂
    rcases Binary.upper_le_lower h₁ h₂ hlt with hsep | ⟨hmeet, hodd⟩
    · have hq₁ : q ≤ c₁.upper := a₁.2.elim le_of_lt fun h => h.2.le
      have hq₂ : c₂.lower ≤ q := a₂.1.elim le_of_lt fun h => h.2.ge
      linarith
    · rcases a₁.2 with hq₁ | ⟨hev₁, hq₁⟩ <;> rcases a₂.1 with hq₂ | ⟨hev₂, hq₂⟩
      · linarith
      · linarith
      · linarith
      · omega
  rcases lt_trichotomy b₁.exponent b₂.exponent with he | he | he
  · exact (key h₁ h₂ (.inl he) a₁ a₂).elim
  · rcases lt_trichotomy b₁.mantissa b₂.mantissa with hm | hm | hm
    · exact (key h₁ h₂ (.inr ⟨he, hm⟩) a₁ a₂).elim
    · have hn : b₁.narrowBelow = b₂.narrowBelow := by
        rw [Bool.eq_iff_iff, h₁.narrowBelow_iff, h₂.narrowBelow_iff, hm, he]
      cases b₁
      cases b₂
      simp_all
    · exact (key h₂ h₁ (.inr ⟨he.symm, hm⟩) a₂ a₁).elim
  · exact (key h₂ h₁ (.inl he) a₂ a₁).elim

/-! ### The grid points next to the value -/

/-- `floorOnGrid` is the grid point at or below the value, so the next one is above it. -/
theorem Binary.floorOnGrid_spec (b : Binary) (g : Int) :
    (b.floorOnGrid g : ℚ) * 10 ^ g ≤ b.toRat ∧ b.toRat < ((b.floorOnGrid g : ℚ) + 1) * 10 ^ g := by
  unfold Binary.floorOnGrid
  generalize hN : b.mantissa * Nat.pow 2 b.exponent.toNat * Nat.pow 10 (-g).toNat = N
  generalize hD : Nat.pow 2 (-b.exponent).toNat * Nat.pow 10 g.toNat = D
  have hDpos : (0 : ℚ) < D := by
    rw [← hD]
    push_cast [Nat.pow_eq]
    positivity
  have hg : (0 : ℚ) < 10 ^ g := zpow_pos (by norm_num) g
  -- `N / D` is the value on the grid `10 ^ g`
  have hND : (N : ℚ) = b.toRat / 10 ^ g * D := by
    have h2 := zpow_mul_pow_toNat_neg (show (2 : ℚ) ≠ 0 by norm_num) b.exponent
    have h10 := zpow_mul_pow_toNat_neg (show (10 : ℚ) ≠ 0 by norm_num) (-g)
    rw [neg_neg, zpow_neg] at h10
    rw [← hN, ← hD, Binary.toRat]
    push_cast [Nat.pow_eq]
    rw [← h2, ← h10]
    ring
  have hq : ((N / D : Nat) : ℚ) * D ≤ N := by exact_mod_cast Nat.div_mul_le_self N D
  have hq' : (N : ℚ) < ((N / D : Nat) + 1) * D := by
    have h := Nat.div_add_mod N D
    have hr := Nat.mod_lt N (by exact_mod_cast hDpos)
    have : N < (N / D + 1) * D := by nlinarith
    exact_mod_cast this
  rw [hND] at hq hq'
  constructor
  · have := le_of_mul_le_mul_right hq hDpos
    rwa [le_div_iff₀ hg] at this
  · have := lt_of_mul_lt_mul_right hq' hDpos.le
    rwa [div_lt_iff₀ hg] at this

/-- **On a grid finer than the rounding interval**, one of the two grid points next to the
value lies strictly inside the interval. -/
theorem Binary.admits_grid (b : Binary) (hm : 0 < b.mantissa) (g : Int)
    (hs : (10 : ℚ) ^ g < b.upper - b.lower) :
    b.Admits (Decimal.toRat ⟨b.floorOnGrid g, g⟩) ∨
      b.Admits (Decimal.toRat ⟨b.floorOnGrid g + 1, g⟩) := by
  obtain ⟨hbelow, habove⟩ := b.floorOnGrid_spec g
  simp only [Decimal.toRat]
  by_cases hin : b.lower < (b.floorOnGrid g : ℚ) * 10 ^ g
  · exact .inl ⟨.inl hin, .inl (lt_of_le_of_lt hbelow Binary.toRat_lt_upper)⟩
  · push_cast
    refine .inr ⟨.inl (lt_trans (Binary.lower_lt_toRat hm) habove), .inl ?_⟩
    linarith

/-! ### The decimal scale -/

/-- `firstFrom` stops at its start, or just after a point that fails the test. -/
theorem firstFrom_cases (p : Int → Bool) (start : Int) (fuel : Nat) :
    firstFrom p start fuel = start ∨
      start < firstFrom p start fuel ∧ p (firstFrom p start fuel - 1) = false := by
  induction fuel generalizing start with
  | zero => exact .inl rfl
  | succ fuel ih =>
    by_cases hp : p start = true
    · exact .inl (by simp [firstFrom, hp])
    · rw [firstFrom, if_neg hp]
      rcases ih (start + 1) with h | ⟨hlt, hfail⟩
      · refine .inr ⟨by omega, ?_⟩
        rw [h, add_sub_cancel_right]
        simpa using hp
      · exact .inr ⟨by omega, hfail⟩

/-- The estimate `⌊e · 0.30103⌋` of `e · log₁₀ 2`, less three, is never above it on the
exponents of doubles: `10 ^ 3 ≤ 2 ^ 10` bounds it for positive exponents, `2 ^ 93 ≤ 10 ^ 28`
for negative ones. -/
theorem ten_zpow_estimate_le {e : Int} (h₀ : -1100 ≤ e) (h₁ : e ≤ 1100) :
    (10 : ℚ) ^ (e * 30103 / 100000 - 3) ≤ 2 ^ e := by
  rcases le_or_gt 0 e with hpos | hneg
  · obtain ⟨n, rfl⟩ := Int.eq_ofNat_of_zero_le hpos
    rcases lt_or_ge ((n : Int) * 30103 / 100000 - 3) 0 with hlow | hhigh
    · calc (10 : ℚ) ^ ((n : Int) * 30103 / 100000 - 3) ≤ 1 :=
            zpow_le_one_of_nonpos₀ (by norm_num) hlow.le
        _ ≤ 2 ^ (n : Int) := one_le_zpow₀ one_le_two (by omega)
    · obtain ⟨a, ha⟩ := Int.eq_ofNat_of_zero_le hhigh
      have h10 : 10 * a ≤ 3 * n := by omega
      have hnat : 10 ^ a ≤ 2 ^ n := by
        rw [← Nat.pow_le_pow_iff_left (show 10 ≠ 0 by norm_num)]
        calc (10 ^ a) ^ 10 = 10 ^ (10 * a) := by ring
          _ ≤ 10 ^ (3 * n) := Nat.pow_le_pow_right (by norm_num) h10
          _ = 1000 ^ n := by rw [pow_mul]; norm_num
          _ ≤ 1024 ^ n := Nat.pow_le_pow_left (by norm_num) n
          _ = (2 ^ n) ^ 10 := by rw [← pow_mul, mul_comm, pow_mul]; norm_num
      rw [ha, zpow_natCast, zpow_natCast]
      exact_mod_cast hnat
  · obtain ⟨f, hf⟩ : ∃ f : Nat, e = -(f : Int) := ⟨(-e).toNat, by omega⟩
    obtain ⟨c, hc⟩ : ∃ c : Nat, e * 30103 / 100000 - 3 = -(c : Int) :=
      ⟨(3 - e * 30103 / 100000).toNat, by omega⟩
    have h28 : 28 * f ≤ 93 * c := by omega
    have hnat : 2 ^ f ≤ 10 ^ c := by
      rw [← Nat.pow_le_pow_iff_left (show 93 ≠ 0 by norm_num)]
      calc (2 ^ f) ^ 93 = (2 ^ 93) ^ f := by rw [← pow_mul, mul_comm, pow_mul]
        _ ≤ (10 ^ 28) ^ f := Nat.pow_le_pow_left (by norm_num) f
        _ = 10 ^ (28 * f) := by rw [← pow_mul]
        _ ≤ 10 ^ (93 * c) := Nat.pow_le_pow_right (by norm_num) h28
        _ = (10 ^ c) ^ 93 := by rw [← pow_mul, mul_comm]
    rw [hc, hf, zpow_neg, zpow_neg, zpow_natCast, zpow_natCast]
    exact inv_anti₀ (by positivity) (by exact_mod_cast hnat)

/-- **The scale is never too high**: its power of ten, divided by ten, is at most the value. -/
theorem Binary.scale_le {b : Binary} (h : b.InRange) (hm : 0 < b.mantissa) :
    (10 : ℚ) ^ (b.scale - 1) ≤ b.toRat := by
  have hlog : b.mantissa.log2 < 53 := (Nat.log2_lt hm.ne').2 h.normal.1
  have he₀ := h.normal.2.2
  have he₁ := h.exponent_le
  -- a point that fails the test has its power of ten at most the value
  have hfail : ∀ k, (cmpScaled 1 k b.mantissa b.exponent == .gt) = false →
      (10 : ℚ) ^ k ≤ b.toRat := by
    intro k hk
    have hne : cmpScaled 1 k b.mantissa b.exponent ≠ .gt := by simpa using hk
    rw [Ne, cmpScaled_eq_gt_iff, not_lt, Nat.cast_one, one_mul] at hne
    exact hne
  unfold Binary.scale
  rcases firstFrom_cases _ ((((b.mantissa.log2 : Int) + b.exponent) * 30103 / 100000) - 2) 8
    with hstart | ⟨-, hf⟩
  · -- the start: the estimate itself, against the power of two below the value
    rw [hstart]
    calc (10 : ℚ) ^ ((((b.mantissa.log2 : Int) + b.exponent) * 30103 / 100000) - 2 - 1)
        = 10 ^ ((((b.mantissa.log2 : Int) + b.exponent) * 30103 / 100000) - 3) := by ring_nf
      _ ≤ 2 ^ ((b.mantissa.log2 : Int) + b.exponent) := ten_zpow_estimate_le (by omega) (by omega)
      _ = (2 ^ b.mantissa.log2 : Nat) * 2 ^ b.exponent := by
        rw [zpow_add₀ two_ne_zero, zpow_natCast]
        push_cast
        ring
      _ ≤ b.toRat :=
        mul_le_mul_of_nonneg_right (by exact_mod_cast Nat.log2_self_le hm.ne')
          (zpow_pos two_pos _).le
  · exact hfail _ hf

/-- **Seventeen digits are finer than the rounding interval**, under a scale that is not too
high: the grid is at most a `10 ^ 16`-th of the value, and the interval at least
`2 ^ 54 / 3`-th of it. -/
theorem Binary.spacing_lt_width {b : Binary} (h : b.InRange) (hm : 0 < b.mantissa) {k : Int}
    (hk : (10 : ℚ) ^ (k - 1) ≤ b.toRat) : (10 : ℚ) ^ (k - 17) < b.upper - b.lower := by
  have hu := zpow_pos (two_pos : (0 : ℚ) < 2) (b.exponent - 2)
  have hspace : (10 : ℚ) ^ (k - 17) * 10 ^ 16 = 10 ^ (k - 1) := by
    rw [← zpow_natCast, ← zpow_add₀ (by norm_num)]
    congr 1
    push_cast
    ring
  have hv : (10 : ℚ) ^ (k - 17) * 10 ^ 16 ≤ 4 * b.mantissa * 2 ^ (b.exponent - 2) := by
    rw [hspace]
    calc (10 : ℚ) ^ (k - 1) ≤ b.toRat := hk
      _ = 4 * b.mantissa * 2 ^ (b.exponent - 2) := by rw [Binary.toRat_eq]; push_cast; ring
  have hm₁ : (b.mantissa : ℚ) < 2 ^ 53 := by exact_mod_cast h.normal.1
  unfold Binary.upper Binary.lower
  by_cases hn : b.narrowBelow = true
  · -- a power of two: the interval is three quarters of a unit wide
    obtain ⟨h52, -⟩ := h.narrowBelow_iff.1 hn
    have hm52 : (b.mantissa : ℚ) = 2 ^ 52 := by exact_mod_cast h52
    rw [hm52] at hv
    rw [if_pos hn, h52]
    push_cast
    linarith
  · rw [if_neg hn]
    push_cast [show 2 ≤ 4 * b.mantissa by omega]
    linarith [mul_lt_mul_of_pos_right hm₁ hu]

/-! ### The search -/

theorem Binary.nearer_eq_or (b : Binary) (t : Nat) (g : Int) (tie : Tie) :
    b.nearer t g tie = t ∨ b.nearer t g tie = t + 1 := by
  unfold Binary.nearer
  split
  · exact .inl rfl
  · exact .inr rfl
  · split
    · exact .inr rfl
    · split
      · exact .inl rfl
      · exact .inr rfl

/-- One round of the search: when a grid point next to the value is admitted the search ends
with it; otherwise it goes on with one digit more. -/
theorem Binary.admits_searchFrom_succ (b : Binary) (k : Int) (tie : Tie) (n fuel : Nat)
    (hnext : b.readsBack ⟨b.floorOnGrid (k - n), k - n⟩ = false →
      b.readsBack ⟨b.floorOnGrid (k - n) + 1, k - n⟩ = false →
      b.Admits (b.searchFrom k tie (n + 1) fuel).toRat) :
    b.Admits (b.searchFrom k tie n (fuel + 1)).toRat := by
  rw [Binary.searchFrom]
  cases hlow : b.readsBack ⟨b.floorOnGrid (k - n), k - n⟩ <;>
    cases hhigh : b.readsBack ⟨b.floorOnGrid (k - n) + 1, k - n⟩
  · exact hnext hlow hhigh
  · exact (readsBack_iff _ _).1 hhigh
  · exact (readsBack_iff _ _).1 hlow
  · simp only [Bool.and_self, if_true]
    rcases b.nearer_eq_or (b.floorOnGrid (k - n)) (k - n) tie with h | h <;> rw [h]
    · exact (readsBack_iff _ _).1 hlow
    · exact (readsBack_iff _ _).1 hhigh

/-- **The search ends with an admitted decimal** from any number of digits up to seventeen,
with the fuel that reaches seventeen. -/
theorem Binary.admits_searchFrom {b : Binary} (h : b.InRange) (hm : 0 < b.mantissa) {k : Int}
    (hk : (10 : ℚ) ^ (k - 1) ≤ b.toRat) (tie : Tie) :
    ∀ fuel n, n + fuel = 17 → b.Admits (b.searchFrom k tie n (fuel + 1)).toRat := by
  intro fuel
  -- induction on the digits left; at seventeen digits the grid is fine enough
  induction fuel with
  | zero =>
    intro n hn
    refine b.admits_searchFrom_succ k tie n 0 fun hlow hhigh => ?_
    have hgrid := b.admits_grid hm (k - n)
      (by rw [show k - (n : Int) = k - 17 by omega]; exact Binary.spacing_lt_width h hm hk)
    rw [← readsBack_iff, ← readsBack_iff, hlow, hhigh] at hgrid
    exact absurd hgrid (by decide)
  | succ fuel ih =>
    intro n hn
    exact b.admits_searchFrom_succ k tie n (fuel + 1) fun _ _ => ih (n + 1) (by omega)

theorem Decimal.stripZeros_go_toRat (digits : Nat) (exponent : Int) (fuel : Nat) :
    (Decimal.stripZeros.go digits exponent fuel).toRat = (digits : ℚ) * 10 ^ exponent := by
  induction fuel generalizing digits exponent with
  | zero => rfl
  | succ fuel ih =>
    rw [Decimal.stripZeros.go]
    split
    · rename_i hz
      rw [ih, zpow_add_one₀ (by norm_num)]
      have hd : digits = 10 * (digits / 10) := by omega
      conv_rhs => rw [hd]
      push_cast
      ring
    · rfl

/-- Moving trailing zeros into the exponent keeps the value. -/
theorem Decimal.stripZeros_toRat (d : Decimal) : d.stripZeros.toRat = d.toRat :=
  Decimal.stripZeros_go_toRat d.digits d.exponent d.digits

/-- **The shortest decimal of a nonzero magnitude of a double is admitted by it.** -/
theorem Binary.admits_shortest {b : Binary} (h : b.InRange) (hm : 0 < b.mantissa) (tie : Tie) :
    b.Admits (b.shortest tie).toRat := by
  rw [Binary.shortest, Decimal.stripZeros_toRat]
  exact b.admits_searchFrom h hm (Binary.scale_le h hm) tie 16 1 rfl

end RoutePlanner.Number
