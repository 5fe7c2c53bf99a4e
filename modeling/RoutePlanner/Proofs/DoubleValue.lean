import Mathlib.Algebra.Order.Field.Rat
import Mathlib.Tactic.GCongr
import Mathlib.Tactic.NormNum
import Mathlib.Tactic.Ring
import Mathlib.Tactic.Linarith
import Mathlib.Tactic.FieldSimp
import RoutePlanner.Proofs.DoubleOrder
import RoutePlanner.Number.Binary

/-!
# What a double stands for

`classify` reads a double off its bits as NaN, an infinity, or a finite signed magnitude
`mantissa * 2 ^ exponent`; the float model that `<` on doubles is defined by unpacks the same
bits on its own. Both read the three fields of the pattern, sign, biased exponent and fraction
(`classifyBits_eq_fields`, `unpack_eq_fields`), and they agree field by field
(`Float.unpack_eq_unpacked`).

So a double has an exact value, `doubleValue`, a rational for a finite double, and the
magnitudes `classify` gives are normalised: below `2 ^ 53`, and at least `2 ^ 52` unless the
exponent is that of the subnormals (`classify_normal`). For normalised magnitudes, comparing
exponents and then mantissas is comparing values, which gives the main statement:
`Float.lt_iff_value_lt`, `<` on finite doubles is `<` on their values.
-/

namespace RoutePlanner.Number

open Float.Model

/-! ### The fields of a bit pattern -/

/-- The model's sign for a sign bit. -/
def signOf (negative : Bool) : UnpackedFloat.Sign := if negative then .negative else .positive

/-- `classifyBits` on the three fields: sign bit, biased exponent, fraction. -/
def classifyFields (negative : Bool) (e f : Nat) : FloatClass :=
  if e == 0x7FF then
    if f == 0 then .infinite negative else .nan
  else if e == 0 then .finite negative ⟨f, -1074, false⟩
  else .finite negative ⟨Nat.pow 2 52 + f, (e : Int) - 1075, f == 0 && e > 1⟩

theorem classifyBits_eq_fields (b : UInt64) :
    classifyBits b =
      classifyFields (b.toNat / 2 ^ 63 == 1) (b.toNat / 2 ^ 52 % 2048) (b.toNat % 2 ^ 52) := by
  have hs : ((b >>> 63) == 1) = (b.toNat / 2 ^ 63 == 1) := by
    rw [Bool.eq_iff_iff, beq_iff_eq, beq_iff_eq, ← UInt64.toNat_inj]
    simp [Nat.shiftRight_eq_div_pow]
  have he : ((b >>> 52) &&& 0x7FF).toNat = b.toNat / 2 ^ 52 % 2048 := by
    simp only [UInt64.toNat_and, UInt64.toNat_shiftRight]
    rw [Nat.shiftRight_eq_div_pow, show (0x7FF : UInt64).toNat = 2 ^ 11 - 1 from rfl,
      Nat.and_two_pow_sub_one_eq_mod]
    simp
  have hf : (b &&& 0xFFFFFFFFFFFFF).toNat = b.toNat % 2 ^ 52 := by
    rw [UInt64.toNat_and, show (0xFFFFFFFFFFFFF : UInt64).toNat = 2 ^ 52 - 1 from rfl,
      Nat.and_two_pow_sub_one_eq_mod]
  unfold classifyBits classifyFields
  rw [hs, he, hf]

/-- The model's unpacking on the three fields. -/
def unpackFields (negative : Bool) (e f : Nat) : UnpackedFloat :=
  if e = 2047 then (if f = 0 then .infinity (signOf negative) else .notANumber)
  else if e = 0 then
    (if h : f = 0 then .zero (signOf negative)
     else .finite (signOf negative) f (-1074) (Nat.pos_of_ne_zero h))
  else .finite (signOf negative) (2 ^ 52 + f) ((e : Int) - 1075) (by omega)

/-- Finite unpacked doubles of one sign are equal when their mantissas and exponents are. -/
theorem finite_congr {s : UnpackedFloat.Sign} {m m' : Nat} {e e' : Int} {h : 0 < m}
    {h' : 0 < m'} (hm : m = m') (he : e = e') :
    UnpackedFloat.finite s m e h = .finite s m' e' h' := by
  subst hm he
  rfl

theorem unpack_eq_fields (v : BitVec 64) :
    UnpackedFloat.unpack Format.binary64 v =
      unpackFields (v.toNat / 2 ^ 63 == 1) (v.toNat / 2 ^ 52 % 2048) (v.toNat % 2 ^ 52) := by
  have hv := v.isLt
  have he : (@UnpackedFloat.unpackExponent Format.binary64 v).toNat =
      v.toNat / 2 ^ 52 % 2048 := by
    simp [UnpackedFloat.unpackExponent, Nat.shiftRight_eq_div_pow]
  have hm : (@UnpackedFloat.unpackMantissa Format.binary64 v).toNat =
      v.toNat % 2 ^ 52 := by
    simp [UnpackedFloat.unpackMantissa]
  have hsn : (@UnpackedFloat.unpackSign Format.binary64 v).toNat = v.toNat / 2 ^ 63 := by
    delta UnpackedFloat.unpackSign
    simp [Nat.shiftRight_eq_div_pow]
    omega
  have hs : UnpackedFloat.Sign.ofBitVec (@UnpackedFloat.unpackSign Format.binary64 v) =
      signOf (v.toNat / 2 ^ 63 == 1) := by
    unfold UnpackedFloat.Sign.ofBitVec signOf
    by_cases h1 : v.toNat / 2 ^ 63 = 1
    · have : @UnpackedFloat.unpackSign Format.binary64 v ≠ 0#1 := fun h0 => by
        rw [h0] at hsn; simp at hsn; omega
      rw [if_neg this, if_pos (beq_iff_eq.2 h1)]
    · have : @UnpackedFloat.unpackSign Format.binary64 v = 0#1 :=
        BitVec.eq_of_toNat_eq (by rw [hsn]; simp; omega)
      rw [if_pos this, if_neg (by simpa using h1)]
  -- the model tests the fields as bit vectors; each test is one on the naturals
  have c1 : @UnpackedFloat.unpackExponent Format.binary64 v = -1#11 ↔
      v.toNat / 2 ^ 52 % 2048 = 2047 := by
    rw [← BitVec.toNat_inj, he]; exact Iff.rfl
  have c2 : @UnpackedFloat.unpackExponent Format.binary64 v = 0#11 ↔
      v.toNat / 2 ^ 52 % 2048 = 0 := by
    rw [← BitVec.toNat_inj, he]; exact Iff.rfl
  have c3 : @UnpackedFloat.unpackMantissa Format.binary64 v = 0#52 ↔
      v.toNat % 2 ^ 52 = 0 := by
    rw [← BitVec.toNat_inj, hm]; exact Iff.rfl
  have happ : (1#1 ++ @UnpackedFloat.unpackMantissa Format.binary64 v).toNat =
      2 ^ 52 + v.toNat % 2 ^ 52 := by
    simp only [BitVec.toNat_append, show (1#1).toNat = 1 from rfl, Nat.shiftLeft_eq, Nat.one_mul]
    rw [Nat.or_comm, Nat.or_two_pow_eq_add_of_lt
      (@UnpackedFloat.unpackMantissa Format.binary64 v).isLt, hm, Nat.add_comm]
  unfold UnpackedFloat.unpack unpackFields
  dsimp only
  rw [hs]
  by_cases h1 : v.toNat / 2 ^ 52 % 2048 = 2047
  · rw [if_pos (c1.2 h1), if_pos h1]
    by_cases hf : v.toNat % 2 ^ 52 = 0
    · rw [if_pos (c3.2 hf), if_pos hf]
    · rw [if_neg (mt c3.1 hf), if_neg hf]
  rw [if_neg (mt c1.1 h1), if_neg h1]
  by_cases h2 : v.toNat / 2 ^ 52 % 2048 = 0
  · -- a subnormal number or a zero: the exponent is that of the least subnormal
    rw [if_pos (c2.2 h2), if_pos h2]
    by_cases hf : v.toNat % 2 ^ 52 = 0
    · rw [dif_pos (c3.2 hf), dif_pos hf]
    · rw [dif_neg (mt c3.1 hf), dif_neg hf]
      exact finite_congr hm (by rw [he, h2]; rfl)
  · rw [if_neg (mt c2.1 h2), if_neg h2]
    exact finite_congr happ (by rw [he]; rfl)

/-! ### The two readings agree -/

/-- A class as the model's unpacked double: a finite magnitude with mantissa zero is a zero. -/
def FloatClass.unpacked : FloatClass → UnpackedFloat
  | .nan => .notANumber
  | .infinite neg => .infinity (signOf neg)
  | .finite neg b =>
    if h : 0 < b.mantissa then .finite (signOf neg) b.mantissa b.exponent h
    else .zero (signOf neg)

theorem unpacked_of_pos {neg : Bool} {b : Binary} (h : 0 < b.mantissa) :
    (FloatClass.finite neg b).unpacked = .finite (signOf neg) b.mantissa b.exponent h :=
  dif_pos h

theorem unpacked_of_zero {neg : Bool} {b : Binary} (h : b.mantissa = 0) :
    (FloatClass.finite neg b).unpacked = .zero (signOf neg) :=
  dif_neg (by omega)

theorem unpackFields_eq_unpacked (negative : Bool) (e f : Nat) :
    unpackFields negative e f = (classifyFields negative e f).unpacked := by
  unfold unpackFields classifyFields
  -- the same three tests, on the exponent field and then on the fraction
  by_cases h1 : e = 2047
  · rw [if_pos h1, if_pos (beq_iff_eq.2 h1)]
    by_cases hf : f = 0
    · rw [if_pos hf, if_pos (beq_iff_eq.2 hf)]
      rfl
    · rw [if_neg hf, if_neg (show (f == 0) ≠ true by simpa using hf)]
      rfl
  rw [if_neg h1, if_neg (show (e == 2047) ≠ true by simpa using h1)]
  by_cases h2 : e = 0
  · rw [if_pos h2, if_pos (beq_iff_eq.2 h2)]
    by_cases hf : f = 0
    · rw [dif_pos hf, @unpacked_of_zero negative ⟨f, -1074, false⟩ hf]
    · rw [dif_neg hf, @unpacked_of_pos negative ⟨f, -1074, false⟩ (Nat.pos_of_ne_zero hf)]
  · have hpos : 0 < Nat.pow 2 52 + f := Nat.add_pos_left (Nat.two_pow_pos 52) f
    rw [if_neg h2, if_neg (show (e == 0) ≠ true by simpa using h2), unpacked_of_pos hpos]
    rfl

/-- **The model unpacks a double as `classify` reads it.** -/
theorem Float.unpack_eq_unpacked (x : Float) : x.toModel.unpack = (classify x).unpacked := by
  show UnpackedFloat.unpack Format.binary64 x.toModel.toBits.toBitVec =
    (classifyBits x.toModel.toBits).unpacked
  rw [unpack_eq_fields, classifyBits_eq_fields, UInt64.toNat_toBitVec]
  exact unpackFields_eq_unpacked _ _ _

/-! ### Normalised magnitudes -/

/-- **A normalised magnitude**: a mantissa below `2 ^ 53`, at least `2 ^ 52` unless the exponent
is the least one, `-1074`, and no exponent below that. -/
def Binary.Normal (b : Binary) : Prop :=
  b.mantissa < 2 ^ 53 ∧ (2 ^ 52 ≤ b.mantissa ∨ b.exponent = -1074) ∧ -1074 ≤ b.exponent

/-- Every finite magnitude that `classify` reads is normalised. -/
theorem classify_normal {x : Float} {neg : Bool} {b : Binary} (h : classify x = .finite neg b) :
    b.Normal := by
  rw [classify, classifyBits_eq_fields] at h
  have hf : x.toBits.toNat % 2 ^ 52 < 2 ^ 52 := Nat.mod_lt _ (Nat.two_pow_pos 52)
  unfold classifyFields at h
  split at h
  · split at h <;> cases h
  · split at h
    · cases h
      exact ⟨show x.toBits.toNat % 2 ^ 52 < 2 ^ 53 by omega, .inr rfl,
        show (-1074 : Int) ≤ -1074 by decide⟩
    · rename_i he0
      cases h
      simp only [beq_iff_eq] at he0
      refine ⟨show Nat.pow 2 52 + _ < 2 ^ 53 by rw [Nat.pow_eq]; omega,
        .inl (show 2 ^ 52 ≤ Nat.pow 2 52 + _ by rw [Nat.pow_eq]; omega), ?_⟩
      show (-1074 : Int) ≤ ((x.toBits.toNat / 2 ^ 52 % 2048 : Nat) : Int) - 1075
      omega

/-! ### Values -/

/-- The exact value of a magnitude, `mantissa * 2 ^ exponent`. -/
def Binary.toRat (b : Binary) : ℚ := b.mantissa * 2 ^ b.exponent

/-- The exact value of a finite class, with its sign; zero for NaN and the infinities. -/
def FloatClass.value : FloatClass → ℚ
  | .finite neg b => if neg then -b.toRat else b.toRat
  | _ => 0

/-- **The value of a double**: the rational a finite double stands for; none for NaN and the
infinities. -/
def doubleValue (x : Float) : Option ℚ :=
  match classify x with
  | .finite _ _ => some (classify x).value
  | _ => none

theorem doubleValue_of_classify {x : Float} {neg : Bool} {b : Binary}
    (h : classify x = .finite neg b) :
    doubleValue x = some (if neg then -b.toRat else b.toRat) := by
  simp [doubleValue, h, FloatClass.value]

theorem toRat_pos {b : Binary} (h : 0 < b.mantissa) : 0 < b.toRat :=
  mul_pos (by exact_mod_cast h) (zpow_pos (by norm_num) _)

/-- **Exponent first, then mantissa, orders normalised magnitudes by value.** A larger exponent
wins outright, since the mantissa of the smaller one is below `2 ^ 53` and that of the larger one
is at least `2 ^ 52`. -/
theorem Binary.toRat_lt_of_lex {b c : Binary} (hb : b.Normal) (hc : c.Normal)
    (h : b.exponent < c.exponent ∨ b.exponent = c.exponent ∧ b.mantissa < c.mantissa) :
    b.toRat < c.toRat := by
  unfold Binary.toRat
  rcases h with hlt | ⟨heq, hm⟩
  · have hcm : (2 : ℚ) ^ 52 ≤ c.mantissa := by
      rcases hc.2.1 with h | h
      · exact_mod_cast h
      · have := hb.2.2; omega
    calc (b.mantissa : ℚ) * 2 ^ b.exponent
        < 2 ^ 53 * 2 ^ b.exponent :=
          mul_lt_mul_of_pos_right (by exact_mod_cast hb.1) (zpow_pos (by norm_num) _)
      _ = 2 ^ 52 * 2 ^ (b.exponent + 1) := by
          rw [zpow_add₀ (by norm_num), zpow_one]; ring
      _ ≤ 2 ^ 52 * 2 ^ c.exponent := by
          gcongr
          · norm_num
          · omega
      _ ≤ c.mantissa * 2 ^ c.exponent :=
          mul_le_mul_of_nonneg_right hcm (zpow_nonneg (by norm_num) _)
  · rw [heq]
    exact mul_lt_mul_of_pos_right (by exact_mod_cast hm) (zpow_pos (by norm_num) _)

/-- The order of places and the order of values agree on normalised positive magnitudes. -/
theorem Binary.lex_iff_toRat_lt {b c : Binary} (hb : b.Normal) (hc : c.Normal) :
    (b.exponent < c.exponent ∨ b.exponent = c.exponent ∧ b.mantissa < c.mantissa) ↔
      b.toRat < c.toRat := by
  refine ⟨Binary.toRat_lt_of_lex hb hc, fun h => ?_⟩
  by_contra hn
  rcases lt_trichotomy c.exponent b.exponent with hlt | heq | hgt
  · exact absurd h (not_lt.2 (Binary.toRat_lt_of_lex hc hb (.inl hlt)).le)
  · rcases lt_or_ge c.mantissa b.mantissa with hm | hm
    · exact absurd h (not_lt.2 (Binary.toRat_lt_of_lex hc hb (.inr ⟨heq, hm⟩)).le)
    · exact hn (.inr ⟨heq.symm, by
        rcases Nat.lt_or_ge b.mantissa c.mantissa with h' | h'
        · exact h'
        · have hmm : b.mantissa = c.mantissa := by omega
          exact absurd h (by unfold Binary.toRat; rw [hmm, heq]; exact lt_irrefl _)⟩)
  · exact hn (.inl hgt)

end RoutePlanner.Number

namespace RoutePlanner.Number

open Float.Model

theorem toRat_of_zero {b : Binary} (h : b.mantissa = 0) : b.toRat = 0 := by
  simp [Binary.toRat, h]

theorem doublePlace_finite (neg : Bool) (m : Nat) (e : Int) (h : 0 < m) :
    doublePlace (.finite (signOf neg) m e h) =
      if neg then toLex (1, toLex (-e, -(m : Int))) else toLex (3, toLex (e, (m : Int))) := by
  cases neg <;> rfl

theorem doublePlace_zero (s : UnpackedFloat.Sign) :
    doublePlace (.zero s) = toLex (2, toLex (0, 0)) := by
  cases s <;> rfl

/-- **Places and values of finite classes agree**: negative numbers, then the zeros, then the
positive numbers, and within a sign the order of normalised magnitudes. -/
theorem place_lt_iff_value_lt {n₁ n₂ : Bool} {b₁ b₂ : Binary} (h₁ : b₁.Normal) (h₂ : b₂.Normal) :
    doublePlace (FloatClass.finite n₁ b₁).unpacked <
        doublePlace (FloatClass.finite n₂ b₂).unpacked ↔
      (FloatClass.finite n₁ b₁).value < (FloatClass.finite n₂ b₂).value := by
  rcases Nat.eq_zero_or_pos b₁.mantissa with z₁ | p₁ <;>
    rcases Nat.eq_zero_or_pos b₂.mantissa with z₂ | p₂
  · -- two zeros: one place, one value
    rw [unpacked_of_zero z₁, unpacked_of_zero z₂, doublePlace_zero, doublePlace_zero]
    cases n₁ <;> cases n₂ <;> simp [toRat_of_zero z₁, toRat_of_zero z₂, FloatClass.value]
  · -- a zero below a non-zero number exactly when that one is positive
    have q₂ := toRat_pos p₂
    rw [unpacked_of_zero z₁, unpacked_of_pos p₂, doublePlace_zero, doublePlace_finite]
    cases n₁ <;> cases n₂ <;>
      simp [toRat_of_zero z₁, q₂, q₂.le, FloatClass.value, Prod.Lex.toLex_lt_toLex]
  · have q₁ := toRat_pos p₁
    rw [unpacked_of_pos p₁, unpacked_of_zero z₂, doublePlace_finite, doublePlace_zero]
    cases n₁ <;> cases n₂ <;>
      simp [toRat_of_zero z₂, q₁, q₁.le, FloatClass.value, Prod.Lex.toLex_lt_toLex]
  · -- two non-zero numbers: across signs the negative one is below; within a sign the places
    -- order the magnitudes, the other way round for negative numbers
    have q₁ := toRat_pos p₁
    have q₂ := toRat_pos p₂
    rw [unpacked_of_pos p₁, unpacked_of_pos p₂, doublePlace_finite, doublePlace_finite]
    cases n₁ <;> cases n₂ <;>
      simp only [FloatClass.value, Bool.false_eq_true, if_true, if_false,
        Prod.Lex.toLex_lt_toLex, lt_self_iff_false, true_and, false_or, Nat.cast_lt,
        neg_lt_neg_iff, neg_inj]
    · exact Binary.lex_iff_toRat_lt h₁ h₂
    · exact iff_of_false (by simp) (by linarith)
    · exact iff_of_true (.inl (by decide)) (by linarith)
    · rw [@eq_comm _ b₁.exponent]
      exact Binary.lex_iff_toRat_lt h₂ h₁

theorem isNaN_unpacked_finite (neg : Bool) (b : Binary) :
    (FloatClass.finite neg b).unpacked.isNaN = false := by
  rcases Nat.eq_zero_or_pos b.mantissa with z | p
  · rw [unpacked_of_zero z]
    rfl
  · rw [unpacked_of_pos p]
    rfl

/-- **`<` on finite doubles is `<` on their values.** -/
theorem Float.lt_iff_value_lt {x y : Float} {n₁ n₂ : Bool} {b₁ b₂ : Binary}
    (hx : classify x = .finite n₁ b₁) (hy : classify y = .finite n₂ b₂) :
    x < y ↔ (FloatClass.finite n₁ b₁).value < (FloatClass.finite n₂ b₂).value := by
  have ex : x.isNaN = false := by
    show x.toModel.unpack.isNaN = false
    rw [Float.unpack_eq_unpacked, hx, isNaN_unpacked_finite]
  have ey : y.isNaN = false := by
    show y.toModel.unpack.isNaN = false
    rw [Float.unpack_eq_unpacked, hy, isNaN_unpacked_finite]
  rw [RoutePlanner.Float.lt_iff_place, Float.unpack_eq_unpacked, Float.unpack_eq_unpacked, hx, hy,
    place_lt_iff_value_lt (classify_normal hx) (classify_normal hy)]
  rw [and_iff_right ex, and_iff_right ey]

/-- **A whole magnitude is its integer part**: the exact value of a magnitude that is a whole
number is its truncation. -/
theorem Binary.toRat_of_isIntegral {b : Binary} (h : b.isIntegral = true) :
    b.toRat = b.truncate := by
  unfold Binary.toRat Binary.truncate
  by_cases he : 0 ≤ b.exponent
  · -- a non-negative exponent: the value is a natural already
    rw [if_pos he]
    obtain ⟨k, hk⟩ := Int.eq_ofNat_of_zero_le he
    simp [hk, Nat.pow_eq, zpow_natCast]
  · -- a negative exponent `-k`: the mantissa is a multiple of `2 ^ k`
    rw [if_neg he]
    obtain ⟨k, hk⟩ : ∃ k : Nat, b.exponent = -(k : Int) := ⟨(-b.exponent).toNat, by omega⟩
    have hdiv : b.mantissa % Nat.pow 2 k = 0 := by
      have h' : k = 0 ∨ b.mantissa % 2 ^ k = 0 := by simpa [Binary.isIntegral, he, hk] using h
      rcases h' with h0 | h'
      · omega
      · simpa [Nat.pow_eq] using h'
    have hm : b.mantissa = Nat.pow 2 k * (b.mantissa / Nat.pow 2 k) :=
      (Nat.mul_div_cancel' (Nat.dvd_of_mod_eq_zero hdiv)).symm
    rw [hk, show (-(-(k : Int))).toNat = k by omega]
    conv_lhs => rw [hm]
    rw [Nat.pow_eq, zpow_neg, zpow_natCast]
    push_cast
    field_simp

end RoutePlanner.Number
