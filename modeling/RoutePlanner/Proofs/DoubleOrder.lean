import Mathlib.Data.Prod.Lex

/-!
# How doubles compare

A double that is not NaN has a place on the number line: negative infinity, then the negative
numbers, the two zeros, the positive numbers, positive infinity. `doublePlace` writes that place
as a triple compared lexicographically, and `<` and `≤` on doubles are `<` and `≤` on places, NaN
apart (`Float.lt_iff_place`, `Float.le_iff_place`); so between doubles that are not NaN, `a ≤ b`
is `¬ b < a` (`Float.le_iff_not_lt`). So `<` is transitive, and a double that is not NaN falls on one side of
every gap: from `a < b`, either `a < c` or `c < b` (`Float.lt_or_lt_of_lt`). NaN lies on no
side of anything.

These are the facts a scan for the least of several distances rests on.
-/

namespace RoutePlanner

open Float.Model

/-- **The place of an unpacked double** on the number line, as class, exponent and mantissa
compared lexicographically: negative infinity, the negative numbers (exponent and mantissa
negated, since a larger magnitude lies further left), the zeros of either sign, the positive
numbers, positive infinity. NaN has no place of its own; it is given that of the zeros and is
left out wherever places are compared. -/
def doublePlace : UnpackedFloat → Lex (ℤ × Lex (ℤ × ℤ))
  | .infinity .negative => toLex (0, toLex (0, 0))
  | .finite .negative m e _ => toLex (1, toLex (-e, -(m : ℤ)))
  | .zero _ => toLex (2, toLex (0, 0))
  | .notANumber => toLex (2, toLex (0, 0))
  | .finite .positive m e _ => toLex (3, toLex (e, m))
  | .infinity .positive => toLex (4, toLex (0, 0))

/-- Two finite magnitudes of one sign compare by exponent, then by mantissa. -/
theorem compare_then_eq_lt (m₁ m₂ : Nat) (e₁ e₂ : Int) :
    (compare e₁ e₂).then (compare m₁ m₂) = .lt ↔ e₁ < e₂ ∨ e₁ = e₂ ∧ m₁ < m₂ := by
  simp [Ordering.then_eq_lt, Int.compare_eq_lt, Nat.compare_eq_lt]

/-- The same comparison the other way round, as negative numbers are compared. -/
theorem compare_then_eq_gt (m₁ m₂ : Nat) (e₁ e₂ : Int) :
    (compare e₁ e₂).then (compare m₁ m₂) = .gt ↔ e₂ < e₁ ∨ e₁ = e₂ ∧ m₂ < m₁ := by
  simp [Ordering.then_eq_gt, Int.compare_eq_gt, Nat.compare_eq_gt]

/-- A comparison of finite magnitudes of one sign that is not `gt`. -/
theorem compare_then_isLE (m₁ m₂ : Nat) (e₁ e₂ : Int) :
    ((compare e₁ e₂).then (compare m₁ m₂)).isLE = true ↔ e₁ < e₂ ∨ e₁ = e₂ ∧ m₁ ≤ m₂ := by
  rw [Ordering.isLE_iff_ne_gt, Ordering.then_eq_gt]
  simp [Int.compare_eq_gt, Nat.compare_eq_gt]
  omega

/-- The same the other way round, as negative numbers are compared. -/
theorem compare_then_isGE (m₁ m₂ : Nat) (e₁ e₂ : Int) :
    ((compare e₁ e₂).then (compare m₁ m₂)).isGE = true ↔ e₂ < e₁ ∨ e₁ = e₂ ∧ m₂ ≤ m₁ := by
  rw [Ordering.isGE_iff_ne_lt, Ordering.then_eq_lt]
  simp [Int.compare_eq_lt, Nat.compare_eq_lt]
  omega

theorem compare_negative_positive :
    compare UnpackedFloat.Sign.negative UnpackedFloat.Sign.positive = .lt := rfl

/-- **Unpacked doubles compare by their places**, NaN apart. The proof is the case table of
`UnpackedFloat.compare`, seven shapes a side: an infinity, a zero or a finite number of either
sign, and NaN. -/
theorem unpacked_lt_iff_place (u v : UnpackedFloat) :
    u.lt v = true ↔ u.isNaN = false ∧ v.isNaN = false ∧ doublePlace u < doublePlace v := by
  rcases u with (_ | _) | _ | (_ | _) | ⟨_ | _, m, e, hm⟩ <;>
    rcases v with (_ | _) | _ | (_ | _) | ⟨_ | _, m', e', hm'⟩ <;>
    -- Every match now meets constructors, so it reduces by computation alone; simp then only
    -- sees the magnitudes, never a finite double with its proof field.
    delta UnpackedFloat.lt UnpackedFloat.compare UnpackedFloat.isNaN doublePlace <;> dsimp only <;>
    simp [Prod.Lex.toLex_lt_toLex, compare_then_eq_lt, compare_then_eq_gt, compare_negative_positive]

/-- **Unpacked doubles are ordered by their places**, NaN apart; the case table is the one of
`unpacked_lt_iff_place`. -/
theorem unpacked_le_iff_place (u v : UnpackedFloat) :
    u.le v = true ↔ u.isNaN = false ∧ v.isNaN = false ∧ doublePlace u ≤ doublePlace v := by
  rcases u with (_ | _) | _ | (_ | _) | ⟨_ | _, m, e, hm⟩ <;>
    rcases v with (_ | _) | _ | (_ | _) | ⟨_ | _, m', e', hm'⟩ <;>
    delta UnpackedFloat.le UnpackedFloat.compare UnpackedFloat.isNaN doublePlace <;> dsimp only <;>
    simp [Prod.Lex.toLex_le_toLex, compare_then_isLE, compare_then_isGE]
  -- what is left are the four pairs of infinities, which compare their signs
  all_goals rfl

namespace Float

/-- **Doubles compare by their places**, NaN apart. -/
theorem lt_iff_place (a b : Float) :
    a < b ↔ a.isNaN = false ∧ b.isNaN = false ∧
      doublePlace a.toModel.unpack < doublePlace b.toModel.unpack := by
  show a.lt b = true ↔ _
  simp only [Float.lt, decide_eq_true_eq]
  exact unpacked_lt_iff_place _ _

/-- Neither side of a comparison that holds is NaN. -/
theorem isNaN_eq_false_of_lt {a b : Float} (h : a < b) : a.isNaN = false ∧ b.isNaN = false :=
  ⟨((lt_iff_place a b).1 h).1, ((lt_iff_place a b).1 h).2.1⟩

protected theorem lt_trans {a b c : Float} (hab : a < b) (hbc : b < c) : a < c := by
  rw [lt_iff_place] at *
  exact ⟨hab.1, hbc.2.1, hab.2.2.trans hbc.2.2⟩

/-- **A double that is not NaN falls on one side of a gap**: below its upper end or above its
lower end. -/
theorem lt_or_lt_of_lt {a b : Float} (h : a < b) {c : Float} (hc : c.isNaN = false) :
    a < c ∨ c < b := by
  obtain ⟨ha, hb, hab⟩ := (lt_iff_place a b).1 h
  rcases lt_or_ge (doublePlace c.toModel.unpack) (doublePlace b.toModel.unpack) with hcb | hbc
  · exact .inr ((lt_iff_place c b).2 ⟨hc, hb, hcb⟩)
  · exact .inl ((lt_iff_place a c).2 ⟨ha, hc, hab.trans_le hbc⟩)

/-- **Doubles are ordered by their places**, NaN apart. -/
theorem le_iff_place (a b : Float) :
    a ≤ b ↔ a.isNaN = false ∧ b.isNaN = false ∧
      doublePlace a.toModel.unpack ≤ doublePlace b.toModel.unpack := by
  show a.le b = true ↔ _
  simp only [Float.le, decide_eq_true_eq]
  exact unpacked_le_iff_place _ _

/-- **Between doubles that are not NaN, `a ≤ b` is `¬ b < a`.** -/
theorem le_iff_not_lt {a b : Float} (ha : a.isNaN = false) (hb : b.isNaN = false) :
    a ≤ b ↔ ¬b < a := by
  rw [le_iff_place, lt_iff_place, and_iff_right ha, and_iff_right hb, and_iff_right hb,
    and_iff_right ha, not_lt]

end Float

end RoutePlanner
