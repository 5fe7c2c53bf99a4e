import RoutePlanner.Proofs.VisitedStops
import RoutePlanner.Proofs.DoubleOrder
import Mathlib.Order.Fin.Basic
import Mathlib.Data.List.Sort

/-!
# The nearest remaining stop

One step of the nearest-neighbour planner looks at the remaining destinations in their order
and keeps the first one at the least distance, replacing its pick only on a strictly smaller
distance. The distances are doubles and the search starts from positive infinity, so a
destination at a NaN distance is never picked over another, and when no distance is below
infinity the step takes the first remaining destination with an infinite leg.

`NearestStep` states that rule over the destinations as indices of the original list, with the
open ones (not yet visited) given as a predicate: the earliest nearest open destination at its
distance, or, when none is below infinity, the earliest open one at an infinite distance. The
rule picks one destination and one leg (`NearestStep.unique`).

The scan itself is read position by position. `ScanBest` is what it knows after its first `m`
candidates; one more candidate keeps it (`scanBest_succ`), so the whole scan ends with it
(`scanBest_nearestIndex`); on a list of open indices in increasing order that is the rule
(`nearestStep_nearestIndex`).

Distances are compared with infinity as the planner compares them. A haversine distance comes
out of an arcsine, so in a running program it is a finite number or NaN, and "below infinity"
is "not NaN"; the arcsine is not known to the logic, so the rule keeps the planner's own test.
-/

namespace RoutePlanner

variable {n : Nat}

/-! ### The rule -/

/-- **A nearest open destination**: open, at a distance below infinity, and with no open
destination closer. -/
def IsNearest (dist : Fin n → Float) (isOpen : Fin n → Prop) (i : Fin n) : Prop :=
  isOpen i ∧ dist i < unboundedDistance ∧ ∀ c, isOpen c → ¬ dist c < dist i

/-- **The nearest-neighbour rule** for one step: which open destination the step takes, and the
length of the leg to it. -/
inductive NearestStep (dist : Fin n → Float) (isOpen : Fin n → Prop) : Fin n → Float → Prop
  /-- Some open destination is below infinity: the earliest nearest one, at its distance. -/
  | nearest {i : Fin n} (hi : IsNearest dist isOpen i)
      (hfirst : ∀ c < i, ¬ IsNearest dist isOpen c) : NearestStep dist isOpen i (dist i)
  /-- None is: the earliest open destination, at an infinite distance. -/
  | unbounded {i : Fin n} (hnone : ∀ c, isOpen c → ¬ dist c < unboundedDistance)
      (hi : isOpen i) (hfirst : ∀ c < i, ¬ isOpen c) : NearestStep dist isOpen i unboundedDistance

namespace NearestStep

variable {dist : Fin n → Float} {isOpen : Fin n → Prop}

/-- Two earliest indices with one property are the same. -/
theorem earliest_unique {P : Fin n → Prop} {i i' : Fin n} (hi : P i) (hfirst : ∀ c < i, ¬ P c)
    (hi' : P i') (hfirst' : ∀ c < i', ¬ P c) : i = i' :=
  le_antisymm (not_lt.1 fun h => hfirst i' h hi') (not_lt.1 fun h => hfirst' i h hi)

/-- The destination a step takes is open. -/
theorem isOpen_of {i : Fin n} {d : Float} (h : NearestStep dist isOpen i d) : isOpen i := by
  cases h with
  | nearest hi _ => exact hi.1
  | unbounded _ hi _ => exact hi

/-- **The rule picks one destination and one leg.** Two earliest picks of one kind are the same,
and a nearest destination below infinity rules out the case where there is none. -/
theorem unique {i i' : Fin n} {d d' : Float} (h : NearestStep dist isOpen i d)
    (h' : NearestStep dist isOpen i' d') : i = i' ∧ d = d' := by
  cases h with
  | nearest hi hfirst =>
    cases h' with
    | nearest hi' hfirst' =>
      obtain rfl := earliest_unique hi hfirst hi' hfirst'
      exact ⟨rfl, rfl⟩
    | unbounded hnone _ _ => exact absurd hi.2.1 (hnone i hi.1)
  | unbounded hnone hi hfirst =>
    cases h' with
    | nearest hi' _ => exact absurd hi'.2.1 (hnone i' hi'.1)
    | unbounded _ hi' hfirst' => exact ⟨earliest_unique hi hfirst hi' hfirst', rfl⟩

end NearestStep

/-! ### The scan, candidate by candidate -/

/-- **What the scan knows** after its first `m` candidates, `dist a` being the distance to the
candidate at position `a`. -/
inductive ScanBest (dist : Nat → Float) (m : Nat) : Nat × Float → Prop
  /-- None of them is below infinity: the scan still holds its start. -/
  | unbounded (hnone : ∀ a < m, ¬ dist a < unboundedDistance) :
      ScanBest dist m (0, unboundedDistance)
  /-- It holds a nearest one below infinity, strictly nearer than every earlier one below
  infinity. -/
  | found {j : Nat} (hj : j < m) (hbelow : dist j < unboundedDistance)
      (hmin : ∀ a < m, ¬ dist a < dist j)
      (hfirst : ∀ a < j, dist a < unboundedDistance → dist j < dist a) :
      ScanBest dist m (j, dist j)

/-- A candidate strictly below a bound that none of the first `m` candidates is below has none
of the first `m + 1` below it. -/
theorem not_lt_new_best {dist : Nat → Float} {m : Nat} {bound : Float}
    (hnone : ∀ a < m, ¬ dist a < bound) (hm : dist m < bound) :
    ∀ a < m + 1, ¬ dist a < dist m :=
  Nat.forall_lt_succ_right.2 ⟨fun a ha hlt => hnone a ha (Float.lt_trans hlt hm), Float.lt_irrefl _⟩

/-- **One more candidate keeps what the scan knows.** The candidate replaces the pick only when
strictly nearer; it is then strictly nearer than every earlier candidate below infinity, since
each of those is at least as far as the old pick and a double that is not NaN falls on one
side of the gap between the two. -/
theorem scanBest_succ {dist : Nat → Float} {m : Nat} {best : Nat × Float}
    (h : ScanBest dist m best) :
    ScanBest dist (m + 1) (if dist m < best.2 then (m, dist m) else best) := by
  cases h with
  | unbounded hnone =>
    by_cases hm : dist m < unboundedDistance
    · rw [if_pos hm]
      -- the first candidate below infinity: no earlier one is below it, nor below infinity
      exact .found (Nat.lt_succ_self m) hm (not_lt_new_best hnone hm)
        fun a ha hbelow => absurd hbelow (hnone a ha)
    · rw [if_neg hm]
      exact .unbounded (Nat.forall_lt_succ_right.2 ⟨hnone, hm⟩)
  | found hj hbelow hmin hfirst =>
    rename_i j
    by_cases hm : dist m < dist j
    · rw [if_pos hm]
      refine .found (Nat.lt_succ_self m) (Float.lt_trans hm hbelow) (not_lt_new_best hmin hm)
        fun a ha hbelow' => ?_
      -- `dist a` is not NaN, so it lies above `dist m` or below `dist j`, and not below
      rcases Float.lt_or_lt_of_lt hm (Float.isNaN_eq_false_of_lt hbelow').1 with hlt | hlt
      · exact hlt
      · exact absurd hlt (hmin a ha)
    · rw [if_neg hm]
      exact .found (Nat.lt_succ_of_lt hj) hbelow (Nat.forall_lt_succ_right.2 ⟨hmin, hm⟩) hfirst

/-- One step of the scan, read as `scanBest_succ` reads it. -/
theorem closerOf_eq (p : Coordinates) (best : Nat × Float) (c : Stop) (m : Nat) :
    closerOf p best (c, m) =
      if haversine p c.coordinates < best.2 then (m, haversine p c.coordinates) else best := rfl

/-- **The scan keeps what it knows** over any run of candidates, starting at position `m`. -/
theorem scanBest_foldl (p : Coordinates) (dist : Nat → Float) (cs : List Stop) (m : Nat)
    (best : Nat × Float) (hdist : ∀ a (ha : a < cs.length), haversine p cs[a].coordinates = dist (m + a))
    (hbest : ScanBest dist m best) :
    ScanBest dist (m + cs.length) ((cs.zipIdx m).foldl (closerOf p) best) := by
  induction cs generalizing m best with
  | nil => simpa using hbest
  | cons c cs ih =>
    have hc : haversine p c.coordinates = dist m := by
      have h0 := hdist 0 (Nat.zero_lt_succ _)
      rwa [List.getElem_cons_zero, Nat.add_zero] at h0
    have hstep := scanBest_succ hbest
    rw [← hc] at hstep
    have hlen : m + (c :: cs).length = m + 1 + cs.length := by
      rw [List.length_cons]
      omega
    rw [List.zipIdx_cons, List.foldl_cons, closerOf_eq, hlen]
    refine ih (m + 1) _ (fun a ha => ?_) hstep
    -- the candidate at position `a` of the rest is at `a + 1` of the whole run
    have h := hdist (a + 1) (by rw [List.length_cons]; omega)
    rwa [List.getElem_cons_succ, ← Nat.add_assoc, Nat.add_right_comm] at h

/-- **The whole scan ends knowing the nearest candidate.** -/
theorem scanBest_nearestIndex (p : Coordinates) (cs : List Stop) (dist : Nat → Float)
    (hdist : ∀ a (ha : a < cs.length), haversine p cs[a].coordinates = dist a) :
    ScanBest dist cs.length (nearestIndex p cs) := by
  have h := scanBest_foldl p dist cs 0 (0, unboundedDistance) (fun a ha => by simpa using hdist a ha)
    (.unbounded fun a ha => absurd ha (Nat.not_lt_zero a))
  simpa [nearestIndex] using h

/-! ### From positions to destinations -/

/-- **The scan follows the rule.** Over the open destinations listed in increasing order, the
position the scan picks holds the destination the rule takes, and the distance it returns is
the rule's leg. -/
theorem nearestStep_nearestIndex (p : Coordinates) (g : Fin n → Stop) {R : List (Fin n)}
    (hR : R.Pairwise (· < ·)) (hne : R ≠ []) :
    ∃ h : (nearestIndex p (R.map g)).1 < R.length,
      NearestStep (fun i => haversine p (g i).coordinates) (· ∈ R)
        R[(nearestIndex p (R.map g)).1] (nearestIndex p (R.map g)).2 := by
  -- the distance of the candidate at each position
  let posDist : Nat → Float := fun a => (R[a]?.map fun i => haversine p (g i).coordinates).getD 0.0
  have hpos : ∀ a (ha : a < R.length), posDist a = haversine p (g R[a]).coordinates := by
    intro a ha
    simp [posDist, ha]
  have hscan := scanBest_nearestIndex p (R.map g) posDist fun a ha => by
    rw [List.getElem_map, hpos a (by simpa using ha)]
  rw [List.length_map] at hscan
  generalize nearestIndex p (R.map g) = best at hscan ⊢
  cases hscan with
  | unbounded hnone =>
    have h0 : 0 < R.length := List.length_pos_iff.2 hne
    refine ⟨h0, .unbounded (fun c hc hlt => ?_) (List.getElem_mem h0) (fun c hc hmem => ?_)⟩
    · obtain ⟨a, ha, rfl⟩ := List.getElem_of_mem hc
      exact hnone a ha (by rwa [hpos a ha])
    · -- the first entry is the smallest index of the list
      obtain ⟨a, ha, rfl⟩ := List.getElem_of_mem hmem
      exact absurd (hR.sortedLT.getElem_lt_getElem_iff.1 hc) (Nat.not_lt_zero a)
  | found hj hbelow hmin hfirst =>
    rename_i j
    rw [hpos j hj]
    refine ⟨hj, .nearest ⟨List.getElem_mem hj, ?_, fun c hc hlt => ?_⟩ fun c hc hnear => ?_⟩
    · show haversine p (g R[j]).coordinates < unboundedDistance
      rwa [← hpos j hj]
    · obtain ⟨a, ha, rfl⟩ := List.getElem_of_mem hc
      exact hmin a ha (by rwa [hpos a ha, hpos j hj])
    · -- an earlier nearest destination would be at an earlier position, strictly farther
      obtain ⟨a, ha, rfl⟩ := List.getElem_of_mem hnear.1
      have hlt := hfirst a (hR.sortedLT.getElem_lt_getElem_iff.1 hc)
        (by rw [hpos a ha]; exact hnear.2.1)
      rw [hpos a ha, hpos j hj] at hlt
      exact hnear.2.2 R[j] (List.getElem_mem hj) hlt

end RoutePlanner
