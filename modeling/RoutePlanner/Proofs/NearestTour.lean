import RoutePlanner.Proofs.NearestChoice
import Mathlib.Data.List.NodupEquivFin
import Mathlib.Data.List.FinRange
import Mathlib.Data.List.InsertIdx

/-!
# The nearest-neighbour tour, step by step

The planner's loop takes destinations out of a shrinking list of remaining ones, by position.
Read on the indices of the original list, a run of the loop is a `NearestRun`: at each step it
takes the destination that `NearestStep` names among those not yet taken, in their original
order, and goes on from there (`tourFrom_nearestRun`). Nothing is lost or taken twice on the
way: a run takes the open indices in some order (`NearestRun.perm`), even when destinations
share an identifier or a point, since the loop removes by position and never by value.

The stops the loop records are laid out by `legStops`: each with its position in the tour, its
leg and the running totals, which are summed unrounded and rounded only when recorded.

Main statements: `nearestNeighborPlan_visits_each_destination_once` (the plan lists the origin
and then every destination exactly once, in the order of a permutation of the destinations,
and its totals are those of its last stop) and `nearestNeighborPlan_takes_nearest` (at every
step the next stop is the earliest nearest destination not yet visited, with its leg and its
running totals).
-/

namespace RoutePlanner

open RoutePlanner.Number

variable {n : Nat}

/-! ### Runs -/

/-- **A nearest-neighbour run** from `here` through the open destinations `R`, as indices of the
destinations `g`: the destinations it takes, each with its leg. Each step follows the rule over
what is still open and goes on from the destination it took. -/
inductive NearestRun (g : Fin n → Stop) :
    List (Fin n) → Coordinates → List (Fin n × Float) → Prop
  /-- Nothing is open: the run is over. -/
  | done (here : Coordinates) : NearestRun g [] here []
  /-- The rule takes `i` at leg `d`, and the run goes on from it without it. -/
  | step {R : List (Fin n)} {here : Coordinates} {i : Fin n} {d : Float}
      {steps : List (Fin n × Float)}
      (hstep : NearestStep (fun c => haversine here (g c).coordinates) (· ∈ R) i d)
      (hrest : NearestRun g (R.erase i) (g i).coordinates steps) :
      NearestRun g R here ((i, d) :: steps)

/-- The stops a run records, numbered from `seq`, with running totals carried on from
`distance` and `duration`. -/
def legStops (g : Fin n → Stop) : Nat → Float → Float → List (Fin n × Float) → List OrderedStop
  | _, _, _, [] => []
  | seq, distance, duration, (i, d) :: rest =>
    legStop (g i) seq d (distance + d) (duration + estimateDuration d) ::
      legStops g (seq + 1) (distance + d) (duration + estimateDuration d) rest

/-- The running distance after the legs of `steps`, summed in order from `distance`. -/
def distanceAfter (distance : Float) (steps : List (Fin n × Float)) : Float :=
  steps.foldl (fun total s => total + s.2) distance

/-- The running travel time after the legs of `steps`, summed in order from `duration`. -/
def durationAfter (duration : Float) (steps : List (Fin n × Float)) : Float :=
  steps.foldl (fun total s => total + estimateDuration s.2) duration

@[simp] theorem legStops_length (g : Fin n → Stop) (seq : Nat) (distance duration : Float)
    (steps : List (Fin n × Float)) : (legStops g seq distance duration steps).length = steps.length := by
  induction steps generalizing seq distance duration with
  | nil => rfl
  | cons s steps ih => simp [legStops, ih]

/-- **The `k`-th recorded stop**: the destination of step `k` at position `seq + k`, with its
leg and the running totals after the first `k + 1` legs. -/
theorem legStops_getElem? (g : Fin n → Stop) (seq : Nat) (distance duration : Float)
    (steps : List (Fin n × Float)) (k : Nat) (hk : k < steps.length) :
    (legStops g seq distance duration steps)[k]? =
      some (legStop (g steps[k].1) (seq + k) steps[k].2
        (distanceAfter distance (steps.take (k + 1)))
        (durationAfter duration (steps.take (k + 1)))) := by
  induction steps generalizing seq distance duration k with
  | nil => exact absurd hk (Nat.not_lt_zero k)
  | cons s steps ih =>
    obtain ⟨i, d⟩ := s
    cases k with
    | zero => simp [legStops, distanceAfter, durationAfter]
    | succ k =>
      -- the rest of the stops start one position on, from the totals after the first leg
      rw [legStops, List.getElem?_cons_succ, ih _ _ _ k (by simpa using hk)]
      simp [distanceAfter, durationAfter, Nat.add_assoc, Nat.add_comm 1 k]

/-- The last recorded stop carries the totals of the whole run; with no steps, the stop before
them does. -/
theorem getLast?_legStops (g : Fin n → Stop) (first : OrderedStop) (seq : Nat)
    (distance duration : Float) (steps : List (Fin n × Float))
    (hfirst : first.cumulativeDistanceM = roundMetric distance ∧
      first.cumulativeDurationS = roundMetric duration) :
    (first :: legStops g seq distance duration steps).getLast?.map
        (fun s => (s.cumulativeDistanceM, s.cumulativeDurationS)) =
      some (roundMetric (distanceAfter distance steps),
        roundMetric (durationAfter duration steps)) := by
  induction steps generalizing first seq distance duration with
  | nil => simp [legStops, distanceAfter, durationAfter, hfirst]
  | cons s steps ih =>
    obtain ⟨i, d⟩ := s
    rw [legStops, List.getLast?_cons_cons]
    exact ih _ (seq + 1) (distance + d) (duration + estimateDuration d) ⟨rfl, rfl⟩

/-- Where the recorded stops stand: after a first stop, at the destination of each step. -/
theorem map_coordinates_legStops (g : Fin n → Stop) (first : OrderedStop) (seq : Nat)
    (distance duration : Float) (steps : List (Fin n × Float)) :
    (first :: legStops g seq distance duration steps).map OrderedStop.coordinates =
      first.coordinates :: steps.map fun s => (g s.1).coordinates := by
  induction steps generalizing first seq distance duration with
  | nil => rfl
  | cons s steps ih =>
    obtain ⟨i, d⟩ := s
    rw [legStops, List.map_cons, ih]
    rfl

/-- Stop `k` stands where the run stands after `k` steps: at the first stop, then at the
destination of each step. -/
theorem coordinates_getElem?_legStops {g : Fin n → Stop} {first : OrderedStop} {seq : Nat}
    {distance duration : Float} {steps : List (Fin n × Float)} {k : Nat} {p : OrderedStop}
    (hp : (first :: legStops g seq distance duration steps)[k]? = some p) :
    (first.coordinates :: steps.map fun s => (g s.1).coordinates)[k]? = some p.coordinates := by
  rw [← map_coordinates_legStops, List.getElem?_map, hp]
  rfl

/-- Nothing rounds to nothing. -/
theorem roundMetric_zero : roundMetric 0.0 = 0 := by decide

/-! ### The loop is a run -/

/-- **The planner's loop is a nearest-neighbour run.** Started on the destinations at the open
indices `R`, in increasing order, the loop takes them as a run does, records the stops that
`legStops` lays out, and ends with the unrounded totals of the run's legs. The induction
follows the loop; the branch where the scan would pick no destination cannot happen. -/
theorem tourFrom_nearestRun (g : Fin n → Stop) (remaining : List Stop) (here : Coordinates)
    (distance duration : Float) (seq : Nat) (R : List (Fin n)) (hR : R.map g = remaining)
    (hsorted : R.Pairwise (· < ·)) :
    ∃ steps, NearestRun g R here steps ∧
      tourFrom remaining here distance duration seq =
        (legStops g seq distance duration steps, distanceAfter distance steps,
          durationAfter duration steps) := by
  induction remaining, here, distance, duration, seq using tourFrom.induct generalizing R with
  | case1 here distance duration seq =>
    obtain rfl : R = [] := List.map_eq_nil_iff.1 hR
    exact ⟨[], .done here, by simp [tourFrom, legStops, distanceAfter, durationAfter]⟩
  | case2 here distance duration seq c cs i d hnear hi next distance' duration' rest fd fu hrest
      ih =>
    have hne : R ≠ [] := by
      rintro rfl
      simp at hR
    -- the scan's pick is the rule's: position `i` of the open indices, at leg `d`
    obtain ⟨hj, hstep⟩ := nearestStep_nearestIndex here g hsorted hne
    simp only [hR, hnear] at hj hstep
    have hnodup : R.Nodup := hsorted.imp ne_of_lt
    have hnext : next = g R[i] := by simp [next, ← hR]
    have herase : (R.erase R[i]).map g = (c :: cs).eraseIdx i := by
      rw [← hR, List.eraseIdx_map, ← List.Nodup.erase_getElem hnodup i hj]
    obtain ⟨steps, hrun, htour⟩ := ih (R.erase R[i]) herase (hsorted.sublist (List.erase_sublist))
    rw [hnext] at htour hrun
    refine ⟨(R[i], d) :: steps, .step hstep hrun, ?_⟩
    rw [tourFrom, hnear]
    simp only [dif_pos hi]
    rw [show (c :: cs)[i] = g R[i] from hnext, htour]
    rfl
  | case3 here distance duration seq c cs i d hnear hi =>
    have hlt := nearestIndex_lt here c cs
    rw [hnear] at hlt
    exact absurd hlt hi

/-! ### What a run takes -/

namespace NearestRun

variable {g : Fin n → Stop}

/-- **A run takes every open destination once**: the indices it takes are the open ones in
some order. -/
theorem perm {R : List (Fin n)} {here : Coordinates} {steps : List (Fin n × Float)}
    (h : NearestRun g R here steps) (hR : R.Nodup) : (steps.map Prod.fst).Perm R := by
  induction h with
  | done => exact .nil
  | step hstep _ ih =>
    -- the index taken is open, and the rest of the run takes what is left without it
    exact ((ih (hR.erase _)).cons _).trans (List.perm_cons_erase hstep.isOpen_of).symm

/-- A step of the rule is the same step over any description of the same open set. -/
theorem nearestStep_congr {dist : Fin n → Float} {isOpen isOpen' : Fin n → Prop} {i : Fin n}
    {d : Float} (h : NearestStep dist isOpen i d) (heq : ∀ c, isOpen c ↔ isOpen' c) :
    NearestStep dist isOpen' i d := by
  obtain rfl : isOpen = isOpen' := funext fun c => propext (heq c)
  exact h

/-- **Step `k` of a run follows the rule**: from where the run stands after `k` steps (where
it started, or the destination of step `k - 1`), over the open destinations it has not taken
yet, it takes the destination of step `k` at the leg of step `k`. -/
theorem nearestStep_getElem {R : List (Fin n)} {here : Coordinates}
    {steps : List (Fin n × Float)} (h : NearestRun g R here steps) (hR : R.Nodup) (k : Nat)
    (hk : k < steps.length) {p : Coordinates}
    (hp : (here :: steps.map fun s => (g s.1).coordinates)[k]? = some p) :
    NearestStep (fun c => haversine p (g c).coordinates)
      (fun c => c ∈ R ∧ c ∉ (steps.take k).map Prod.fst) steps[k].1 steps[k].2 := by
  induction h generalizing k with
  | done => exact absurd hk (Nat.not_lt_zero k)
  | step hstep hrest ih =>
    rename_i R here i d steps
    cases k with
    | zero =>
      obtain rfl : here = p := by simpa using hp
      exact nearestStep_congr hstep fun c => by simp
    | succ k =>
      -- after the first step the open set is `R` without `i`, and the run stands at `i`
      have hk' : k < steps.length := by simpa using hk
      have hp' : ((g i).coordinates :: steps.map fun s => (g s.1).coordinates)[k]? = some p := by
        simpa using hp
      refine nearestStep_congr (by simpa using ih (hR.erase i) k hk' hp') fun c => ?_
      rw [hR.mem_erase_iff]
      simp only [List.take_succ_cons, List.map_cons, List.mem_cons, not_or, List.map_take]
      tauto

/-- **Each recorded stop before the last starts a step of the rule**: stop `k` of a run's stops,
after a first stop where the run starts, exists, and step `k` goes from it to the nearest
destination not taken yet. -/
theorem nearestStep_stop {R : List (Fin n)} {here : Coordinates} {steps : List (Fin n × Float)}
    (h : NearestRun g R here steps) (hR : R.Nodup) (first : OrderedStop)
    (hfirst : first.coordinates = here) (seq : Nat) (distance duration : Float) (k : Nat)
    (hk : k < steps.length) :
    ∃ p, (first :: legStops g seq distance duration steps)[k]? = some p ∧
      NearestStep (fun c => haversine p.coordinates (g c).coordinates)
        (fun c => c ∈ R ∧ c ∉ (steps.take k).map Prod.fst) steps[k].1 steps[k].2 := by
  have hlen : k < (first :: legStops g seq distance duration steps).length := by
    rw [List.length_cons, legStops_length]
    exact Nat.lt_succ_of_lt hk
  have hp := List.getElem?_eq_getElem hlen
  refine ⟨_, hp, h.nearestStep_getElem hR k hk ?_⟩
  rw [← hfirst]
  exact coordinates_getElem?_legStops hp

end NearestRun

/-! ### The plan -/

/-- The running distance is the sum of the legs, in order. -/
theorem distanceAfter_eq (distance : Float) (steps : List (Fin n × Float)) :
    distanceAfter distance steps = (steps.map Prod.snd).foldl (· + ·) distance := by
  simp [distanceAfter, List.foldl_map]

/-- The running travel time is the sum of the legs' travel times, in order. -/
theorem durationAfter_eq (duration : Float) (steps : List (Fin n × Float)) :
    durationAfter duration steps =
      (steps.map Prod.snd).foldl (fun total d => total + estimateDuration d) duration := by
  simp [durationAfter, List.foldl_map]

/-- A list of indices that is a permutation of `0 … n - 1` is the one-line form of a
permutation of the indices. -/
theorem exists_equiv_of_perm_finRange {J : List (Fin n)} (hJ : J.Perm (List.finRange n)) :
    ∃ π : Equiv.Perm (Fin n), ∀ k : Fin n, J[k.1]? = some (π k) := by
  have hlen : J.length = n := by simpa using hJ.length_eq
  have hnodup : J.Nodup := hJ.nodup_iff.2 (List.nodup_finRange n)
  have hmem : ∀ x, x ∈ J := fun x => hJ.mem_iff.2 (List.mem_finRange x)
  refine ⟨(finCongr hlen.symm).trans (List.Nodup.getEquivOfForallMemList J hnodup hmem),
    fun k => ?_⟩
  simp [List.Nodup.getEquivOfForallMemList]

/-- Read through the permutation `π` it is the one-line form of, a list of indices holds
among its first `k` entries exactly the indices `π` sends positions below `k` to. -/
theorem not_mem_take_iff {J : List (Fin n)} {π : Equiv.Perm (Fin n)}
    (hπ : ∀ k : Fin n, J[k.1]? = some (π k)) (k c : Fin n) :
    c ∉ J.take k.1 ↔ ∀ k' < k, π k' ≠ c := by
  rw [List.mem_take_iff_getElem]
  constructor
  · rintro hc k' hk' rfl
    have hj : k'.1 < J.length := (List.getElem?_eq_some_iff.1 (hπ k')).1
    exact hc ⟨k'.1, Nat.lt_min.2 ⟨hk', hj⟩, (List.getElem?_eq_some_iff.1 (hπ k')).2⟩
  · rintro hc ⟨j, hj, rfl⟩
    -- the entry at position `j < k` is what `π` sends `j` to
    have hjk : j < k.1 := (Nat.lt_min.1 hj).1
    have hjn : j < n := Nat.lt_trans hjk k.2
    obtain ⟨_, hget⟩ := List.getElem?_eq_some_iff.1 (hπ ⟨j, hjn⟩)
    exact hc ⟨j, hjn⟩ hjk hget.symm

/-- **The nearest-neighbour plan of a run**: there is a run through all destinations, in their
order, from the origin, and the plan is the origin followed by the stops of that run, with the
run's totals rounded. The run takes one step per destination, step `k` taking destination `π k`
for a permutation `π` of their positions. -/
theorem nearestNeighborPlan_run (origin : Stop) (destinations : List Stop) :
    ∃ steps, ∃ π : Equiv.Perm (Fin destinations.length),
      NearestRun destinations.get (List.finRange destinations.length) origin.coordinates steps ∧
      nearestNeighborPlan origin destinations =
        { visitOrder := (legStops destinations.get 1 0.0 0.0 steps).map (·.id)
          orderedStops := OrderedStop.origin origin :: legStops destinations.get 1 0.0 0.0 steps
          totalDistanceM := roundMetric (distanceAfter 0.0 steps)
          totalDurationS := roundMetric (durationAfter 0.0 steps) } ∧
      steps.length = destinations.length ∧
      ∀ k : Fin destinations.length, (steps.map Prod.fst)[k.1]? = some (π k) := by
  obtain ⟨steps, hrun, htour⟩ := tourFrom_nearestRun destinations.get destinations
    origin.coordinates 0.0 0.0 1 (List.finRange destinations.length)
    (List.map_get_finRange destinations) (List.pairwise_lt_finRange destinations.length)
  have hperm := hrun.perm (List.nodup_finRange destinations.length)
  obtain ⟨π, hπ⟩ := exists_equiv_of_perm_finRange hperm
  refine ⟨steps, π, hrun, ?_, by simpa using hperm.length_eq, hπ⟩
  simp only [nearestNeighborPlan, htour]

/-- **The nearest-neighbour plan visits every destination exactly once.** From any origin,
through any destinations (repeated identifiers and points included), the plan has one stop
more than there are destinations; its first stop is the origin, and there is a permutation `π`
of the destinations' positions such that stop `k + 1` is destination `π k` (its identifier,
label and point) at sequence `k + 1`, and the visiting order names it in place `k`. The totals
are the running totals of the last stop, which is the origin, with totals zero, when there is
no destination. -/
theorem nearestNeighborPlan_visits_each_destination_once (origin : Stop)
    (destinations : List Stop) :
    (nearestNeighborPlan origin destinations).orderedStops.length = destinations.length + 1 ∧
    (nearestNeighborPlan origin destinations).orderedStops[0]? = some (OrderedStop.origin origin) ∧
    (∃ π : Equiv.Perm (Fin destinations.length), ∀ k : Fin destinations.length,
      (nearestNeighborPlan origin destinations).orderedStops[k.1 + 1]?.map
          (fun s => (s.toStop, s.sequence)) = some (destinations.get (π k), k.1 + 1) ∧
      (nearestNeighborPlan origin destinations).visitOrder[k.1]? =
        some (destinations.get (π k)).id) ∧
    (nearestNeighborPlan origin destinations).orderedStops.getLast?.map
        (fun s => (s.cumulativeDistanceM, s.cumulativeDurationS)) =
      some ((nearestNeighborPlan origin destinations).totalDistanceM,
        (nearestNeighborPlan origin destinations).totalDurationS) ∧
    (destinations = [] → (nearestNeighborPlan origin destinations).totalDistanceM = 0 ∧
      (nearestNeighborPlan origin destinations).totalDurationS = 0) := by
  obtain ⟨steps, π, -, hplan, hlen, hπ⟩ := nearestNeighborPlan_run origin destinations
  rw [hplan]
  refine ⟨by simp [hlen], rfl, ⟨π, fun k => ?_⟩, ?_, fun hnil => ?_⟩
  · -- stop `k + 1` is the `k`-th recorded stop, the destination of step `k`
    have hk : k.1 < steps.length := by rw [hlen]; exact k.2
    have hstep : steps[k.1].1 = π k := by simpa [hk] using hπ k
    rw [List.getElem?_cons_succ, List.getElem?_map,
      legStops_getElem? destinations.get 1 0.0 0.0 steps k.1 hk, hstep]
    simp [legStop, OrderedStop.toStop, Nat.add_comm 1 k.1]
  · exact getLast?_legStops destinations.get _ 1 0.0 0.0 steps
      ⟨roundMetric_zero.symm, roundMetric_zero.symm⟩
  · -- with no destination the run takes no step, and the totals are those of the start
    subst hnil
    obtain rfl : steps = [] := List.eq_nil_of_length_eq_zero hlen
    exact ⟨roundMetric_zero, roundMetric_zero⟩

/-- **Each step of the nearest-neighbour plan takes the nearest destination not yet visited.**
There are a permutation `π` of the destinations' positions and legs such that, at every step
`k`, from stop `k` (the origin, then each destination visited): stop `k + 1` is destination
`π k`, the earliest destination in the original order among the nearest of those not visited
before step `k`, at the leg `legs k` to it, or, when none of them is below infinity, the
earliest of them at an infinite leg (`NearestStep`); stop `k + 1` records that leg and its
travel time rounded, and running totals that are the rounded sums of the unrounded legs
`0 … k`, summed in order, so they may differ from the sum of the rounded legs. -/
theorem nearestNeighborPlan_takes_nearest (origin : Stop) (destinations : List Stop) :
    ∃ π : Equiv.Perm (Fin destinations.length), ∃ legs : Fin destinations.length → Float,
      ∀ k : Fin destinations.length, ∃ p q : OrderedStop,
        (nearestNeighborPlan origin destinations).orderedStops[k.1]? = some p ∧
        (nearestNeighborPlan origin destinations).orderedStops[k.1 + 1]? = some q ∧
        q.toStop = destinations.get (π k) ∧
        NearestStep (fun i => haversine p.coordinates (destinations.get i).coordinates)
          (fun i => ∀ k' < k, π k' ≠ i) (π k) (legs k) ∧
        q.distanceFromPreviousM = roundMetric (legs k) ∧
        q.durationFromPreviousS = roundMetric (estimateDuration (legs k)) ∧
        q.cumulativeDistanceM =
          roundMetric (((List.ofFn legs).take (k.1 + 1)).foldl (· + ·) 0.0) ∧
        q.cumulativeDurationS =
          roundMetric (((List.ofFn legs).take (k.1 + 1)).foldl
            (fun total d => total + estimateDuration d) 0.0) := by
  obtain ⟨steps, π, hrun, hplan, hlen, hπ⟩ := nearestNeighborPlan_run origin destinations
  -- the legs in visiting order
  have hlegs : List.ofFn (fun k : Fin destinations.length => (steps.map Prod.snd).getD k.1 0.0) =
      steps.map Prod.snd := by
    refine List.ext_getElem (by simp [hlen]) fun i h₁ h₂ => ?_
    have hi : i < steps.length := by simpa using h₂
    simp [List.getD_eq_getElem?_getD, hi]
  refine ⟨π, fun k => (steps.map Prod.snd).getD k.1 0.0, fun k => ?_⟩
  have hk : k.1 < steps.length := by rw [hlen]; exact k.2
  have hstep : steps[k.1].1 = π k := by simpa [hk] using hπ k
  have hleg : (steps.map Prod.snd).getD k.1 0.0 = steps[k.1].2 := by
    simp [List.getD_eq_getElem?_getD, hk]
  rw [hplan, hlegs]
  beta_reduce
  rw [hleg, ← hstep]
  -- stop `k` exists, and step `k` of the run goes from it
  obtain ⟨p, hp, hnear⟩ := hrun.nearestStep_stop (List.nodup_finRange _)
    (OrderedStop.origin origin) rfl 1 0.0 0.0 k.1 hk
  refine ⟨p, _, hp, by rw [List.getElem?_cons_succ, legStops_getElem? _ _ _ _ _ _ hk], rfl, ?_,
    rfl, rfl, ?_, ?_⟩
  · -- not visited before step `k`: not among the indices of the first `k` steps
    refine NearestRun.nearestStep_congr hnear fun c => ?_
    rw [List.map_take, ← not_mem_take_iff hπ k c]
    simp
  · -- the recorded running totals are those of the first `k + 1` legs
    show roundMetric (distanceAfter 0.0 (steps.take (k.1 + 1))) = _
    rw [distanceAfter_eq, List.map_take]
  · show roundMetric (durationAfter 0.0 (steps.take (k.1 + 1))) = _
    rw [durationAfter_eq, List.map_take]

end RoutePlanner
