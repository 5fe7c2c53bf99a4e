import RoutePlanner.Plan.Route
import RoutePlanner.Geo.Distance
import RoutePlanner.Number.Arith

/-!
# Nearest-neighbour tours

The local planner: from the origin, go to the nearest destination not yet visited, then to
the nearest one from there, until none is left. "Nearest" is by haversine distance; of equal
distances the destination listed first wins, and a NaN distance never wins, so when every
distance is NaN the first remaining destination is taken with an infinite leg.

Each leg's distance and time, and the running totals, are doubles; a stop records them by
`roundMetric`. The running totals are summed unrounded and rounded only when recorded, so a
total can differ from the sum of the rounded legs.
-/

namespace RoutePlanner

open RoutePlanner.Number

/-- Positive infinity, the distance to beat before any candidate is seen. -/
def unboundedDistance : Float := 1.0 / 0.0

/-- Keeps the candidate with the smaller distance; the earlier one on ties and against NaN. -/
def closerOf (p : Coordinates) (best : Nat × Float) (cand : Stop × Nat) : Nat × Float :=
  let d := haversine p cand.1.coordinates
  if d < best.2 then (cand.2, d) else best

/-- **Nearest candidate.** The index of the first candidate at the least distance from `p`,
with that distance; `(0, ∞)` when no distance is below infinity. -/
def nearestIndex (p : Coordinates) (cands : List Stop) : Nat × Float :=
  cands.zipIdx.foldl (closerOf p) (0, unboundedDistance)

/-- The stop recorded for a leg of length `d` to `s`, with the running totals after it. -/
def legStop (s : Stop) (seq : Nat) (d distance duration : Float) : OrderedStop :=
  ⟨s.id, s.label, s.lat, s.lng, seq, roundMetric d, roundMetric (estimateDuration d),
    roundMetric distance, roundMetric duration⟩

/-- **The tour from `here`** through `remaining`: the stops in visiting order, numbered from
`seq`, with the unrounded running totals at the end. -/
def tourFrom (remaining : List Stop) (here : Coordinates) (distance duration : Float)
    (seq : Nat) : List OrderedStop × Float × Float :=
  match remaining with
  | [] => ([], distance, duration)
  | c :: cs =>
    let (i, d) := nearestIndex here (c :: cs)
    if hi : i < (c :: cs).length then
      let next := (c :: cs)[i]
      let distance := distance + d
      let duration := duration + estimateDuration d
      let (rest, fd, fu) :=
        tourFrom ((c :: cs).eraseIdx i) next.coordinates distance duration (seq + 1)
      (legStop next seq d distance duration :: rest, fd, fu)
    else ([], distance, duration)
termination_by remaining.length
decreasing_by simp only [List.length_eraseIdx_of_lt hi]; simp

/-- **Nearest-neighbour plan** from an origin through every destination. -/
def nearestNeighborPlan (origin : Stop) (destinations : List Stop) : RoutePlan :=
  let (stops, distance, duration) := tourFrom destinations origin.coordinates 0.0 0.0 1
  { visitOrder := stops.map (·.id)
    orderedStops := OrderedStop.origin origin :: stops
    totalDistanceM := roundMetric distance
    totalDurationS := roundMetric duration }

end RoutePlanner
