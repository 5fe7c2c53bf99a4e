import RoutePlanner.Plan.Route
import RoutePlanner.Geo.Features

/-!
# Drawing a plan as GeoJSON

A plan is drawn as one Point per stop, in order of `sequence` (stops with equal sequence keep
their order in the plan), followed by one LineString through the same positions. A position is
`[lng, lat]`. A plan with a single stop draws its line through that position twice, since a
line needs two positions. Each point carries the stop's identifier, sequence and running
totals, and its label when it has one; the line carries the plan's totals.
-/

namespace RoutePlanner

open RoutePlanner.Json

/-- The GeoJSON position of a stop. -/
def OrderedStop.position (s : OrderedStop) : Position := [s.lng, s.lat]

/-- The properties of a stop's point. -/
def OrderedStop.pointProperties (s : OrderedStop) : List (String × Value) :=
  [("id", .string s.id), ("sequence", .ofNat s.sequence),
    ("cumulativeDistanceM", .ofNat s.cumulativeDistanceM),
    ("cumulativeDurationS", .ofNat s.cumulativeDurationS)] ++
    (match s.label with
     | some l => [("label", .string l)]
     | none => [])

/-- A feature with a geometry and properties, and neither identifier nor bounding box. -/
def plainFeature (g : Shape) (props : List (String × Value)) : Feature :=
  ⟨some g, some props, none, none⟩

/-- The positions of a route line: those of the stops, the only one twice over. -/
def linePositions : List Position → List Position
  | [p] => [p, p]
  | ps => ps

/-- **The drawing of a plan.** -/
def RoutePlan.drawing (p : RoutePlan) : FeatureCollection :=
  let stops := p.orderedStops.mergeSort fun a b => a.sequence ≤ b.sequence
  let points := stops.map fun s => plainFeature (.point s.position) s.pointProperties
  let line := plainFeature (.lineString (linePositions (stops.map OrderedStop.position)))
    [("totalDistanceM", .ofNat p.totalDistanceM), ("totalDurationS", .ofNat p.totalDurationS)]
  ⟨points ++ [line], none⟩

end RoutePlanner
