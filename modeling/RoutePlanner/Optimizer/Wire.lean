import RoutePlanner.Optimizer.Contract
import RoutePlanner.Number.Arith

/-!
# The optimiser's wire answer

The optimiser answers in its own format (`WireAnswer`): snake-case keys, and leg and running
metrics as doubles. A wire answer is valid when every visited identifier is non-empty, there is
at least one stop, every stop has an identifier, a valid point and finite non-negative metrics,
the totals are finite and non-negative, and the diagnostics name a solver, have a gap within
`[0, 1]` and a finite non-negative time.

`WireAnswer.toAnswer` turns it into the library's `Answer`, rounding every metric with
`roundMetric`.
-/

namespace RoutePlanner.Optimizer

open RoutePlanner.Json RoutePlanner.Number

/-- A stop as the optimiser reports it. -/
structure WireStop where
  id : String
  label : Option String
  lat : Float
  lng : Float
  sequence : Nat
  distanceFromPrevious : Float
  durationFromPrevious : Float
  cumulativeDistance : Float
  cumulativeDuration : Float

/-- A solved tour as the optimiser reports it. -/
structure WireAnswer where
  routeId : Uuid
  visitOrder : List String
  orderedStops : List WireStop
  totalDistance : Float
  totalDuration : Float
  diagnostics : Diagnostics

namespace WireStop

/-- A wire stop from JSON. -/
def ofJson (v : Value) : Decoded WireStop := do
  let v ← v.asRecord [("id", false), ("label", true), ("lat", false), ("lng", false),
    ("sequence", false), ("distance_from_previous_m", false), ("duration_from_previous_s", false),
    ("cumulative_distance_m", false), ("cumulative_duration_s", false)]
  pure ⟨← v.required "id" Value.toStr, ← v.optional "label" Value.toStr,
    ← v.required "lat" Value.toFloat, ← v.required "lng" Value.toFloat,
    ← v.required "sequence" (Value.toCount 32),
    ← v.required "distance_from_previous_m" Value.toFloat,
    ← v.required "duration_from_previous_s" Value.toFloat,
    ← v.required "cumulative_distance_m" Value.toFloat,
    ← v.required "cumulative_duration_s" Value.toFloat⟩

/-- The issues of a wire stop. -/
def issues (s : WireStop) (path : String) : List Issue :=
  checkNonEmpty s.id (Path.field path "id") ++ Coordinates.issues ⟨s.lat, s.lng⟩ path ++
    checkNonNegative s.distanceFromPrevious (Path.field path "distance_from_previous_m") ++
    checkNonNegative s.durationFromPrevious (Path.field path "duration_from_previous_s") ++
    checkNonNegative s.cumulativeDistance (Path.field path "cumulative_distance_m") ++
    checkNonNegative s.cumulativeDuration (Path.field path "cumulative_duration_s")

/-- The library's stop, with every metric rounded. -/
def toStop (s : WireStop) : OrderedStop :=
  ⟨s.id, s.label, s.lat, s.lng, s.sequence, roundMetric s.distanceFromPrevious,
    roundMetric s.durationFromPrevious, roundMetric s.cumulativeDistance,
    roundMetric s.cumulativeDuration⟩

end WireStop

/-- Diagnostics in the optimiser's wire format. -/
def wireDiagnostics (v : Value) : Decoded Diagnostics := do
  let v ← v.asRecord [("strategy", false), ("solver", false), ("iterations", false),
    ("gap", false), ("fallback_used", false), ("execution_ms", false)]
  pure ⟨← v.required "strategy" Strategy.ofJson, ← v.required "solver" Value.toStr,
    ← v.required "iterations" (Value.toCount 64), ← v.required "gap" Value.toFloat,
    ← v.required "fallback_used" Value.toBool, ← v.required "execution_ms" Value.toFloat⟩

namespace WireAnswer

/-- A wire answer from JSON. -/
def ofJson (v : Value) : Decoded WireAnswer := do
  let v ← v.asRecord [("route_id", false), ("visit_order", false), ("ordered_stops", false),
    ("total_distance_m", false), ("total_duration_s", false), ("diagnostics", false)]
  pure ⟨← v.required "route_id" Uuid.ofJson, ← v.required "visit_order" (Value.toList Value.toStr),
    ← v.required "ordered_stops" (Value.toList WireStop.ofJson),
    ← v.required "total_distance_m" Value.toFloat, ← v.required "total_duration_s" Value.toFloat,
    ← v.required "diagnostics" wireDiagnostics⟩

/-- **The issues of a wire answer.** -/
def issues (w : WireAnswer) (path : String) : List Issue :=
  let orderPath := Path.field path "visit_order"
  let stopsPath := Path.field path "ordered_stops"
  let diagnosticsPath := Path.field path "diagnostics"
  (w.visitOrder.zipIdx.flatMap fun (id, i) => checkNonEmpty id (Path.index orderPath i)) ++
    check (!w.orderedStops.isEmpty) stopsPath "must contain at least one stop" ++
    (w.orderedStops.zipIdx.flatMap fun (s, i) => s.issues (Path.index stopsPath i)) ++
    checkNonNegative w.totalDistance (Path.field path "total_distance_m") ++
    checkNonNegative w.totalDuration (Path.field path "total_duration_s") ++
    checkNonEmpty w.diagnostics.solver (Path.field diagnosticsPath "solver") ++
    checkRange w.diagnostics.gap 0.0 1.0 (Path.field diagnosticsPath "gap") ++
    checkNonNegative w.diagnostics.executionMs (Path.field diagnosticsPath "execution_ms")

/-- **The library's answer**, every metric rounded with `roundMetric`. -/
def toAnswer (w : WireAnswer) : Answer :=
  ⟨w.routeId, ⟨w.visitOrder, w.orderedStops.map WireStop.toStop, roundMetric w.totalDistance,
    roundMetric w.totalDuration⟩, w.diagnostics⟩

end WireAnswer

end RoutePlanner.Optimizer
