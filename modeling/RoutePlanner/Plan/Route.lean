import RoutePlanner.Geo.Coordinates

/-!
# Route plans

A plan visits an origin and then every destination once. Its stops are listed in visiting
order (`OrderedStop`), each with its position in the tour (`sequence`), the leg from the stop
before it and the running totals, in whole metres and seconds. The plan also lists the
destinations' identifiers in visiting order (`visitOrder`) and the tour's totals.

`RoutePlan.issues` states what a consistent plan is: one stop more than destinations;
every stop with an identifier, a valid point and `sequence` equal to its position; an origin
with all metrics zero; running totals that never decrease; `visitOrder` naming the stops after
the origin; totals equal to the last stop's running totals.
-/

namespace RoutePlanner

open RoutePlanner.Json

/-- A stop of a plan, with its leg and running totals. -/
structure OrderedStop where
  id : String
  label : Option String
  lat : Float
  lng : Float
  sequence : Nat
  distanceFromPreviousM : Nat
  durationFromPreviousS : Nat
  cumulativeDistanceM : Nat
  cumulativeDurationS : Nat

/-- A tour: stops in visiting order, the destinations' identifiers, and the totals. -/
structure RoutePlan where
  visitOrder : List String
  orderedStops : List OrderedStop
  totalDistanceM : Nat
  totalDurationS : Nat

namespace OrderedStop

/-- The first stop of a tour: the origin, with every metric zero. -/
def origin (s : Stop) : OrderedStop :=
  ⟨s.id, s.label, s.lat, s.lng, 0, 0, 0, 0, 0⟩

/-- Where the stop is. -/
def coordinates (s : OrderedStop) : Coordinates := ⟨s.lat, s.lng⟩

/-- Whether all four metrics are zero, as at an origin. -/
def metricsZero (s : OrderedStop) : Bool :=
  s.distanceFromPreviousM == 0 && s.durationFromPreviousS == 0 &&
    s.cumulativeDistanceM == 0 && s.cumulativeDurationS == 0

/-- Whether the running totals do not fall below those of `prev`. -/
def followsOn (prev s : OrderedStop) : Bool :=
  prev.cumulativeDistanceM ≤ s.cumulativeDistanceM &&
    prev.cumulativeDurationS ≤ s.cumulativeDurationS

/-- A stop as JSON fields; an absent label is left out. -/
def fields (s : OrderedStop) : List (String × Option Value) :=
  [("id", some (.string s.id)), ("label", s.label.map .string),
    ("lat", some (.ofFloat s.lat)), ("lng", some (.ofFloat s.lng)),
    ("sequence", some (.ofNat s.sequence)),
    ("distanceFromPreviousM", some (.ofNat s.distanceFromPreviousM)),
    ("durationFromPreviousS", some (.ofNat s.durationFromPreviousS)),
    ("cumulativeDistanceM", some (.ofNat s.cumulativeDistanceM)),
    ("cumulativeDurationS", some (.ofNat s.cumulativeDurationS))]

/-- A stop as JSON. -/
def toJson (s : OrderedStop) : Value := objectOf s.fields

/-- A stop from JSON. -/
def ofJson (v : Value) : Decoded OrderedStop := do
  let v ← v.asRecord [("id", false), ("label", true), ("lat", false), ("lng", false),
    ("sequence", false), ("distanceFromPreviousM", false), ("durationFromPreviousS", false),
    ("cumulativeDistanceM", false), ("cumulativeDurationS", false)]
  pure ⟨← v.required "id" Value.toStr, ← v.optional "label" Value.toStr,
    ← v.required "lat" Value.toFloat, ← v.required "lng" Value.toFloat,
    ← v.required "sequence" (Value.toCount 32),
    ← v.required "distanceFromPreviousM" (Value.toCount 64),
    ← v.required "durationFromPreviousS" (Value.toCount 64),
    ← v.required "cumulativeDistanceM" (Value.toCount 64),
    ← v.required "cumulativeDurationS" (Value.toCount 64)⟩

end OrderedStop

namespace RoutePlan

/-- The issues of the stops from position `idx` on; `prev` is the stop before them. -/
def stopIssues (stopsPath : String) : Option OrderedStop → Nat → List OrderedStop → List Issue
  | _, _, [] => []
  | prev, idx, s :: rest =>
    let sp := Path.index stopsPath idx
    checkNonEmpty s.id (Path.field sp "id") ++ s.coordinates.issues sp ++
      check (s.sequence == idx) (Path.field sp "sequence") ("expected sequence " ++ toString idx) ++
      (match prev with
       | none => check s.metricsZero sp "origin metrics must all be zero"
       | some q => check (q.followsOn s) sp "cumulative metrics must not decrease") ++
      stopIssues stopsPath (some s) (idx + 1) rest

/-- The issues of `visitOrder` from position `idx` on, against the stops after the origin. -/
def orderIssues (p : RoutePlan) (orderPath : String) : Nat → List String → List Issue
  | _, [] => []
  | idx, id :: rest =>
    check ((p.orderedStops[idx + 1]?.map (·.id)) == some id) (Path.index orderPath idx)
        "must match the id of the stop at the same position" ++
      orderIssues p orderPath (idx + 1) rest

/-- **The issues of a plan**, in the order they are looked for. -/
def issues (p : RoutePlan) (path : String) : List Issue :=
  let stopsPath := Path.field path "orderedStops"
  let n := p.visitOrder.length
  let last := p.orderedStops.getLast?
  check (p.orderedStops.length == n + 1) stopsPath
      ("expected " ++ toString (n + 1) ++ " stops for " ++ toString n ++ " destinations, found " ++
        toString p.orderedStops.length) ++
    stopIssues stopsPath none 0 p.orderedStops ++
    orderIssues p (Path.field path "visitOrder") 0 p.visitOrder ++
    check (last.map (·.cumulativeDistanceM) == some p.totalDistanceM) (Path.field path "totalDistanceM")
      "must equal the last stop's cumulative distance" ++
    check (last.map (·.cumulativeDurationS) == some p.totalDurationS) (Path.field path "totalDurationS")
      "must equal the last stop's cumulative duration"

/-- A plan as JSON fields. -/
def fields (p : RoutePlan) : List (String × Value) :=
  [("visitOrder", .array (p.visitOrder.map .string)),
    ("orderedStops", .array (p.orderedStops.map OrderedStop.toJson)),
    ("totalDistanceM", .ofNat p.totalDistanceM), ("totalDurationS", .ofNat p.totalDurationS)]

/-- A plan as JSON. -/
def toJson (p : RoutePlan) : Value := .object p.fields

/-- A plan from JSON. -/
def ofJson (v : Value) : Decoded RoutePlan := do
  let v ← v.asRecord [("visitOrder", false), ("orderedStops", false), ("totalDistanceM", false),
    ("totalDurationS", false)]
  pure ⟨← v.required "visitOrder" (Value.toList Value.toStr),
    ← v.required "orderedStops" (Value.toList OrderedStop.ofJson),
    ← v.required "totalDistanceM" (Value.toCount 64),
    ← v.required "totalDurationS" (Value.toCount 64)⟩

end RoutePlan

end RoutePlanner
