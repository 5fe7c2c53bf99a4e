import RoutePlanner.Plan.Drawing
import RoutePlanner.Plan.Diagnostics
import RoutePlanner.Uuid

/-!
# Tour requests and results

A `TourRequest` is what a caller submits: an origin, the destinations to visit, and optional
solver options. It is valid when the origin and every destination are valid stops, there are
between 1 and `maxDestinations` destinations, and the options are valid.

A `TourResult` is what the library answers: the plan under a route identifier
(`IdentifiedPlan`), its drawing as GeoJSON, and the diagnostics of where the plan came from.
A `DigestedTour` is a result together with the digest of the request that produced it.
-/

namespace RoutePlanner

open RoutePlanner.Json

/-- The most destinations a request may hold. -/
def maxDestinations : Nat := 30

/-- A request to plan a tour. -/
structure TourRequest where
  origin : Stop
  destinations : List Stop
  options : Option SubmittedOptions

/-- A plan with its route identifier. -/
structure IdentifiedPlan where
  routeId : Uuid
  plan : RoutePlan

/-- The answer to a tour request. -/
structure TourResult where
  plan : IdentifiedPlan
  geoJson : FeatureCollection
  diagnostics : PlanDiagnostics

/-- A result with the digest of its request. -/
structure DigestedTour where
  result : TourResult
  paramsDigest : String

/-- The issues of a list of destinations: their count, then each stop. -/
def destinationIssues (destinations : List Stop) (path : String) : List Issue :=
  check (1 ≤ destinations.length && destinations.length ≤ maxDestinations) path
      ("must contain between 1 and " ++ toString maxDestinations ++ " stops") ++
    destinations.zipIdx.flatMap fun (s, i) => s.issues (Path.index path i)

namespace TourRequest

/-- **The issues of a request.** -/
def issues (r : TourRequest) (path : String) : List Issue :=
  r.origin.issues (Path.field path "origin") ++
    destinationIssues r.destinations (Path.field path "destinations") ++
    (match r.options with
     | some o => o.issues (Path.field path "options")
     | none => [])

/-- The resolved options of a request: the defaults when it gives none. -/
def solverOptions (r : TourRequest) : SolverOptions :=
  (r.options.map SubmittedOptions.resolve).getD SolverOptions.defaults

/-- A request as JSON. -/
def toJson (r : TourRequest) : Value :=
  objectOf [("origin", some r.origin.toJson),
    ("destinations", some (.array (r.destinations.map Stop.toJson))),
    ("options", r.options.map SubmittedOptions.toJson)]

/-- A request from JSON. -/
def ofJson (v : Value) : Decoded TourRequest := do
  let v ← v.asRecord [("origin", false), ("destinations", false), ("options", true)]
  pure ⟨← v.required "origin" Stop.ofJson, ← v.required "destinations" (Value.toList Stop.ofJson),
    ← v.optional "options" SubmittedOptions.ofJson⟩

end TourRequest

namespace IdentifiedPlan

/-- A plan with its identifier as JSON fields: the identifier beside the plan's own fields. -/
def fields (p : IdentifiedPlan) : List (String × Value) :=
  ("routeId", p.routeId.toJson) :: p.plan.fields

/-- A plan with its identifier as JSON. -/
def toJson (p : IdentifiedPlan) : Value := .object p.fields

/-- A plan with its identifier from JSON. -/
def ofJson (v : Value) : Decoded IdentifiedPlan := do
  v.expectObject
  pure ⟨← v.required "routeId" Uuid.ofJson, ← RoutePlan.ofJson v⟩

end IdentifiedPlan

namespace TourResult

/-- **A result** of a plan and its diagnostics, with the plan's drawing. -/
def ofPlan (plan : IdentifiedPlan) (diagnostics : PlanDiagnostics) : TourResult :=
  ⟨plan, plan.plan.drawing, diagnostics⟩

/-- The issues of a result: its plan, its drawing, its diagnostics. -/
def issues (r : TourResult) (path : String) : List Issue :=
  r.plan.plan.issues (Path.field path "plan") ++ r.geoJson.issues (Path.field path "geoJson") ++
    r.diagnostics.issues (Path.field path "diagnostics")

/-- A result as JSON fields. -/
def fields (r : TourResult) : List (String × Value) :=
  [("plan", r.plan.toJson), ("geoJson", r.geoJson.toJson), ("diagnostics", r.diagnostics.toJson)]

/-- A result as JSON. -/
def toJson (r : TourResult) : Value := .object r.fields

/-- A result from JSON. -/
def ofJson (v : Value) : Decoded TourResult := do
  let v ← v.asRecord [("plan", false), ("geoJson", false), ("diagnostics", false)]
  pure ⟨← v.required "plan" IdentifiedPlan.ofJson,
    ← v.required "geoJson" FeatureCollection.ofJson,
    ← v.required "diagnostics" PlanDiagnostics.ofJson⟩

end TourResult

/-- A digested result as JSON: the result's fields beside the digest. -/
def DigestedTour.toJson (t : DigestedTour) : Value :=
  .object (t.result.fields ++ [("paramsDigest", .string t.paramsDigest)])

end RoutePlanner
