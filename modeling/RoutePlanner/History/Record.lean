import RoutePlanner.Plan.Request
import RoutePlanner.Time.Instant

/-!
# Saved routes

A saved optimisation (`RouteRecord`) keeps who asked and when, which planner made the plan
(the optimiser, or the nearest-neighbour fallback), the origin, the ordered stops and totals,
the digest of the request's parameters, the options as submitted, the diagnostics, and the
distance-cache counters at the time it was saved. Its creation time is kept to the microsecond,
so that a cursor made from it reads back exactly.

A `RouteSummary` is the short form that lists show, and a `RoutePage` is one page of summaries
with the cursor of the next page, if any.
-/

namespace RoutePlanner

open RoutePlanner.Json

/-- The planner that made a saved plan. -/
inductive Algorithm where
  | optimizer
  | nearestNeighbor
  deriving DecidableEq, Repr

/-- The planner's name. -/
def Algorithm.name : Algorithm → String
  | .optimizer => "optimizer"
  | .nearestNeighbor => "nearest_neighbor"

/-- Hits and misses of the distance cache. -/
structure DistanceMetrics where
  hits : Nat
  misses : Nat
  deriving DecidableEq, Repr

/-- Counters as JSON. -/
def DistanceMetrics.toJson (m : DistanceMetrics) : Value :=
  .object [("hits", .ofNat m.hits), ("misses", .ofNat m.misses)]

/-- An instant cut to whole microseconds. -/
def Instant.truncMicros (t : Instant) : Instant := ⟨t.seconds, t.nanos / 1000 * 1000⟩

/-- A saved optimisation. -/
structure RouteRecord where
  routeId : Uuid
  userId : String
  createdAt : Instant
  algorithm : Algorithm
  origin : Stop
  orderedStops : List OrderedStop
  totalDistanceM : Nat
  totalDurationS : Nat
  paramsDigest : String
  options : Option SubmittedOptions
  diagnostics : PlanDiagnostics
  distanceCache : DistanceMetrics

/-- The short form of a saved optimisation. -/
structure RouteSummary where
  routeId : Uuid
  createdAt : Instant
  algorithm : Algorithm
  destinationCount : Nat
  totalDistanceM : Nat
  totalDurationS : Nat
  paramsDigest : String
  diagnostics : PlanDiagnostics

/-- One page of summaries, newest first, with the cursor of the next page. -/
structure RoutePage where
  routes : List RouteSummary
  nextCursor : Option Instant

namespace RouteRecord

/-- **The record of a result** for a user, made at time `now`: the fallback planner when the
result fell back, else the optimiser. -/
def ofResult (user : String) (input : TourRequest) (digest : String) (result : TourResult)
    (metrics : DistanceMetrics) (now : Instant) : RouteRecord :=
  { routeId := result.plan.routeId, userId := user, createdAt := now.truncMicros
    algorithm := if result.diagnostics.fallbackUsed then .nearestNeighbor else .optimizer
    origin := input.origin, orderedStops := result.plan.plan.orderedStops
    totalDistanceM := result.plan.plan.totalDistanceM
    totalDurationS := result.plan.plan.totalDurationS, paramsDigest := digest
    options := input.options, diagnostics := result.diagnostics, distanceCache := metrics }

/-- The number of destinations: the stops after the origin. -/
def destinationCount (r : RouteRecord) : Nat := r.orderedStops.length - 1

/-- The summary of a record. -/
def summary (r : RouteRecord) : RouteSummary :=
  ⟨r.routeId, r.createdAt, r.algorithm, r.destinationCount, r.totalDistanceM, r.totalDurationS,
    r.paramsDigest, r.diagnostics⟩

/-- A record as JSON. -/
def toJson (r : RouteRecord) : Value :=
  .object [("routeId", r.routeId.toJson), ("userId", .string r.userId),
    ("createdAt", r.createdAt.toJson), ("algorithm", .string r.algorithm.name),
    ("origin", r.origin.toJson), ("orderedStops", .array (r.orderedStops.map OrderedStop.toJson)),
    ("totalDistanceM", .ofNat r.totalDistanceM), ("totalDurationS", .ofNat r.totalDurationS),
    ("paramsDigest", .string r.paramsDigest),
    ("options", Value.ofOption SubmittedOptions.toJson r.options),
    ("diagnostics", r.diagnostics.toJson), ("distanceCache", r.distanceCache.toJson)]

end RouteRecord

/-- A summary as JSON. -/
def RouteSummary.toJson (s : RouteSummary) : Value :=
  .object [("routeId", s.routeId.toJson), ("createdAt", s.createdAt.toJson),
    ("algorithm", .string s.algorithm.name), ("destinationCount", .ofNat s.destinationCount),
    ("totalDistanceM", .ofNat s.totalDistanceM), ("totalDurationS", .ofNat s.totalDurationS),
    ("paramsDigest", .string s.paramsDigest), ("diagnostics", s.diagnostics.toJson)]

/-- A page as JSON. -/
def RoutePage.toJson (p : RoutePage) : Value :=
  .object [("routes", .array (p.routes.map RouteSummary.toJson)),
    ("nextCursor", Value.ofOption Instant.toJson p.nextCursor)]

end RoutePlanner
