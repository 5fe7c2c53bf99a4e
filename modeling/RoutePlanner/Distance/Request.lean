import RoutePlanner.Geo.Coordinates
import RoutePlanner.Time.Read

/-!
# Distance lookups

A `DistanceRequest` asks for the travel distance and time from one point to another, by a
travel mode, optionally at a departure time and with a traffic model and a unit system. Absent
choices mean driving, best guess and metric. A request is valid when both points are.

The answer, `DistanceResponse`, gives whole metres and seconds, the provider, when it was
fetched and until when it may be used, where it came from (the provider or the cache), and its
freshness. The cache keeps a `CacheEntry` per key: the same facts with a status, of which
`error` marks an entry that must not be served as fresh.
-/

namespace RoutePlanner

open RoutePlanner.Json

/-- How one travels. -/
inductive TravelMode where
  | driving
  | walking
  | bicycling
  | transit
  deriving DecidableEq, Repr

/-- Which traffic prediction to use. -/
inductive TrafficModel where
  | bestGuess
  | optimistic
  | pessimistic
  deriving DecidableEq, Repr

/-- Which units the provider should use. -/
inductive UnitSystem where
  | metric
  | imperial
  deriving DecidableEq, Repr

/-- The freshness of an answer. -/
inductive Freshness where
  | fresh
  | expired
  /-- just fetched from the provider -/
  | fetched
  deriving DecidableEq, Repr

/-- Where an answer came from. -/
inductive Source where
  | cache
  | api
  deriving DecidableEq, Repr

/-- The status of a cache entry. -/
inductive CacheStatus where
  | fresh
  | expired
  | error
  deriving DecidableEq, Repr

/-- The provider options of a request. -/
structure DistanceOptions where
  trafficModel : Option TrafficModel := none
  unitSystem : Option UnitSystem := none

/-- A lookup from one point to another. -/
structure DistanceRequest where
  origin : Coordinates
  destination : Coordinates
  mode : Option TravelMode := none
  departureTime : Option Instant := none
  options : Option DistanceOptions := none

/-- The answer to a lookup. -/
structure DistanceResponse where
  distanceMeters : Nat
  durationSeconds : Nat
  freshness : Freshness
  provider : String
  requestedAt : Instant
  expiresAt : Instant
  source : Source

/-- What the cache keeps per key. -/
structure CacheEntry where
  distanceMeters : Nat
  durationSeconds : Nat
  provider : String
  requestedAt : Instant
  expiresAt : Instant
  status : CacheStatus

namespace TravelMode

/-- The mode's name. -/
def name : TravelMode → String
  | .driving => "driving"
  | .walking => "walking"
  | .bicycling => "bicycling"
  | .transit => "transit"

/-- A mode from JSON. -/
def ofJson : Value → Decoded TravelMode :=
  Value.toChoice ([.driving, .walking, .bicycling, .transit].map fun m => (m.name, m))

end TravelMode

namespace TrafficModel

/-- The model's name. -/
def name : TrafficModel → String
  | .bestGuess => "best_guess"
  | .optimistic => "optimistic"
  | .pessimistic => "pessimistic"

/-- A model from JSON. -/
def ofJson : Value → Decoded TrafficModel :=
  Value.toChoice ([.bestGuess, .optimistic, .pessimistic].map fun m => (m.name, m))

end TrafficModel

namespace UnitSystem

/-- The unit system's name. -/
def name : UnitSystem → String
  | .metric => "metric"
  | .imperial => "imperial"

/-- A unit system from JSON. -/
def ofJson : Value → Decoded UnitSystem :=
  Value.toChoice ([.metric, .imperial].map fun u => (u.name, u))

end UnitSystem

/-- A freshness's name. -/
def Freshness.name : Freshness → String
  | .fresh => "fresh"
  | .expired => "expired"
  | .fetched => "fetched"

/-- A source's name. -/
def Source.name : Source → String
  | .cache => "cache"
  | .api => "api"

/-- A status's name. -/
def CacheStatus.name : CacheStatus → String
  | .fresh => "fresh"
  | .expired => "expired"
  | .error => "error"

namespace DistanceRequest

/-- The travel mode, driving when absent. -/
def travelMode (r : DistanceRequest) : TravelMode := r.mode.getD .driving

/-- The traffic model, best guess when absent. -/
def traffic (r : DistanceRequest) : TrafficModel :=
  (r.options.bind (·.trafficModel)).getD .bestGuess

/-- The unit system, metric when absent. -/
def units (r : DistanceRequest) : UnitSystem :=
  (r.options.bind (·.unitSystem)).getD .metric

/-- The issues of a request: both points. -/
def issues (r : DistanceRequest) (path : String) : List Issue :=
  r.origin.issues (Path.field path "origin") ++ r.destination.issues (Path.field path "destination")

/-- A request as JSON; absent fields are left out. -/
def toJson (r : DistanceRequest) : Value :=
  objectOf [("origin", some r.origin.toJson), ("destination", some r.destination.toJson),
    ("mode", r.mode.map fun m => .string m.name),
    ("departureTime", r.departureTime.map Instant.toJson),
    ("options", r.options.map fun o => objectOf [
      ("trafficModel", o.trafficModel.map fun m => .string m.name),
      ("unitSystem", o.unitSystem.map fun u => .string u.name)])]

/-- Provider options from JSON. -/
def optionsOfJson (v : Value) : Decoded DistanceOptions := do
  let v ← v.asRecord [("trafficModel", true), ("unitSystem", true)]
  pure ⟨← v.optional "trafficModel" TrafficModel.ofJson, ← v.optional "unitSystem" UnitSystem.ofJson⟩

/-- A request from JSON. -/
def ofJson (v : Value) : Decoded DistanceRequest := do
  let v ← v.asRecord [("origin", false), ("destination", false), ("mode", true),
    ("departureTime", true), ("options", true)]
  pure ⟨← v.required "origin" Coordinates.ofJson, ← v.required "destination" Coordinates.ofJson,
    ← v.optional "mode" TravelMode.ofJson, ← v.optional "departureTime" Instant.ofJson,
    ← v.optional "options" optionsOfJson⟩

/-- **How a request is read straight from text**: the two points, then the optional mode,
departure time and provider options, each choice by its names. -/
def schema : Schema :=
  let choice (names : List String) : Schema := .optional (.choice names)
  .record [("origin", Coordinates.schema, false), ("destination", Coordinates.schema, false),
    ("mode", choice ([TravelMode.driving, .walking, .bicycling, .transit].map TravelMode.name),
      true),
    ("departureTime", .optional (.text fun s => (Instant.parse? s).isSome), true),
    ("options", .optional (.record
      [("trafficModel", choice ([TrafficModel.bestGuess, .optimistic, .pessimistic].map
          TrafficModel.name), true),
        ("unitSystem", choice ([UnitSystem.metric, .imperial].map UnitSystem.name), true)] true),
      true)] true

end DistanceRequest

namespace DistanceResponse

/-- A response as JSON. -/
def toJson (r : DistanceResponse) : Value :=
  .object [("distanceMeters", .ofNat r.distanceMeters), ("durationSeconds", .ofNat r.durationSeconds),
    ("freshness", .string r.freshness.name), ("provider", .string r.provider),
    ("requestedAt", r.requestedAt.toJson), ("expiresAt", r.expiresAt.toJson),
    ("source", .string r.source.name)]

/-- A response from JSON. -/
def ofJson (v : Value) : Decoded DistanceResponse := do
  let v ← v.asRecord [("distanceMeters", false), ("durationSeconds", false),
    ("freshness", false), ("provider", false), ("requestedAt", false), ("expiresAt", false),
    ("source", false)]
  pure ⟨← v.required "distanceMeters" (Value.toCount 64),
    ← v.required "durationSeconds" (Value.toCount 64),
    ← v.required "freshness" (Value.toChoice [("fresh", .fresh), ("expired", .expired),
      ("fetched", .fetched)]),
    ← v.required "provider" Value.toStr, ← v.required "requestedAt" Instant.ofJson,
    ← v.required "expiresAt" Instant.ofJson,
    ← v.required "source" (Value.toChoice [("cache", .cache), ("api", .api)])⟩

end DistanceResponse

namespace CacheEntry

/-- The entry kept for a response: the same facts, marked fresh. -/
def ofResponse (r : DistanceResponse) : CacheEntry :=
  ⟨r.distanceMeters, r.durationSeconds, r.provider, r.requestedAt, r.expiresAt, .fresh⟩

/-- **Freshness at a time**: expired when marked as an error or when the expiry is not after
`now`, fresh otherwise. -/
def freshnessAt (e : CacheEntry) (now : Instant) : Freshness :=
  if e.status == .error || e.expiresAt.le now then .expired else .fresh

/-- The answer served from the cache at `now`. -/
def toResponse (e : CacheEntry) (now : Instant) : DistanceResponse :=
  ⟨e.distanceMeters, e.durationSeconds, e.freshnessAt now, e.provider, e.requestedAt,
    e.expiresAt, .cache⟩

/-- An entry as JSON. -/
def toJson (e : CacheEntry) : Value :=
  .object [("distanceMeters", .ofNat e.distanceMeters), ("durationSeconds", .ofNat e.durationSeconds),
    ("provider", .string e.provider), ("requestedAt", e.requestedAt.toJson),
    ("expiresAt", e.expiresAt.toJson), ("status", .string e.status.name)]

/-- An entry from JSON. -/
def ofJson (v : Value) : Decoded CacheEntry := do
  let v ← v.asRecord [("distanceMeters", false), ("durationSeconds", false),
    ("provider", false), ("requestedAt", false), ("expiresAt", false), ("status", false)]
  pure ⟨← v.required "distanceMeters" (Value.toCount 64),
    ← v.required "durationSeconds" (Value.toCount 64), ← v.required "provider" Value.toStr,
    ← v.required "requestedAt" Instant.ofJson, ← v.required "expiresAt" Instant.ofJson,
    ← v.required "status" (Value.toChoice [("fresh", .fresh), ("expired", .expired),
      ("error", .error)])⟩

end CacheEntry

end RoutePlanner
