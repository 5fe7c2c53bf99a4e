import RoutePlanner.Plan.Fallback
import RoutePlanner.Plan.Digest
import RoutePlanner.Optimizer.Client
import RoutePlanner.Maps.Geocoder
import RoutePlanner.Maps.GeocodeCache
import RoutePlanner.Distance.Cache
import RoutePlanner.History.Store
import RoutePlanner.Text.Blank

/-!
# The engine

The engine answers the service's requests: it plans tours, keeps their history, looks up
distances through a cache, and geocodes addresses through a cache.

* `optimizeRoute` plans a tour with a fallback (`TourRequest.settle`), adds the digest of the
  request's parameters, and saves the route for the user who asked, if one did.
* `findRoute` and `listRoutes` read the history.
* `getDistance` checks the request, then serves the cached entry under its key when there is
  one (a hit, stale or not), and otherwise asks the provider (a miss) and stores a success.
  Hits and misses are counted; an invalid request counts nothing.
* `geocode` trims the address; a blank one is invalid input, and without a geocoder the call is
  a remote-service error. A cached, unexpired address is answered from the cache; otherwise the
  geocoder is asked and a success is cached (`Maps.GeocodeCache.lookupThrough`).

Each operation takes the clock reading it runs at, and the remote services (`Services`) as
functions from a request to their outcome, so an engine run is a function of its inputs. It
returns its answer, the engine after it, and the requests it sent (`Traffic`).
-/

namespace RoutePlanner

open RoutePlanner.Remote

/-- The remote services an engine calls, each as its outcome for a request. -/
structure Services where
  optimizer : Optimizer.Request → Optimizer.Outcome Optimizer.Failure Optimizer.Answer
  distances : DistanceRequest → Instant → Maps.MapsOutcome DistanceResponse
  geocoder : Option (String → Maps.MapsOutcome Coordinates)

/-- What an engine holds between calls. -/
structure Engine where
  history : RouteHistory
  cache : DistanceCache
  metrics : DistanceMetrics
  geocodes : Maps.GeocodeCache

/-- The requests a call sent that reached each service. -/
structure Traffic where
  optimizer : List Call
  distances : List Call
  geocoder : List Call

/-- No requests. -/
def Traffic.none : Traffic := ⟨[], [], []⟩

/-- The answer of a call, the engine after it, and the requests it sent. -/
structure EngineStep (α : Type) where
  answer : Except ServiceError α
  engine : Engine
  traffic : Traffic

namespace Engine

/-- **A new engine**: no history, an empty cache, zero counters, a geocode cache for a day. -/
def new : Engine :=
  ⟨RouteHistory.empty, DistanceCache.empty, ⟨0, 0⟩, ⟨Maps.geocodeTtlMs, Keyed.empty⟩⟩

/-- **Plans a tour** at time `now`, with `freshId` for a fallback plan, and saves it for `user`
if given. -/
def optimizeRoute (e : Engine) (svc : Services) (now : Instant) (freshId : Uuid)
    (user : Option String) (input : TourRequest) : EngineStep DigestedTour :=
  match input.optimizerRequest with
  | .error err => ⟨.error err, e, Traffic.none⟩
  | .ok request =>
    let out := svc.optimizer request
    let traffic : Traffic := ⟨out.delivered, [], []⟩
    match input.settle out.result freshId with
    | .error err => ⟨.error err, e, traffic⟩
    | .ok result =>
      let digest := input.digest
      let history := match user with
        | some u => e.history.save (RouteRecord.ofResult u input digest result e.metrics now)
        | none => e.history
      ⟨.ok ⟨result, digest⟩, { e with history := history }, traffic⟩

/-- **A saved route** of a user, or not found. -/
def findRoute (e : Engine) (user : String) (id : Uuid) : Except ServiceError RouteRecord :=
  match e.history.find? user id with
  | some r => .ok r
  | none => .error ServiceError.notFound

/-- **A page** of a user's saved routes. -/
def listRoutes (e : Engine) (user : String) (limit : Option Int) (cursor : Option Instant) :
    RoutePage :=
  e.history.list user limit cursor

/-- **A distance** at time `now`: from the cache under the request's key, else from the
provider. -/
def getDistance (e : Engine) (svc : Services) (now : Instant) (r : DistanceRequest) :
    EngineStep DistanceResponse :=
  let issues := r.issues ""
  if !issues.isEmpty then ⟨.error (ServiceError.invalidInput issues), e, Traffic.none⟩
  else
    match e.cache.get r now with
    | some cached =>
      ⟨.ok cached, { e with metrics := { e.metrics with hits := e.metrics.hits + 1 } },
        Traffic.none⟩
    | none =>
      let counted := { e with metrics := { e.metrics with misses := e.metrics.misses + 1 } }
      let out := svc.distances r now
      let traffic : Traffic := ⟨[], out.delivered, []⟩
      match out.result with
      | .ok answer => ⟨.ok answer, { counted with cache := counted.cache.put r answer now }, traffic⟩
      | .error f => ⟨.error f.toServiceError, counted, traffic⟩

/-- The distance counters set back to zero. -/
def resetMetrics (e : Engine) : Engine := { e with metrics := ⟨0, 0⟩ }

/-- **The coordinates of an address** at time `now`. -/
def geocode (e : Engine) (svc : Services) (now : Instant) (address : String) :
    EngineStep Coordinates :=
  let a := trimBlanks address
  if a.isEmpty then ⟨.error ServiceError.invalid, e, Traffic.none⟩
  else
    match svc.geocoder with
    | none => ⟨.error ServiceError.remoteFailure, e, Traffic.none⟩
    | some lookup =>
      -- the geocoder behind the cache, with the requests it sends
      let ask (a : String) : StateM (List Call) (Except Maps.Failure Coordinates) := do
        let out := lookup a
        modify (· ++ out.delivered)
        return out.result
      let ((result, cache), delivered) := (e.geocodes.lookupThrough ask a now).run []
      let answer := match result with
        | .ok c => .ok c
        | .error f => .error f.toServiceError
      ⟨answer, { e with geocodes := cache }, ⟨[], [], delivered⟩⟩

end Engine

end RoutePlanner
