import RoutePlanner.Maps.Failure
import RoutePlanner.Distance.Request
import RoutePlanner.Remote.Exchange
import RoutePlanner.Number.Arith
import RoutePlanner.Json.Parse
import RoutePlanner.Config

/-!
# Distances from the distance-matrix service

A distance request is sent as a GET to `<base>/maps/api/distancematrix/json` with the query
`origins`, `destinations`, `mode` and `key`, then `traffic_model` and `units` when the request
gives them, then `departure_time` in Unix seconds when it gives one. The same query is sent on
every attempt.

Each attempt is classified (`classifyDistance`):

* no connection is a network failure, no answer in time a timeout;
* a 4xx status is an invalid request, any other status but 200 a server error;
* a body that does not decode is a decoding failure: the answer is read as derived records
  read it (`decodeDocument`), each record from an object or from an array of its fields in
  order, and a record that gives one of its fields twice does not decode;
* the body's status: over a limit is a rate-limit failure; an invalid, denied or too large
  request an invalid request; anything else but `OK` a server error (`api error: …`), each with
  the service's message or else the status;
* the first element of the first row: none, or one whose status is not `OK`, means no route;
  one without distance or duration is an invalid request;
* otherwise the distance and duration, each at least zero and rounded half away from zero.

A success is a fetched response of the provider `google_distance_matrix`, requested now and
expiring in 24 hours. Server errors, rate limits, network failures and timeouts are retried.
The fixed provider answers every request with 5000 m and 600 s.
-/

namespace RoutePlanner.Maps

open RoutePlanner.Json RoutePlanner.Remote RoutePlanner.Number

/-- The provider name of fetched distances. -/
def distanceProvider : String := "google_distance_matrix"

/-- The provider name of the fixed distances. -/
def fixedProvider : String := "google_distance_matrix_mock"

/-- How long a fetched distance stays fresh, in hours. -/
def cacheTtlHours : Nat := 24

/-- The distance client's policy unless configured: 10 s per attempt, waits of 1, 4, 10 s. -/
def distancePolicy : RetryPolicy := ⟨10000, [1000, 4000, 10000]⟩

/-- **A fetched distance**, requested at `now` and expiring `cacheTtlHours` later. -/
def fetchedDistance (provider : String) (meters seconds : Nat) (now : Instant) :
    DistanceResponse :=
  ⟨meters, seconds, .fetched, provider, now, now.addMillis (cacheTtlHours * 3600 * 1000), .api⟩

/-- The address of the distance-matrix service under a base. -/
def distanceUrl (base : String) : String := mapsBaseUrl base ++ "/maps/api/distancematrix/json"

/-- **The query of a distance request.** -/
def distanceQuery (r : DistanceRequest) (key : String) : List (String × String) :=
  let options := match r.options with
    | some o =>
      (o.trafficModel.map fun t => ("traffic_model", t.name)).toList ++
        (o.unitSystem.map fun u => ("units", u.name)).toList
    | none => []
  [("origins", r.origin.text), ("destinations", r.destination.text),
    ("mode", r.travelMode.name), ("key", key)] ++ options ++
    (r.departureTime.map fun t => ("departure_time", toString t.seconds)).toList

/-- One element of the answer: its status and the distance and duration it gives. -/
structure MatrixElement where
  status : String
  distance : Option Float
  duration : Option Float

/-- The answer of the distance-matrix service. -/
structure MatrixAnswer where
  status : String
  errorMessage : Option String
  rows : List (List MatrixElement)

/-- A measured value `{"value": x}`. -/
def measuredValue (v : Value) : Decoded Float := do
  let v ← v.asRecord [("value", false)]
  v.required "value" Value.toFloat

/-- An element from JSON. -/
def MatrixElement.ofJson (v : Value) : Decoded MatrixElement := do
  let v ← v.asRecord [("status", false), ("distance", false), ("duration", false)]
  pure ⟨← v.required "status" Value.toStr, ← v.optional "distance" measuredValue,
    ← v.optional "duration" measuredValue⟩

/-- A row from JSON: its elements. -/
def matrixRow (v : Value) : Decoded (List MatrixElement) := do
  let v ← v.asRecord [("elements", false)]
  v.required "elements" (Value.toList MatrixElement.ofJson)

/-- An answer from JSON; missing rows are none. -/
def MatrixAnswer.ofJson (v : Value) : Decoded MatrixAnswer := do
  let v ← v.asRecord [("status", false), ("error_message", false), ("rows", true)]
  pure ⟨← v.required "status" Value.toStr, ← v.optional "error_message" Value.toStr,
    ← v.withDefault "rows" [] (Value.toList matrixRow)⟩

/-- **The distance and duration in an answer**, or the failure it reports. -/
def MatrixAnswer.metrics (a : MatrixAnswer) : Except (ErrorCode × String) (Nat × Nat) := do
  let detail := a.errorMessage.getD a.status
  match a.status with
  | "OK" => pure ()
  | "OVER_QUERY_LIMIT" | "OVER_DAILY_LIMIT" => throw (.rateLimit, "rate limit exceeded: " ++ detail)
  | "INVALID_REQUEST" | "REQUEST_DENIED" | "MAX_ELEMENTS_EXCEEDED" =>
    throw (.invalidRequest, "invalid request: " ++ detail)
  | other => throw (.serverError, "api error: " ++ other ++ " - " ++ detail)
  let element ← match a.rows.head?.bind List.head? with
    | some e => if e.status = "OK" then pure e else throw (.notFound, "no route found: " ++ e.status)
    | none => throw (.notFound, "no route found: UNKNOWN")
  match element.distance, element.duration with
  | some d, some t => pure (roundMetric d, roundMetric t)
  | _, _ => throw (.invalidRequest, "missing distance or duration in response")

/-- **One attempt at a distance**, classified. -/
def classifyDistance (timeoutMs attempt : Nat) : Response → Except Failure (Nat × Nat)
  | .unreachable => .error (Failure.unreachable attempt)
  | .silent => .error (Failure.timedOut attempt timeoutMs)
  | .answered status body =>
    if 400 ≤ status ∧ status < 500 then
      .error { Failure.ofCode .invalidRequest ("google api returned " ++ toString status) attempt
               with status := some status }
    else if status ≠ 200 then
      .error { Failure.ofCode .serverError ("google api server error: " ++ toString status) attempt
               with status := some status }
    else
      match decodeDocument MatrixAnswer.ofJson body with
      | .error _ => .error (Failure.undecodable attempt)
      | .ok a =>
        match a.metrics with
        | .ok m => .ok m
        | .error (code, message) => .error (Failure.ofCode code message attempt)

/-- The outcome of a call to a map service: its result and the requests that reached it. -/
structure MapsOutcome (α : Type) where
  result : Except Failure α
  delivered : List Call

/-- The requests of `attempts` attempts that reached the service. -/
def reachedCalls (call : Call) (answer : Nat → Response) (attempts : Nat) : List Call :=
  ((List.range attempts).filter fun i => answer (i + 1) ≠ .unreachable).map fun _ => call

/-- **A distance from the service** at `base` with `key`, where `answer n` is what the service
does with attempt `n` and `now` is the clock when it succeeds. -/
def fetchDistance (base key : String) (policy : RetryPolicy) (answer : Nat → Response)
    (now : Instant) (r : DistanceRequest) : MapsOutcome DistanceResponse :=
  let call : Call := ⟨"GET", distanceUrl base, distanceQuery r key, [], none⟩
  let run := retry Failure.retryable policy fun n => classifyDistance policy.timeoutMs n (answer n)
  ⟨run.result.map (fun (m, s) => fetchedDistance distanceProvider m s now),
    reachedCalls call answer run.attempts⟩

/-- **The fixed distance**: 5000 m and 600 s for every request. -/
def fixedDistance (now : Instant) : DistanceResponse :=
  fetchedDistance fixedProvider 5000 600 now

end RoutePlanner.Maps
