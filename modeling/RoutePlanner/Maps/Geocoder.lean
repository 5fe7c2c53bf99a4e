import RoutePlanner.Maps.DistanceMatrix
import RoutePlanner.Geo.Coordinates

/-!
# Coordinates from the geocoding service

An address is looked up with a GET to `<base>/maps/api/geocode/json` with the query `address`
and `key`. Each attempt is classified (`classifyGeocode`):

* no connection is a network failure, no answer in time a timeout;
* a 2xx status goes on to the body; 429 is a rate-limit failure, 5xx a server error and any
  other status an invalid request, each `geocode HTTP <status> for "<address>"`;
* a body that does not decode, read as derived records read it (`decodeDocument`), is a
  decoding failure;
* the body's status: `ZERO_RESULTS` is not found, over a limit a rate-limit failure, a denied or
  invalid request an invalid request, anything else but `OK` a server error;
* `OK` gives the location of the first result, and a server error when there is none.

Only rate limits, server errors and network failures are retried: unlike the codes' own rule,
a timed-out lookup is not tried again.
-/

namespace RoutePlanner.Maps

open RoutePlanner.Json RoutePlanner.Remote

/-- The geocoder's policy unless configured: 6 s per attempt, waits of 0.5 and 1.5 s. -/
def geocodePolicy : RetryPolicy := ⟨6000, [500, 1500]⟩

/-- The address of the geocoding service under a base. -/
def geocodeUrl (base : String) : String := mapsBaseUrl base ++ "/maps/api/geocode/json"

/-- **Whether a failed lookup is tried again**: rate limits, server errors and network
failures, not timeouts. -/
def geocodeRetryable (f : Failure) : Bool :=
  match f.code with
  | .rateLimit | .serverError | .network => true
  | _ => false

/-- The answer of the geocoding service. -/
structure GeocodeAnswer where
  status : String
  errorMessage : Option String
  locations : List Coordinates

/-- The location of one result: its geometry's location. -/
def resultLocation (v : Value) : Decoded Coordinates := do
  let v ← v.asRecord [("geometry", false)]
  v.required "geometry" fun g => do
    let g ← g.asRecord [("location", false)]
    g.required "location" Coordinates.ofJson

/-- An answer from JSON; missing results are none. -/
def GeocodeAnswer.ofJson (v : Value) : Decoded GeocodeAnswer := do
  let v ← v.asRecord [("status", false), ("error_message", false), ("results", true)]
  pure ⟨← v.required "status" Value.toStr, ← v.optional "error_message" Value.toStr,
    ← v.withDefault "results" [] (Value.toList resultLocation)⟩

/-- `"<address>"` in double quotes. -/
def quoted (address : String) : String := "\"" ++ address ++ "\""

/-- **The coordinates in an answer**, or the failure it reports. -/
def GeocodeAnswer.coordinates (a : GeocodeAnswer) (address : String) :
    Except (ErrorCode × String) Coordinates :=
  match a.status with
  | "OK" =>
    match a.locations.head? with
    | some c => .ok c
    | none => .error (.serverError, "missing coordinates in geocode response for " ++ quoted address)
  | "ZERO_RESULTS" => .error (.notFound, "could not locate " ++ quoted address)
  | "OVER_QUERY_LIMIT" | "OVER_DAILY_LIMIT" =>
    .error (.rateLimit, "geocode rate limit exceeded for " ++ quoted address)
  | "REQUEST_DENIED" | "INVALID_REQUEST" =>
    .error (.invalidRequest, a.errorMessage.getD ("invalid geocode request for " ++ quoted address))
  | other => .error (.serverError, a.errorMessage.getD ("geocode failed with status " ++ other))

/-- The code of a status other than 2xx. -/
def geocodeStatusCode (status : Nat) : ErrorCode :=
  if status = 429 then .rateLimit
  else if 500 ≤ status ∧ status < 600 then .serverError
  else .invalidRequest

/-- **One lookup attempt**, classified. -/
def classifyGeocode (address : String) (timeoutMs attempt : Nat) :
    Response → Except Failure Coordinates
  | .unreachable => .error (Failure.unreachable attempt)
  | .silent => .error (Failure.timedOut attempt timeoutMs)
  | .answered status body =>
    if 200 ≤ status ∧ status < 300 then
      match decodeDocument GeocodeAnswer.ofJson body with
      | .error _ => .error (Failure.undecodable attempt)
      | .ok a =>
        match a.coordinates address with
        | .ok c => .ok c
        | .error (code, message) => .error (Failure.ofCode code message attempt)
    else
      .error { Failure.ofCode (geocodeStatusCode status)
                 ("geocode HTTP " ++ toString status ++ " for " ++ quoted address) attempt
               with status := some status }

/-- **The coordinates of an address** from the service at `base` with `key`, where `answer n`
is what the service does with attempt `n`. -/
def geocode (base key : String) (policy : RetryPolicy) (answer : Nat → Response)
    (address : String) : MapsOutcome Coordinates :=
  let call : Call := ⟨"GET", geocodeUrl base, [("address", address), ("key", key)], [], none⟩
  let run := retry geocodeRetryable policy fun n =>
    classifyGeocode address policy.timeoutMs n (answer n)
  ⟨run.result, reachedCalls call answer run.attempts⟩

end RoutePlanner.Maps
