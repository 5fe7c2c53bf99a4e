import RoutePlanner.Config
import RoutePlanner.Engine
import RoutePlanner.Json.Print

/-!
# Starting the service

What a running service is built from its settings, and how a failed start is reported.

* The optimiser is reached at the configured address, resolved against the default path,
  with the configured time limit and retry delays. With a map-services key, distances and
  geocodes come from the map services at the configured base address, with their own retry
  policies; without one, distances are the fixed ones and there is no geocoder.
* This program opens no network connections: every call to a remote service ends as a
  connection that could not be made, so a tour is planned by the fallback and a distance or a
  geocode by the map services fails as a remote-service error. For the same reason a
  configured database cannot be used, and the start fails with the database error.
* A failed start is reported as `Error: ` followed by the error's fields, the message quoted.
-/

namespace RoutePlanner

open RoutePlanner.Json RoutePlanner.Remote

/-- What a remote service does with every attempt when no connection can be made. -/
def noConnection : Nat → Response := fun _ => .unreachable

/-- **The services of a running service** with settings `c`: the optimiser's address must
resolve, and no database may be configured. -/
def Services.ofConfig (c : Config) : Except ServiceError Services := do
  let endpoint ← Optimizer.Endpoint.make c.optimizerUrl Optimizer.defaultPath []
  if c.databaseUrl.isSome then throw ServiceError.databaseUnavailable
  let policy : RetryPolicy := ⟨c.optimizerTimeoutMs, c.optimizerRetryDelaysMs⟩
  pure
    { optimizer := endpoint.optimize policy noConnection
      distances := match c.googleMapsApiKey with
        | some key => fun r now =>
          Maps.fetchDistance c.googleMapsApiBase key Maps.distancePolicy noConnection now r
        | none => fun _ now => ⟨.ok (Maps.fixedDistance now), []⟩
      geocoder := c.googleMapsApiKey.map fun key =>
        Maps.geocode c.googleMapsApiBase key Maps.geocodePolicy noConnection }

/-- **The services of a running service** from the variables of its environment. -/
def Services.ofVars (vars : List (String × String)) : Except ServiceError Services :=
  Config.ofVars vars >>= Services.ofConfig

/-- A text between double quotes, with quotes, backslashes and line ends escaped. -/
def quotedForReport (s : String) : String :=
  "\"" ++ String.join (s.toList.map fun c =>
    if c = '"' then "\\\"" else if c = '\\' then "\\\\"
    else if c = '\n' then "\\n" else if c = '\r' then "\\r" else if c = '\t' then "\\t"
    else c.toString) ++ "\""

/-- **The report of a failed start**: `Error: Error { code: 1, message: "…", details: None }`;
details, which errors of a start do not carry, would stand as their JSON text. -/
def startupReport (e : ServiceError) : String :=
  let details := match e.details with
    | some v => "Some(" ++ v.render ++ ")"
    | none => "None"
  "Error: Error \x7b code: " ++ toString e.code ++ ", message: " ++ quotedForReport e.message ++
    ", details: " ++ details ++ " \x7d"

end RoutePlanner
