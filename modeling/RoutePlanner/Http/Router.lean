import RoutePlanner.Engine
import RoutePlanner.Http.Form
import RoutePlanner.Http.Target
import RoutePlanner.Json.Parse
import RoutePlanner.Net.MediaType

/-!
# The HTTP surface

The engine's operations over HTTP, each request answered with a status, a JSON body or none,
and a request identifier.

| method and path | operation |
|---|---|
| `GET /routes?userId=…&limit=…&cursor=…` | a page of saved routes |
| `POST /routes/optimize` | plan a tour (JSON: `userId` beside the tour request) |
| `GET /routes/<id>?userId=…` | one saved route |
| `POST /distances` | a distance (JSON request) |
| `GET`, `DELETE /distances/metrics` | the cache counters, or their reset (204) |
| `GET /geocode?address=…` | the coordinates of an address |

A request is routed by the path of its target (`Target.path`), whatever the target's form. A
path that names no route is 404, and one with an extra trailing slash is redirected (308) to
the same target without that slash; a method the path does not take is 405; `HEAD` is
answered as `GET`, body included, which the connection then leaves out (`Response.wire`). A
JSON body needs a JSON content type (`isJsonContentType`, else 415) and is
read straight from its text, where the first fault decides: 400 when the text is not JSON,
422 when it is of the wrong shape (`bodyRejection`). Query fields of the wrong shape are 422,
and a route identifier that is not one is 400. An error of the engine is answered with its
status and body (`ServiceError.httpStatus`).

The request identifier is the caller's `x-request-id` when it is non-empty visible text, and a
fresh identifier otherwise. Identifiers are given to requests that reach a route or the 404
answer; the redirect of a trailing slash is answered before that, and carries none.
-/

namespace RoutePlanner.Http

open RoutePlanner.Json

/-- A request: method, target, headers with lower-case names, and body. -/
structure Request where
  method : String
  target : Target
  headers : List (String × String)
  body : String

/-- A response: status, JSON body if any, the request identifier if one was given, and the
target of a redirect. -/
structure Response where
  status : Nat
  body : Option Value
  requestId : Option String
  location : Option String

/-- The routes of the service. -/
inductive Route where
  | listRoutes
  | optimize
  | findRoute (id : String)
  | distances
  | metrics
  | geocode
  deriving DecidableEq, Repr

/-- **The route of a path**, read segment by segment as written. -/
def Route.ofPath (path : String) : Option Route :=
  match path.splitOn "/" with
  | ["", "routes"] => some .listRoutes
  | ["", "routes", "optimize"] => some .optimize
  | ["", "routes", id] => if id.isEmpty then none else some (.findRoute id)
  | ["", "distances"] => some .distances
  | ["", "distances", "metrics"] => some .metrics
  | ["", "geocode"] => some .geocode
  | _ => none

/-- The methods a route takes. -/
def Route.methods : Route → List String
  | .listRoutes | .findRoute _ | .geocode => ["GET", "HEAD"]
  | .optimize | .distances => ["POST"]
  | .metrics => ["GET", "HEAD", "DELETE"]

/-- The value of a header. -/
def Request.header? (r : Request) (name : String) : Option String :=
  r.headers.lookup name

/-- The path of a request, as its route is matched. -/
def Request.path (r : Request) : String := r.target.path

/-- The query of a request, empty when there is none. -/
def Request.query (r : Request) : String := r.target.query.getD ""

/-- **A request from its parts**, or `none` when they cannot form one: the method must be a
token, the target must read (`Target.parse?`), and every header needs a token for its name and
a header value; names are kept in lower case. -/
def Request.build? (method target : String) (headers : List (String × String)) (body : String) :
    Option Request := do
  if !Net.isHeaderName method then none
  let target ← Target.parse? target
  if !headers.all fun (k, v) => Net.isHeaderName k && Net.isHeaderValue v then none
  pure ⟨method, target, headers.map fun (k, v) => (Net.headerKey k, v), body⟩

/-- Whether a header value is visible text: printable ASCII or tabs. -/
def isVisibleText (s : String) : Bool :=
  s.toList.all fun c => c = '\t' || (0x20 ≤ c.toNat && c.toNat < 0x7F)

/-- **The identifier of a request**: the caller's when non-empty visible text, else `fresh`. -/
def Request.requestId (r : Request) (fresh : Uuid) : String :=
  match r.header? "x-request-id" with
  | some v => if !v.isEmpty && isVisibleText v then v else fresh.toText
  | none => fresh.toText

/-- Whether a content type names JSON: visible text (`isVisibleText`) that reads as a media
type (`Net.MediaType.parse?`) which is JSON (`Net.MediaType.isJson`). -/
def isJsonContentType (value : String) : Bool :=
  isVisibleText value && ((Net.MediaType.parse? value).map Net.MediaType.isJson).getD false

/-- **Why a request body was refused**, as a status: 415 without a JSON content type; else the
body is read as a value of `shape` straight from its text, and the first fault in the order of
the text decides: 400 when the text is not JSON, 422 when it is JSON of the wrong shape. A
value read whole is then decoded (422 when it does not fit), and only then is text after it
refused (400). -/
def bodyRejection {α : Type} (r : Request) (schema : Schema) (decode : Value → Decoded α) :
    Except Nat α :=
  if !((r.header? "content-type").map isJsonContentType).getD false then .error 415
  else
    match readShapedText schema r.body, readDocument r.body with
    | .error .malformed, _ => .error 400
    | .error .misshapen, _ => .error 422
    | .ok _, .error _ => .error 400
    | .ok _, .ok (v, rest) =>
      match decode v with
      | .ok a => if (skipBlanks rest).isEmpty then .ok a else .error 400
      | .error _ => .error 422

/-- What serving a request gives: the response without its identifier, the engine after it,
and the requests sent. -/
structure Served where
  status : Nat
  body : Option Value
  engine : Engine
  traffic : Traffic

/-- A reply that leaves the engine as it is. -/
def Served.plain (e : Engine) (status : Nat) (body : Option Value) : Served :=
  ⟨status, body, e, Traffic.none⟩

/-- The reply to an engine step: 200 with its answer as JSON, or its error. -/
def Served.ofStep {α : Type} (toJson : α → Value) (step : EngineStep α) : Served :=
  match step.answer with
  | .ok a => ⟨200, some (toJson a), step.engine, step.traffic⟩
  | .error err => ⟨err.httpStatus, some err.httpBody, step.engine, step.traffic⟩

/-- The parameters of a tour request over HTTP: the user beside the request. -/
def optimizeParams (v : Value) : Decoded (Option String × TourRequest) := do
  let v ← v.asObjectRecord ["userId"]
  pure (← v.optional "userId" Value.toStr, ← TourRequest.ofJson v)

/-- How the parameters of a tour request are read straight from text: an object whose
`userId` is read as it comes and whose other fields are kept for the tour request. -/
def optimizeSchema : Schema :=
  .record [("userId", .optional (.text fun _ => true), false)] false

/-- **Serves a route** with a method allowed for it. -/
def serveRoute (e : Engine) (svc : Services) (now : Instant) (freshId : Uuid) (r : Request) :
    Route → Served
  | .optimize =>
    match bodyRejection r optimizeSchema optimizeParams with
    | .error status => Served.plain e status none
    | .ok (user, input) => Served.ofStep DigestedTour.toJson (e.optimizeRoute svc now freshId user input)
  | .listRoutes =>
    let pairs := formPairs r.query
    match (do pure (← requiredField pairs "userId", ← intField pairs "limit",
        ← instantField pairs "cursor") : Except String _) with
    | .error _ => Served.plain e 422 none
    | .ok (user, limit, cursor) => Served.plain e 200 (some (e.listRoutes user limit cursor).toJson)
  | .findRoute id =>
    let decoded := String.fromUTF8? (ByteArray.mk (Net.percentDecodeBytes id.toUTF8.toList).toArray)
    match decoded.bind Uuid.parse? with
    | none => Served.plain e 400 none
    | some routeId =>
      match requiredField (formPairs r.query) "userId" with
      | .error _ => Served.plain e 422 none
      | .ok user =>
        match e.findRoute user routeId with
        | .ok record => Served.plain e 200 (some record.toJson)
        | .error err => Served.plain e err.httpStatus (some err.httpBody)
  | .distances =>
    match bodyRejection r DistanceRequest.schema DistanceRequest.ofJson with
    | .error status => Served.plain e status none
    | .ok request => Served.ofStep DistanceResponse.toJson (e.getDistance svc now request)
  | .metrics =>
    if r.method = "DELETE" then Served.plain e.resetMetrics 204 none
    else Served.plain e 200 (some e.metrics.toJson)
  | .geocode =>
    match requiredField (formPairs r.query) "address" with
    | .error _ => Served.plain e 422 none
    | .ok address => Served.ofStep Coordinates.toJson (e.geocode svc now address)

/-- **Serves a request** at time `now`; `freshId` names a fallback plan and `freshRequest` a
request that brings no identifier. -/
def serve (e : Engine) (svc : Services) (now : Instant) (freshId freshRequest : Uuid)
    (r : Request) : Response × Engine × Traffic :=
  let id := some (r.requestId freshRequest)
  let path := r.path
  match Route.ofPath path with
  | some route =>
    let served :=
      if route.methods.contains r.method then
        serveRoute e svc now freshId { r with method := if r.method = "HEAD" then "GET" else r.method } route
      else Served.plain e 405 none
    (⟨served.status, served.body, id, none⟩, served.engine, served.traffic)
  | none =>
    let trimmed := (path.dropEnd 1).toString
    if path.endsWith "/" && (Route.ofPath trimmed).isSome then
      (⟨308, none, none, some (r.target.withPath trimmed).text⟩, e, Traffic.none)
    else (⟨404, none, id, none⟩, e, Traffic.none)

end RoutePlanner.Http
