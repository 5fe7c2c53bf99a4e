import RoutePlanner.Net.SocketAddress
import RoutePlanner.Text.Blank
import RoutePlanner.Service.Error

/-!
# Configuration

The settings of a running service, read from named variables:

* `OPTIMIZER_SERVICE_URL` (required), the optimiser's base address;
* `OPTIMIZER_TIMEOUT_MS` (default 30000), the time limit of one attempt;
* `OPTIMIZER_RETRY_DELAYS_MS` (default `1000,2000,4000`), comma-separated delays between
  attempts; empty parts are skipped, so a list of commas means no retries;
* `GOOGLE_MAPS_API_KEY` and `GOOGLE_MAPS_API_BASE` (default `maps.googleapis.com`);
* `DATABASE_URL` and `DATABASE_MAX_CONNECTIONS` (default 5);
* `LISTEN_ADDR` (default `127.0.0.1:3000`), a socket address.

A value is trimmed of blanks, and an empty value counts as absent. Numbers are decimal, with an
optional `+`, and must fit their width (64 bits, 32 for the connection count). The variables
are checked in the order above; the first invalid one is reported as a configuration error.
-/

namespace RoutePlanner

open RoutePlanner.Net

/-- The settings of a running service. -/
structure Config where
  optimizerUrl : String
  optimizerTimeoutMs : Nat
  optimizerRetryDelaysMs : List Nat
  googleMapsApiKey : Option String
  googleMapsApiBase : String
  databaseUrl : Option String
  databaseMaxConnections : Nat
  listenAddr : SocketAddress

/-- **A decimal count** below `2 ^ bits`: digits with an optional leading `+`. -/
def parseCount (bits : Nat) (s : String) : Option Nat :=
  let cs := match s.toList with
    | '+' :: r => r
    | r => r
  if !cs.isEmpty && cs.all Char.isDigit then
    let n := Number.digitsValue cs
    if n < Nat.pow 2 bits then some n else none
  else none

/-- The delays of a comma-separated list; empty parts are skipped. -/
def parseDelays (s : String) : Option (List Nat) :=
  ((s.splitOn ",").map trimBlanks |>.filter (!·.isEmpty)).mapM (parseCount 64)

namespace Config

/-- The default delays between attempts. -/
def defaultDelays : List Nat := [1000, 2000, 4000]

/-- A variable's trimmed value; absent when missing or blank. -/
def lookup (vars : List (String × String)) (name : String) : Option String :=
  match vars.find? (·.1 == name) with
  | some (_, v) => let t := trimBlanks v; if t.isEmpty then none else some t
  | none => none

/-- A value read by `f` when present, `d` when absent; an error names the variable. -/
def readOr {α : Type} (vars : List (String × String)) (name : String) (d : α)
    (f : String → Option α) : Except ServiceError α :=
  match lookup vars name with
  | none => .ok d
  | some v =>
    match f v with
    | some a => .ok a
    | none => .error (ServiceError.config name)

/-- **Reads the settings** from named variables. -/
def ofVars (vars : List (String × String)) : Except ServiceError Config := do
  let url ← match lookup vars "OPTIMIZER_SERVICE_URL" with
    | some u => pure u
    | none => throw (ServiceError.config "OPTIMIZER_SERVICE_URL")
  let timeout ← readOr vars "OPTIMIZER_TIMEOUT_MS" 30000 (parseCount 64)
  let delays ← readOr vars "OPTIMIZER_RETRY_DELAYS_MS" defaultDelays parseDelays
  let connections ← readOr vars "DATABASE_MAX_CONNECTIONS" 5 (parseCount 32)
  let listen ← match SocketAddress.parse? ((lookup vars "LISTEN_ADDR").getD "127.0.0.1:3000") with
    | some a => pure a
    | none => throw (ServiceError.config "LISTEN_ADDR")
  pure { optimizerUrl := url, optimizerTimeoutMs := timeout, optimizerRetryDelaysMs := delays
         googleMapsApiKey := lookup vars "GOOGLE_MAPS_API_KEY"
         googleMapsApiBase := (lookup vars "GOOGLE_MAPS_API_BASE").getD "maps.googleapis.com"
         databaseUrl := lookup vars "DATABASE_URL", databaseMaxConnections := connections
         listenAddr := listen }

/-- The names of the variables the settings are read from. -/
def variableNames : List String :=
  ["OPTIMIZER_SERVICE_URL", "OPTIMIZER_TIMEOUT_MS", "OPTIMIZER_RETRY_DELAYS_MS",
    "GOOGLE_MAPS_API_KEY", "GOOGLE_MAPS_API_BASE", "DATABASE_URL", "DATABASE_MAX_CONNECTIONS",
    "LISTEN_ADDR"]

end Config

/-- **The base address of the map services**: trailing slashes removed, and `https://` put in
front unless it starts with `http://` or `https://`. -/
def mapsBaseUrl (base : String) : String :=
  let trimmed := String.ofList ((base.toList.reverse.dropWhile (· = '/')).reverse)
  if trimmed.startsWith "http://" || trimmed.startsWith "https://" then trimmed
  else "https://" ++ trimmed

/-- The number of routes a page holds: 20 when not given, else the request clamped to
`1 … 50`. -/
def clampLimit : Option Int → Nat
  | none => 20
  | some l => (max 1 (min l 50)).toNat

end RoutePlanner
