import RoutePlanner.Plan.Request

/-!
# The optimiser's contract

What the library sends the optimiser (`Optimizer.Request`) and what it accepts back
(`Optimizer.Answer`), in the library's own terms.

A request names the origin, the destinations, optionally a matrix of leg costs, and the
resolved solver options. A `DistanceMatrix` holds metres and seconds between every pair of
places (row and column 0 are the origin, then the destinations in order); it is valid when both
tables are `n × n` for the same `n ≥ 1`, every row has a value, and every value is finite and
not negative. A request is valid when its origin, destinations, matrix and options are.

An answer is a plan under a route identifier with the optimiser's diagnostics; it is valid when
its plan and its diagnostics are.
-/

namespace RoutePlanner.Optimizer

open RoutePlanner.Json

/-- Leg costs between every pair of places. -/
structure DistanceMatrix where
  meters : List (List Float)
  seconds : List (List Float)

/-- What the library sends the optimiser. -/
structure Request where
  origin : Coordinates
  destinations : List Stop
  distanceMatrix : Option DistanceMatrix
  options : SolverOptions

/-- A solved tour as the optimiser reports it. -/
structure Answer where
  routeId : Uuid
  plan : RoutePlan
  diagnostics : Diagnostics

namespace DistanceMatrix

/-- The issues of the values of a row from column `col` on. -/
def valueIssues (rowPath : String) : Nat → List Float → List Issue
  | _, [] => []
  | col, v :: vs => checkNonNegative v (Path.index rowPath col) ++ valueIssues rowPath (col + 1) vs

/-- The issues of one table: rows present and all as long as the first, values finite and not
negative, and as many rows as columns. -/
def squareIssues (table : List (List Float)) (path : String) : List Issue :=
  match table with
  | [] => [⟨path, "must contain at least one row"⟩]
  | first :: _ =>
    let columns := first.length
    (table.zipIdx.flatMap fun (row, i) =>
      let rowPath := Path.index path i
      check (!row.isEmpty) rowPath "must contain at least one value" ++
        check (row.length == columns) rowPath "all rows in the matrix must have the same length" ++
        valueIssues rowPath 0 row) ++
      check (columns == table.length) path "matrix must be square (rows == columns)"

/-- **The issues of a matrix**: each table, then their agreement row by row. -/
def issues (m : DistanceMatrix) (path : String) : List Issue :=
  let secondsPath := Path.field path "seconds"
  squareIssues m.meters (Path.field path "meters") ++ squareIssues m.seconds secondsPath ++
    if m.meters.length != m.seconds.length then
      [⟨path, "meters and seconds must have the same dimensions"⟩]
    else
      (m.meters.zip m.seconds).zipIdx.flatMap fun ((a, b), i) =>
        check (a.length == b.length) (Path.index secondsPath i)
          "meters and seconds rows must have the same length"

/-- A table as JSON. -/
def tableJson (t : List (List Float)) : Value := .array (t.map fun r => .array (r.map .ofFloat))

/-- A matrix as JSON. -/
def toJson (m : DistanceMatrix) : Value :=
  .object [("meters", tableJson m.meters), ("seconds", tableJson m.seconds)]

/-- A matrix from JSON. -/
def ofJson (v : Value) : Decoded DistanceMatrix := do
  let v ← v.asRecord [("meters", false), ("seconds", false)]
  let table := Value.toList (Value.toList Value.toFloat)
  pure ⟨← v.required "meters" table, ← v.required "seconds" table⟩

end DistanceMatrix

namespace Request

/-- The request for a tour request: its origin's point, its destinations, its resolved
options, and no matrix. -/
def ofTour (r : TourRequest) : Request :=
  ⟨r.origin.coordinates, r.destinations, none, r.solverOptions⟩

/-- **The issues of a request.** -/
def issues (r : Request) (path : String) : List Issue :=
  r.origin.issues (Path.field path "origin") ++
    destinationIssues r.destinations (Path.field path "destinations") ++
    (match r.distanceMatrix with
     | some m => m.issues (Path.field path "distanceMatrix")
     | none => []) ++
    r.options.issues (Path.field path "options")

/-- A request from JSON; absent options are the defaults. -/
def ofJson (v : Value) : Decoded Request := do
  let v ← v.asRecord [("origin", false), ("destinations", false), ("distanceMatrix", true),
    ("options", true)]
  pure ⟨← v.required "origin" Coordinates.ofJson,
    ← v.required "destinations" (Value.toList Stop.ofJson),
    ← v.optional "distanceMatrix" DistanceMatrix.ofJson,
    ← v.withDefault "options" SolverOptions.defaults SolverOptions.ofJson⟩

/-- A request in the optimiser's wire format. -/
def toWire (r : Request) : Value :=
  objectOf [("origin", some r.origin.toJson),
    ("destinations", some (.array (r.destinations.map Stop.toJson))),
    ("distance_matrix", r.distanceMatrix.map DistanceMatrix.toJson),
    ("options", some r.options.toWire)]

end Request

namespace Answer

/-- The issues of an answer: its plan at the root, then its diagnostics. -/
def issues (a : Answer) (path : String) : List Issue :=
  a.plan.issues path ++ a.diagnostics.issues (Path.field path "diagnostics")

/-- An answer as JSON: identifier and diagnostics beside the plan's fields. -/
def toJson (a : Answer) : Value :=
  .object (("routeId", a.routeId.toJson) :: a.plan.fields ++ [("diagnostics", a.diagnostics.toJson)])

/-- An answer from JSON. -/
def ofJson (v : Value) : Decoded Answer := do
  v.expectObject
  pure ⟨← v.required "routeId" Uuid.ofJson, ← RoutePlan.ofJson v,
    ← v.required "diagnostics" Diagnostics.ofJson⟩

end Answer

end RoutePlanner.Optimizer
