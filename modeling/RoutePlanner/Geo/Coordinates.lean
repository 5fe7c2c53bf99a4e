import RoutePlanner.Validation.Issue
import RoutePlanner.Json.Decode
import RoutePlanner.Json.Stream

/-!
# Coordinates and stops

A point on the globe in degrees, and a stop to visit: a point with an identifier and an
optional label. A point is valid when its latitude lies in `[-90, 90]` and its longitude in
`[-180, 180]`; a stop also needs a non-empty identifier, and a label that is not empty when
it is given.

The text of a point (`Coordinates.text`) is latitude and longitude in plain decimal text,
separated by a comma; the map services read points in this form.
-/

namespace RoutePlanner

open RoutePlanner.Number RoutePlanner.Json

/-- A point on the globe, in degrees. -/
structure Coordinates where
  lat : Float
  lng : Float

/-- A stop to visit. -/
structure Stop where
  id : String
  label : Option String
  lat : Float
  lng : Float

namespace Coordinates

/-- Latitude and longitude in plain decimal text, joined by a comma. -/
def text (c : Coordinates) : String := plainText c.lat ++ "," ++ plainText c.lng

/-- The issues of a point: each degree within its range. -/
def issues (c : Coordinates) (path : String) : List Issue :=
  checkRange c.lat (-90.0) 90.0 (Path.field path "lat") ++
    checkRange c.lng (-180.0) 180.0 (Path.field path "lng")

/-- A point as JSON. -/
def toJson (c : Coordinates) : Value :=
  .object [("lat", .ofFloat c.lat), ("lng", .ofFloat c.lng)]

/-- A point from JSON. -/
def ofJson (v : Value) : Decoded Coordinates := do
  let v ← v.asRecord [("lat", false), ("lng", false)]
  pure ⟨← v.required "lat" Value.toFloat, ← v.required "lng" Value.toFloat⟩

/-- How a point is read straight from text: a record of two numbers. -/
def schema : Schema := .record [("lat", .number, false), ("lng", .number, false)] true

end Coordinates

namespace Stop

/-- Where the stop is. -/
def coordinates (s : Stop) : Coordinates := ⟨s.lat, s.lng⟩

/-- The issues of a stop: identifier, label, then its point. -/
def issues (s : Stop) (path : String) : List Issue :=
  checkNonEmpty s.id (Path.field path "id") ++
    (match s.label with
     | some l => checkNonEmpty l (Path.field path "label")
     | none => []) ++
    s.coordinates.issues path

/-- A stop as JSON; an absent label is left out. -/
def toJson (s : Stop) : Value :=
  objectOf [("id", some (.string s.id)), ("label", s.label.map .string),
    ("lat", some (.ofFloat s.lat)), ("lng", some (.ofFloat s.lng))]

/-- A stop from JSON. -/
def ofJson (v : Value) : Decoded Stop := do
  let v ← v.asRecord [("id", false), ("label", true), ("lat", false), ("lng", false)]
  pure ⟨← v.required "id" Value.toStr, ← v.optional "label" Value.toStr,
    ← v.required "lat" Value.toFloat, ← v.required "lng" Value.toFloat⟩

end Stop

end RoutePlanner
