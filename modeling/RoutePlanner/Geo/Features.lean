import RoutePlanner.Validation.Issue
import RoutePlanner.Json.Decode

/-!
# GeoJSON feature collections

The part of GeoJSON that routes are drawn with: a collection of features, each with an
optional geometry, optional properties, an optional identifier and an optional bounding box.
Points and line strings are kept with their positions; the other geometry kinds are read and
checked for shape but kept only by name (`Shape.other`), since no route uses them.

Reading follows the GeoJSON grammar strictly: every object needs its `type`; a feature needs a
`geometry` member (which may be `null`); properties are an object or `null`; an identifier is a
string or a number; a bounding box is an array of numbers, or `null` for none; a position is
an array of at least two numbers.

`FeatureCollection.issues` states what a drawn route looks like: every feature a Point with a
two-number position and a `sequence` property, or a LineString with at least two positions and
properties, and exactly one LineString in all.
-/

namespace RoutePlanner

open RoutePlanner.Json

/-- A position: longitude, latitude, and possibly more numbers. -/
abbrev Position := List Float

/-- The geometry of a feature. -/
inductive Shape where
  | point (position : Position)
  | lineString (positions : List Position)
  /-- any other GeoJSON geometry, by its type name -/
  | other (kind : String)

/-- A GeoJSON feature. -/
structure Feature where
  geometry : Option Shape
  properties : Option (List (String × Value))
  id : Option Value
  bbox : Option (List Float)

/-- A GeoJSON feature collection. -/
structure FeatureCollection where
  features : List Feature
  bbox : Option (List Float)

namespace Shape

/-- A position from JSON. -/
def readPosition : Value → Decoded Position
  | .array xs =>
    if xs.length < 2 then .error "position too short" else xs.mapM Value.toFloat
  | _ => .error "expected an array"

/-- A list of positions from JSON. -/
def readLine (v : Value) : Decoded (List Position) := v.toList readPosition

/-- The `type` member of a GeoJSON object. -/
def typeOf (v : Value) : Decoded String :=
  match v.field? "type" with
  | some (.string s) => .ok s
  | some _ => .error "expected a string type"
  | none => .error "expected property type"

/-- The bounding box member, when present and not `null`: an array of numbers. -/
def readBbox (v : Value) : Decoded (Option (List Float)) :=
  match v.field? "bbox" with
  | none | some .null => .ok none
  | some (.array xs) => some <$> xs.mapM Value.toFloat
  | some _ => .error "bbox expected an array"

/-- A member that must be present. -/
def member (v : Value) (key : String) : Decoded Value :=
  match v.field? key with
  | some x => .ok x
  | none => .error ("expected property " ++ key)

/-- A geometry object, reading nested collections down to `fuel` levels. -/
def readWithin : Nat → Value → Decoded Shape
  | 0, _ => .error "geometry nested too deeply"
  | fuel + 1, v => do
    let .object _ := v | .error "expected an object"
    let _ ← readBbox v
    match ← typeOf v with
    | "Point" => .point <$> readPosition (← member v "coordinates")
    | "MultiPoint" => do let _ ← readLine (← member v "coordinates"); pure (.other "MultiPoint")
    | "LineString" => .lineString <$> readLine (← member v "coordinates")
    | "MultiLineString" => do
      let _ ← (← member v "coordinates").toList readLine; pure (.other "MultiLineString")
    | "Polygon" => do
      let _ ← (← member v "coordinates").toList readLine; pure (.other "Polygon")
    | "MultiPolygon" => do
      let _ ← (← member v "coordinates").toList (·.toList readLine); pure (.other "MultiPolygon")
    | "GeometryCollection" => do
      let _ ← (← member v "geometries").toList (readWithin fuel)
      pure (.other "GeometryCollection")
    | t => .error ("unknown geometry type " ++ t)

/-- A geometry object from JSON. -/
def ofJson (v : Value) : Decoded Shape := readWithin (v.depth + 1) v

/-- A geometry as JSON. -/
def toJson : Shape → Value
  | .point p => .object [("type", .string "Point"), ("coordinates", .array (p.map .ofFloat))]
  | .lineString ps =>
    .object [("type", .string "LineString"),
      ("coordinates", .array (ps.map fun p => .array (p.map .ofFloat)))]
  | .other kind => .object [("type", .string kind)]

end Shape

namespace Feature

/-- Whether the feature has a property named `key`. -/
def hasProperty (f : Feature) (key : String) : Bool :=
  match f.properties with
  | some props => props.any (·.1 == key)
  | none => false

/-- A feature from JSON. -/
def ofJson (v : Value) : Decoded Feature := do
  let .object _ := v | .error "expected an object"
  let t ← Shape.typeOf v
  if t != "Feature" then throw ("not a feature: " ++ t)
  let geometry ← match ← Shape.member v "geometry" with
    | .null => pure none
    | g@(.object _) => some <$> Shape.ofJson g
    | _ => throw "invalid geometry"
  let properties ← match v.field? "properties" with
    | none | some .null => pure none
    | some (.object fs) => pure (some fs)
    | some _ => throw "properties expected an object or null"
  let id ← match v.field? "id" with
    | none => pure none
    | some x@(.string _) | some x@(.number _) => pure (some x)
    | some _ => throw "invalid identifier"
  pure ⟨geometry, properties, id, ← Shape.readBbox v⟩

/-- A feature as JSON. -/
def toJson (f : Feature) : Value :=
  objectOf [("type", some (.string "Feature")),
    ("geometry", some ((f.geometry.map Shape.toJson).getD .null)),
    ("properties", some ((f.properties.map .object).getD .null)),
    ("bbox", f.bbox.map fun b => .array (b.map .ofFloat)), ("id", f.id)]

/-- The issues of a feature of a drawn route. -/
def issues (f : Feature) (path : String) : List Issue :=
  match f.geometry with
  | some (.point pos) =>
    check (pos.length == 2) path "a Point needs a [lng, lat] position" ++
      check (f.hasProperty "sequence") (Path.field path "properties") "a stop needs a sequence"
  | some (.lineString ps) =>
    check (2 ≤ ps.length) path "a LineString needs at least two positions" ++
      check f.properties.isSome (Path.field path "properties") "a route line needs its totals"
  | some (.other _) => [⟨path, "only Point and LineString are used"⟩]
  | none => [⟨path, "geometry is missing"⟩]

/-- Whether the feature is a line string. -/
def isLine (f : Feature) : Bool :=
  match f.geometry with
  | some (.lineString _) => true
  | _ => false

end Feature

namespace FeatureCollection

/-- A collection from JSON. -/
def ofJson (v : Value) : Decoded FeatureCollection := do
  let .object _ := v | .error "expected an object"
  let t ← Shape.typeOf v
  if t != "FeatureCollection" then throw ("expected type FeatureCollection, found " ++ t)
  let bbox ← Shape.readBbox v
  let features ← (← Shape.member v "features").toList Feature.ofJson
  pure ⟨features, bbox⟩

/-- A collection as JSON. -/
def toJson (c : FeatureCollection) : Value :=
  objectOf [("type", some (.string "FeatureCollection")),
    ("features", some (.array (c.features.map Feature.toJson))),
    ("bbox", c.bbox.map fun b => .array (b.map .ofFloat))]

/-- **The issues of a drawn route**: each feature, then the count of line strings. -/
def issues (c : FeatureCollection) (path : String) : List Issue :=
  let featuresPath := Path.field path "features"
  (c.features.zipIdx.flatMap fun (f, i) => f.issues (Path.index featuresPath i)) ++
    check ((c.features.filter Feature.isLine).length == 1) featuresPath
      "must contain exactly one LineString"

end FeatureCollection

end RoutePlanner
