import RoutePlanner.Geo.Coordinates

/-!
# Great-circle distance and travel time

The haversine distance between two points on a sphere of the Earth's mean radius, and a
travel time at a flat city speed of about 50 km/h. Both are computed in doubles, step by
step in a fixed order, so that equal inputs give equal bits.
-/

namespace RoutePlanner

/-- The Earth's mean radius in metres. -/
def earthRadius : Float := 6371000.0

/-- The flat city speed in metres per second. -/
def citySpeed : Float := 13.8889

/-- Radians in one degree. -/
def radiansPerDegree : Float := 3.141592653589793 / 180.0

/-- Degrees to radians. -/
def toRadians (x : Float) : Float := x * radiansPerDegree

/-- **Haversine distance** in metres:
`2R · asin √(sin²(Δlat/2) + cos lat₁ · cos lat₂ · sin²(Δlng/2))`. -/
def haversine (a b : Coordinates) : Float :=
  let lat1 := toRadians a.lat
  let lat2 := toRadians b.lat
  let dLat := lat2 - lat1
  let dLng := toRadians (b.lng - a.lng)
  let s := Float.sin (dLat / 2.0)
  let t := Float.sin (dLng / 2.0)
  let h := s * s + Float.cos lat1 * Float.cos lat2 * (t * t)
  2.0 * earthRadius * Float.asin (Float.sqrt h)

/-- **Travel time** in seconds for a distance at the city speed; nothing for a distance that
is not positive. -/
def estimateDuration (meters : Float) : Float :=
  if meters ≤ 0.0 then 0.0 else meters / citySpeed

end RoutePlanner
