import RoutePlanner.Distance.Request
import RoutePlanner.Number.Fixed
import RoutePlanner.Hash.Sha256

/-!
# Cache keys of distance lookups

Lookups that differ only by noise share a cache key. Each degree is cut to six places
(`to_fixed`), and a degree that rounds to all zeros loses its sign, so `-0.0000001` and `0`
agree. The departure time is floored to its five-minute window, counted from the epoch with
floor division, so the windows also tile the time before 1970. The key is the SHA-256 of
`origin|destination|mode|window|traffic|units`, the window written with milliseconds.

The fingerprint of a request hashes its provider options alone.
-/

namespace RoutePlanner

open RoutePlanner.Number

/-- The length of a departure window in seconds. -/
def bucketSeconds : Int := 300

/-- **The start of the five-minute window** holding an instant. -/
def bucketStart (t : Instant) : Instant :=
  ((Instant.ofSeconds? (t.seconds / bucketSeconds * bucketSeconds)).getD t)

/-- A degree cut to six places, without the sign of an all-zero result. -/
def normalDegree (x : Float) : String :=
  let s := toFixed x 6
  let unsigned := s.toList.dropWhile (· = '-')
  if unsigned.all fun c => c = '0' || c = '.' then String.ofList unsigned else s

/-- A point cut to six places. -/
def normalPoint (c : Coordinates) : String := normalDegree c.lat ++ "," ++ normalDegree c.lng

/-- The text hashed into the key of a request departing in the window starting at `bucket`. -/
def DistanceRequest.keyText (r : DistanceRequest) (bucket : Instant) : String :=
  "|".intercalate [normalPoint r.origin, normalPoint r.destination, r.travelMode.name,
    bucket.millisText, r.traffic.name, r.units.name]

/-- **The cache key** of a request, with `now` standing in for an absent departure time. -/
def DistanceRequest.cacheKey (r : DistanceRequest) (now : Instant) : String :=
  Hash.sha256Hex (r.keyText (bucketStart (r.departureTime.getD now)))

/-- **The fingerprint** of a request's provider options. -/
def DistanceRequest.fingerprint (r : DistanceRequest) : String :=
  Hash.sha256Hex ("\x7b\"trafficModel\":\"" ++ r.traffic.name ++ "\",\"unitSystem\":\"" ++
    r.units.name ++ "\"\x7d")

end RoutePlanner
