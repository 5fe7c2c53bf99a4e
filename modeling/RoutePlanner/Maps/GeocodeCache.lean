import RoutePlanner.Store.Keyed
import RoutePlanner.Geo.Coordinates
import RoutePlanner.Time.Instant
import RoutePlanner.Maps.Failure

/-!
# The geocode cache

Coordinates by address, each kept for a fixed time to live. A write at time `t` keeps the
coordinates until `t + ttl`; a read at time `now` finds them while `now ≤ t + ttl`. A read that
finds an expired entry drops it, so the size can shrink on a read, but what reads return is the
same as if expired entries were never dropped (`get_fst`).

A time to live must lie within the range of durations, `± (2 ^ 63 - 1)` ms, and a write whose
expiry would fall outside the calendar fails; both are refused with `none`.

A geocoder behind the cache (`lookupThrough`) is asked only for an address the cache does not
answer, and only its successes are written to the cache.
-/

namespace RoutePlanner.Maps

/-- The time to live of geocoded addresses unless configured: 24 hours, in milliseconds. -/
def geocodeTtlMs : Int := 24 * 3600 * 1000

/-- Coordinates by address with their expiry. -/
structure GeocodeCache where
  ttlMs : Int
  entries : Keyed (Coordinates × Instant)

namespace GeocodeCache

/-- **An empty cache** with a time to live in milliseconds, if it is a duration. -/
def withTtl? (ttlMs : Int) : Option GeocodeCache :=
  if -(Int.pow 2 63 - 1) ≤ ttlMs ∧ ttlMs ≤ Int.pow 2 63 - 1 then some ⟨ttlMs, Keyed.empty⟩ else none

/-- The number of addresses held, expired or not. -/
def size (c : GeocodeCache) : Nat := c.entries.size

/-- The cache emptied. -/
def clear (c : GeocodeCache) : GeocodeCache := ⟨c.ttlMs, Keyed.empty⟩

/-- **A write** of an address's coordinates at time `now`, expiring `ttlMs` later; `none` when
the expiry falls outside the calendar. -/
def set? (c : GeocodeCache) (address : String) (coords : Coordinates) (now : Instant) :
    Option GeocodeCache :=
  let expires := now.addMillis c.ttlMs
  if expires.inRange then some ⟨c.ttlMs, c.entries.insert address (coords, expires)⟩ else none

/-- The coordinates under an address at time `now`, if they have not expired. -/
def lookup (c : GeocodeCache) (address : String) (now : Instant) : Option Coordinates :=
  match c.entries.find? address with
  | some (coords, expires) => if now.le expires then some coords else none
  | none => none

/-- **A read** at time `now`: the coordinates if not expired, and the cache without the entry
if it has. -/
def get (c : GeocodeCache) (address : String) (now : Instant) : Option Coordinates × GeocodeCache :=
  match c.entries.find? address with
  | some (coords, expires) =>
    if now.le expires then (some coords, c) else (none, ⟨c.ttlMs, c.entries.erase address⟩)
  | none => (none, c)

/-- **A lookup through the cache** at time `now`, with `inner` the geocoder behind it: an address
whose coordinates are held and unexpired is answered from the cache; otherwise `inner` is asked,
and the coordinates it finds are written to the cache. A failure is not written, and neither is
a write whose expiry would fall outside the calendar. -/
def lookupThrough {m : Type → Type} [Monad m] (c : GeocodeCache)
    (inner : String → m (Except Failure Coordinates)) (address : String) (now : Instant) :
    m (Except Failure Coordinates × GeocodeCache) :=
  match c.get address now with
  | (some coords, read) => pure (.ok coords, read)
  | (none, read) => do
    match ← inner address with
    | .ok coords => pure (.ok coords, (read.set? address coords now).getD read)
    | .error f => pure (.error f, read)

/-- **Dropping expired entries is not seen by reads**: a read returns what `lookup` says. -/
theorem get_fst (c : GeocodeCache) (address : String) (now : Instant) :
    (c.get address now).1 = c.lookup address now := by
  unfold get lookup
  split
  · split <;> rfl
  · rfl

end GeocodeCache

end RoutePlanner.Maps
