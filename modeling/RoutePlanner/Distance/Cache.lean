import RoutePlanner.Distance.Key
import RoutePlanner.Store.Keyed

/-!
# The distance cache

Cached distances, keyed by the cache key of their request (`DistanceRequest.cacheKey`), at most
one entry per key: a write under a key replaces what was there. Reading gives the stored entry
as an answer from the cache, fresh or expired at the time of the read; an expired entry is
still served, and only a key never written (since the last clear) is a miss.

The key of a request without departure time depends on the clock, so reads and writes take the
time they happen at. `get_putEntry` says a write is read back at the same time.
-/

namespace RoutePlanner

/-- Cache entries by key. -/
structure DistanceCache where
  entries : Keyed CacheEntry

namespace DistanceCache

/-- The empty cache. -/
def empty : DistanceCache := ⟨Keyed.empty⟩

/-- The number of keys held. -/
def size (c : DistanceCache) : Nat := c.entries.size

/-- **A write for a request**, at time `now`: the entry as given, status included. -/
def putEntry (c : DistanceCache) (r : DistanceRequest) (e : CacheEntry) (now : Instant) :
    DistanceCache :=
  ⟨c.entries.insert (r.cacheKey now) e⟩

/-- **A write of an answer** for a request, at time `now`, as a fresh entry. -/
def put (c : DistanceCache) (r : DistanceRequest) (answer : DistanceResponse) (now : Instant) :
    DistanceCache :=
  c.putEntry r (CacheEntry.ofResponse answer) now

/-- **A read** for a request at time `now`: the stored entry, served from the cache. -/
def get (c : DistanceCache) (r : DistanceRequest) (now : Instant) : Option DistanceResponse :=
  (c.entries.find? (r.cacheKey now)).map (·.toResponse now)

/-- **A write is read back** under the same key, as an answer from the cache. -/
theorem get_putEntry (c : DistanceCache) (r : DistanceRequest) (e : CacheEntry) (now : Instant) :
    (c.putEntry r e now).get r now = some (e.toResponse now) := by
  simp [putEntry, get]

end DistanceCache

end RoutePlanner
