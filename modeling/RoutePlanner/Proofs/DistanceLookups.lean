import RoutePlanner.Engine

/-!
# Cache-first distance lookups

The distance side of an engine is a small state machine: a cache of entries by key and two
counters. A lookup is checked first; an invalid one is invalid input (101) and touches
nothing. A valid lookup is keyed by its request with the departure time pinned to the call's
clock reading when the request gives none (`DistanceRequest.pinned`), so the key no longer
depends on the clock: a write made later under the pinned request lands under the key that was
read (`cacheKey_pinned`).

* **A hit** — the cache holds the key. The stored entry is served from the cache, fresh when it
  is not marked as an error and has not expired, expired otherwise; an expired entry is still a
  hit. Only the hit counter moves, and the provider is not asked.
* **A miss** — the cache lacks the key. Only the miss counter moves, and the provider is asked
  once with the request as given. Its answer is written under the key, replacing whatever was
  there; a failure is passed on and the cache stays as it was.
* **A reset** sets both counters to zero and leaves the cache alone.

Main statements: `getDistance_rules` states the rules of one call on any engine, hence of every
call along any sequence; `distanceRun_counted` and `distanceRun_keeps_keys` follow a whole run of
calls: every valid lookup since the last reset counts exactly once, whatever the cache holds
and the provider does, and no entry ever leaves the cache.
-/

namespace RoutePlanner

/-! ### Pinned requests and served entries -/

/-- **The request as keyed**: its departure time, or `now` when it gives none. -/
def DistanceRequest.pinned (r : DistanceRequest) (now : Instant) : DistanceRequest :=
  { r with departureTime := some (r.departureTime.getD now) }

/-- **The key of a pinned request does not depend on the clock**: it is the key of the request
at the reading it was pinned to. -/
theorem DistanceRequest.cacheKey_pinned (r : DistanceRequest) (now t : Instant) :
    (r.pinned now).cacheKey t = r.cacheKey now := by
  simp [DistanceRequest.cacheKey, DistanceRequest.pinned, DistanceRequest.keyText,
    DistanceRequest.travelMode, DistanceRequest.traffic, DistanceRequest.units]

namespace CacheEntry

/-- **An entry served at `now`** is fresh exactly when it is not marked as an error and expires
after `now`, and expired otherwise. -/
theorem freshnessAt_eq (e : CacheEntry) (now : Instant) :
    e.freshnessAt now =
      if e.status ≠ .error ∧ now.lt e.expiresAt = true then .fresh else .expired := by
  by_cases hs : e.status = .error
  · simp [freshnessAt, hs]
  · cases hlt : now.lt e.expiresAt <;> simp [freshnessAt, Instant.le, hs, hlt]

/-- An entry is served as an answer from the cache, with its freshness at the time served. -/
@[simp] theorem toResponse_source (e : CacheEntry) (now : Instant) :
    (e.toResponse now).source = .cache := rfl

@[simp] theorem toResponse_freshness (e : CacheEntry) (now : Instant) :
    (e.toResponse now).freshness = e.freshnessAt now := rfl

end CacheEntry

/-! ### One call -/

namespace Engine

variable (e : Engine) (svc : Services) (now : Instant) (r : DistanceRequest)

/-- The engine with one more hit counted. -/
def countHit : Engine := { e with metrics := ⟨e.metrics.hits + 1, e.metrics.misses⟩ }

/-- The engine with one more miss counted. -/
def countMiss : Engine := { e with metrics := ⟨e.metrics.hits, e.metrics.misses + 1⟩ }

/-- An invalid request is refused with its issues, and the engine is left as it was. -/
theorem getDistance_of_invalid (h : r.issues "" ≠ []) :
    e.getDistance svc now r = ⟨.error (ServiceError.invalidInput (r.issues "")), e, Traffic.none⟩ := by
  have hne : (r.issues "").isEmpty = false := List.isEmpty_eq_false_iff.mpr h
  simp [getDistance, hne]

/-- A valid request whose key the cache holds is served from the cache as a hit. -/
theorem getDistance_of_hit (hv : r.issues "" = []) {entry : CacheEntry}
    (hk : e.cache.entries.find? (r.cacheKey now) = some entry) :
    e.getDistance svc now r = ⟨.ok (entry.toResponse now), e.countHit, Traffic.none⟩ := by
  simp [getDistance, hv, DistanceCache.get, hk, countHit]

/-- A valid request whose key the cache lacks asks the provider once, as a miss, and stores a
success. -/
theorem getDistance_of_miss (hv : r.issues "" = [])
    (hk : e.cache.entries.find? (r.cacheKey now) = none) :
    e.getDistance svc now r =
      match (svc.distances r now).result with
      | .ok answer =>
        ⟨.ok answer, { e.countMiss with cache := e.cache.put r answer now },
          ⟨[], (svc.distances r now).delivered, []⟩⟩
      | .error f => ⟨.error f.toServiceError, e.countMiss, ⟨[], (svc.distances r now).delivered, []⟩⟩ := by
  simp only [getDistance, hv, List.isEmpty_nil, Bool.not_true, Bool.false_eq_true, ite_false,
    DistanceCache.get, hk, Option.map_none]
  rfl

/-- **A write lands under the pinned key**, whatever the clock reads when it is made, and
changes no other key. -/
theorem find?_put (answer : DistanceResponse) (t : Instant) (k : String) :
    (e.cache.put r answer now).entries.find? k =
      if k = (r.pinned now).cacheKey t then some (CacheEntry.ofResponse answer)
      else e.cache.entries.find? k := by
  simp [DistanceCache.put, DistanceCache.putEntry, DistanceRequest.cacheKey_pinned]

/-- **The rules of the distance side**, for one call on any engine and so for every call of
any sequence. An invalid request is invalid input (101) that changes nothing and asks no one.
For a valid request keyed by `r.cacheKey now` (its departure pinned to `now` when absent): a
key the cache holds is a hit that serves the stored entry, fresh exactly when it is not marked
as an error and expires after `now`, counts one hit and asks no one; a key it lacks is a miss
that counts one miss and asks the provider once with `r` itself, then stores a success under
the pinned key, whatever the clock reads by then, or passes a failure on and keeps the cache.
A reset zeroes both counters and keeps everything else. -/
theorem getDistance_rules :
    (r.issues "" ≠ [] →
      (e.getDistance svc now r).answer = .error (ServiceError.invalidInput (r.issues "")) ∧
        (ServiceError.invalidInput (r.issues "")).code = 101 ∧
        (e.getDistance svc now r).engine = e ∧ (e.getDistance svc now r).traffic = Traffic.none) ∧
    (r.issues "" = [] → ∀ entry, e.cache.entries.find? (r.cacheKey now) = some entry →
      (e.getDistance svc now r).answer = .ok (entry.toResponse now) ∧
        (entry.toResponse now).source = .cache ∧
        (entry.toResponse now).freshness =
          (if entry.status ≠ .error ∧ now.lt entry.expiresAt = true then .fresh else .expired) ∧
        (e.getDistance svc now r).engine =
          { e with metrics := ⟨e.metrics.hits + 1, e.metrics.misses⟩ } ∧
        (e.getDistance svc now r).traffic = Traffic.none) ∧
    (r.issues "" = [] → e.cache.entries.find? (r.cacheKey now) = none →
      (e.getDistance svc now r).engine.metrics = ⟨e.metrics.hits, e.metrics.misses + 1⟩ ∧
        (e.getDistance svc now r).engine.history = e.history ∧
        (e.getDistance svc now r).engine.geocodes = e.geocodes ∧
        (e.getDistance svc now r).traffic = ⟨[], (svc.distances r now).delivered, []⟩ ∧
        (∀ answer, (svc.distances r now).result = .ok answer →
          (e.getDistance svc now r).answer = .ok answer ∧
            ∀ t k, (e.getDistance svc now r).engine.cache.entries.find? k =
              if k = (r.pinned now).cacheKey t then some (CacheEntry.ofResponse answer)
              else e.cache.entries.find? k) ∧
        (∀ f, (svc.distances r now).result = .error f →
          (e.getDistance svc now r).answer = .error f.toServiceError ∧
            (e.getDistance svc now r).engine.cache = e.cache)) ∧
    e.resetMetrics = { e with metrics := ⟨0, 0⟩ } := by
  refine ⟨fun h => ?_, fun hv entry hk => ?_, fun hv hk => ?_, rfl⟩
  · rw [getDistance_of_invalid e svc now r h]
    exact ⟨rfl, rfl, rfl, rfl⟩
  · rw [getDistance_of_hit e svc now r hv hk]
    exact ⟨rfl, rfl, entry.freshnessAt_eq now, rfl, rfl⟩
  · rw [getDistance_of_miss e svc now r hv hk]
    -- the two outcomes of the provider share the counting, the frame and the traffic
    cases hout : (svc.distances r now).result with
    | ok answer =>
      refine ⟨rfl, rfl, rfl, rfl, fun a ha => ?_, fun f hf => by cases hf⟩
      cases ha
      exact ⟨rfl, fun t k => find?_put e now r answer t k⟩
    | error f =>
      refine ⟨rfl, rfl, rfl, rfl, ?_, ?_⟩
      · intro a ha
        cases ha
      · intro f' hf
        cases hf
        exact ⟨rfl, rfl⟩

/-! ### A run of calls -/

/-- A call on the distance side of an engine: a lookup at a clock reading, or a reset of the
counters. -/
inductive DistanceCall where
  | lookup (now : Instant) (r : DistanceRequest)
  | reset

/-- The engine after one call. -/
def distanceStep (svc : Services) (e : Engine) : DistanceCall → Engine
  | .lookup now r => (e.getDistance svc now r).engine
  | .reset => e.resetMetrics

/-- The engine after a run of calls, in order. -/
def distanceRun (svc : Services) (e : Engine) (calls : List DistanceCall) : Engine :=
  calls.foldl (distanceStep svc) e

/-- The lookups a run counts, starting from `total`: each valid lookup once, an invalid one
never, and a reset starts over from zero. -/
def countedFrom (total : Nat) : List DistanceCall → Nat
  | [] => total
  | .reset :: calls => countedFrom 0 calls
  | .lookup _ r :: calls => countedFrom (if r.issues "" = [] then total + 1 else total) calls

/-- The sum of the counters after a lookup: one more for a valid request, hit or miss, and
none for an invalid one. -/
theorem counters_getDistance :
    (e.getDistance svc now r).engine.metrics.hits + (e.getDistance svc now r).engine.metrics.misses =
      if r.issues "" = [] then e.metrics.hits + e.metrics.misses + 1
      else e.metrics.hits + e.metrics.misses := by
  by_cases hv : r.issues "" = []
  · rw [if_pos hv]
    cases hk : e.cache.entries.find? (r.cacheKey now) with
    | some entry =>
      rw [getDistance_of_hit e svc now r hv hk]
      simp only [countHit]
      omega
    | none =>
      rw [getDistance_of_miss e svc now r hv hk]
      cases (svc.distances r now).result <;> simp only [countMiss] <;> omega
  · rw [if_neg hv, getDistance_of_invalid e svc now r hv]

/-- **Every valid lookup since the last reset counts exactly once**, as a hit or a miss,
whatever the cache holds and whatever the provider answers. The induction runs along the calls,
with the engine generalised. -/
theorem distanceRun_counted (svc : Services) (calls : List DistanceCall) (e : Engine) :
    (distanceRun svc e calls).metrics.hits + (distanceRun svc e calls).metrics.misses =
      countedFrom (e.metrics.hits + e.metrics.misses) calls := by
  induction calls generalizing e with
  | nil => rfl
  | cons call calls ih =>
    cases call with
    | reset => exact ih e.resetMetrics
    | lookup now r =>
      have hstep := ih (e.getDistance svc now r).engine
      rw [counters_getDistance] at hstep
      by_cases hv : r.issues "" = [] <;> simpa [distanceRun, distanceStep, countedFrom, hv] using hstep

/-- A lookup never drops a key: it keeps the cache or writes one key. -/
theorem find?_getDistance_isSome {k : String} (hk : (e.cache.entries.find? k).isSome) :
    ((e.getDistance svc now r).engine.cache.entries.find? k).isSome := by
  by_cases hv : r.issues "" = []
  · cases hkey : e.cache.entries.find? (r.cacheKey now) with
    | some entry =>
      rw [getDistance_of_hit e svc now r hv hkey]
      exact hk
    | none =>
      rw [getDistance_of_miss e svc now r hv hkey]
      cases (svc.distances r now).result with
      | ok answer =>
        show ((e.cache.put r answer now).entries.find? k).isSome
        rw [find?_put e now r answer now k]
        split <;> simp_all
      | error f => exact hk
  · rw [getDistance_of_invalid e svc now r hv]
    exact hk

/-- **No entry ever leaves the cache**: a key held before a run is held after it, expired or
not. -/
theorem distanceRun_keeps_keys (svc : Services) (calls : List DistanceCall) (e : Engine)
    {k : String} (hk : (e.cache.entries.find? k).isSome) :
    ((distanceRun svc e calls).cache.entries.find? k).isSome := by
  induction calls generalizing e with
  | nil => exact hk
  | cons call calls ih =>
    cases call with
    | reset => exact ih e.resetMetrics hk
    | lookup now r => exact ih _ (find?_getDistance_isSome e svc now r hk)

end Engine

end RoutePlanner
