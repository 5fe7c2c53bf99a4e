import RoutePlanner.Maps.GeocodeCache
import RoutePlanner.Proofs.HistoryPages

/-!
# What the geocode cache returns

The geocode cache is used through writes, reads and clears, each at a reading of the clock. A
read that finds an expired entry drops it, so the cache itself is not a plain record of the
writes. Seen through reads it is one: over any run of operations at clock readings that never go
back, a read of an address returns the coordinates of the last write of that address since the
last clear, made at `t`, exactly while `now ≤ t + ttl` (`expectedRead`), and nothing otherwise.
A run stops only at a write whose expiry falls outside the calendar.

A geocoder behind the cache (`GeocodeCache.lookupThrough`) is asked, once and for the address,
exactly when the read misses; a hit is answered from the cache, which it leaves as it was; a
success is written; a failure writes nothing, and no later read can tell the cache from the one
before the lookup.

Main statement: `geocodeCache_reads_and_lookups`.

The argument is an invariant of the cache against the operations run so far, `HoldsLastWrites`:
every entry is the last write of its address with that write's expiry, and an address without
an entry has no last write or one that expired before the latest clock reading. Each operation
keeps it (`holds_apply`): a write replaces its entry, a clear empties both sides, and a read
drops only an entry that has expired by its own clock reading. Since later readings are no
earlier, an entry dropped stays expired for every later read, which is why the drop is never
seen (`get_of_holds`). A run keeps it by induction on the operations (`replay_holds`).
-/

namespace RoutePlanner

namespace Instant

theorem le_iff_lt_eq_false (a b : Instant) : a.le b = true ↔ b.lt a = false := by
  simp [le]

theorem le_refl (a : Instant) : a.le a = true := by
  simp [le, lt_self_eq_false]

theorem lt_of_lt_of_le {a b c : Instant} (hab : a.lt b = true) (hbc : b.le c = true) :
    a.lt c = true := by
  rw [le_iff_lt_eq_false, ← Bool.not_eq_true, lt_iff_lex] at hbc
  rw [lt_iff_lex] at *
  omega

/-- An instant is not before another exactly when the other comes first. -/
theorem le_eq_false_iff (a b : Instant) : a.le b = false ↔ b.lt a = true := by
  simp [le]

end Instant

namespace Maps

/-! ### Runs of operations -/

/-- An operation on the geocode cache. -/
inductive CacheOp where
  /-- write the coordinates of an address -/
  | set (address : String) (coords : Coordinates)
  /-- read an address -/
  | get (address : String)
  /-- drop every entry -/
  | clear

namespace GeocodeCache

/-- **One operation at time `now`**: a write, which fails when its expiry falls outside the
calendar; a read, which drops the entry it finds expired; or a clear. -/
def apply (c : GeocodeCache) (now : Instant) : CacheOp → Option GeocodeCache
  | .set a x => c.set? a x now
  | .get a => some (c.get a now).2
  | .clear => some c.clear

/-- **A run** of timed operations, oldest first: the cache after them, or `none` when a write
fails. -/
def replay (c : GeocodeCache) : List (Instant × CacheOp) → Option GeocodeCache
  | [] => some c
  | (now, op) :: rest => (c.apply now op).bind fun c' => c'.replay rest

theorem apply_ttlMs {c c' : GeocodeCache} {now : Instant} {op : CacheOp}
    (h : c.apply now op = some c') : c'.ttlMs = c.ttlMs := by
  cases op with
  | set a x =>
    simp only [apply, set?] at h
    split at h
    · cases h; rfl
    · cases h
  | get a =>
    cases h
    unfold get
    split
    · split <;> rfl
    · rfl
  | clear => cases h; rfl

/-- **A run fails exactly at a write whose expiry falls outside the calendar.** -/
theorem replay_eq_none_iff (c : GeocodeCache) (ops : List (Instant × CacheOp)) :
    c.replay ops = none ↔
      ∃ t a x, (t, CacheOp.set a x) ∈ ops ∧ (t.addMillis c.ttlMs).inRange = false := by
  induction ops generalizing c with
  | nil => simp [replay]
  | cons op rest ih =>
    obtain ⟨now, op⟩ := op
    cases happ : c.apply now op with
    | none =>
      -- only a write fails, and then by its expiry
      have hout : ∃ a x, op = .set a x ∧ (now.addMillis c.ttlMs).inRange = false := by
        cases op with
        | set a x =>
          simp only [apply, set?] at happ
          split at happ
          · cases happ
          · rename_i hin
            exact ⟨a, x, rfl, by simpa using hin⟩
        | get a => cases happ
        | clear => cases happ
      obtain ⟨a, x, rfl, hout⟩ := hout
      rw [replay, happ, Option.bind_none]
      exact iff_of_true rfl ⟨now, a, x, List.mem_cons_self, hout⟩
    | some c' =>
      -- the operation went through, so the failure, if any, is in the rest
      have httl := apply_ttlMs happ
      rw [replay, happ, Option.bind_some, ih c', httl]
      constructor
      · rintro ⟨t, a, x, hmem, hout⟩
        exact ⟨t, a, x, List.mem_cons_of_mem _ hmem, hout⟩
      · rintro ⟨t, a, x, hmem, hout⟩
        rcases List.mem_cons.mp hmem with heq | hmem
        · -- the operation itself was this write, which went through
          cases heq
          simp only [apply, set?] at happ
          split at happ
          · rename_i hin
            rw [hout] at hin
            cases hin
          · cases happ
        · exact ⟨t, a, x, hmem, hout⟩

end GeocodeCache

/-- **The last write of an address since the last clear**, with its time, among operations
newest first: the search stops at a clear. -/
def lastWrite (address : String) : List (Instant × CacheOp) → Option (Coordinates × Instant)
  | [] => none
  | (t, .set a x) :: older => if a = address then some (x, t) else lastWrite address older
  | (_, .get _) :: older => lastWrite address older
  | (_, .clear) :: _ => none

/-- **What a read at `now` returns** after the operations `ops`, oldest first, under a time to
live of `ttl` milliseconds: the coordinates of the last write of the address since the last
clear, made at `t`, while `now ≤ t + ttl`. -/
def expectedRead (ttl : Int) (ops : List (Instant × CacheOp)) (address : String)
    (now : Instant) : Option Coordinates :=
  match lastWrite address ops.reverse with
  | some (x, t) => if now.le (t.addMillis ttl) then some x else none
  | none => none

/-- The last writes after one more operation. -/
theorem lastWrite_snoc (address : String) (ops : List (Instant × CacheOp)) (t : Instant)
    (op : CacheOp) :
    lastWrite address (ops ++ [(t, op)]).reverse = lastWrite address ((t, op) :: ops.reverse) := by
  simp

/-! ### The invariant -/

/-- **The cache holds the last writes of the operations `ops`**, for reads from `T` on: every
entry is the last write of its address since the last clear, with that write's expiry, and an
address without an entry has no such write or one that expired before `T`. -/
structure HoldsLastWrites (c : GeocodeCache) (ops : List (Instant × CacheOp)) (T : Instant) :
    Prop where
  held : ∀ a x e, c.entries.find? a = some (x, e) →
    ∃ t, lastWrite a ops.reverse = some (x, t) ∧ e = t.addMillis c.ttlMs
  dropped : ∀ a, c.entries.find? a = none → ∀ x t, lastWrite a ops.reverse = some (x, t) →
    (t.addMillis c.ttlMs).lt T = true

section Invariant

variable {c : GeocodeCache} {ops : List (Instant × CacheOp)} {T now : Instant}

/-- An empty cache holds the last writes of no operations. -/
theorem holds_empty (ttl : Int) (T : Instant) :
    HoldsLastWrites ⟨ttl, Keyed.empty⟩ [] T :=
  ⟨fun a x e h => by simp at h, fun a _ x t h => by simp [lastWrite] at h⟩

/-- Later clock readings keep the invariant: what expired before `T` expired before them. -/
theorem HoldsLastWrites.mono (h : HoldsLastWrites c ops T) {T' : Instant} (hT : T.le T' = true) :
    HoldsLastWrites c ops T' :=
  ⟨h.held, fun a ha x t hw => Instant.lt_of_lt_of_le (h.dropped a ha x t hw) hT⟩

/-- **A read at a clock reading from `T` on returns what the operations say.** -/
theorem get_of_holds (h : HoldsLastWrites c ops T) (hnow : T.le now = true) (a : String) :
    (c.get a now).1 = expectedRead c.ttlMs ops a now := by
  rw [GeocodeCache.get_fst, GeocodeCache.lookup, expectedRead]
  cases hfind : c.entries.find? a with
  | some entry =>
    obtain ⟨x, e⟩ := entry
    obtain ⟨t, hw, rfl⟩ := h.held a x e hfind
    rw [hw]
  | none =>
    -- no entry: either nothing was written, or the last write expired before `T ≤ now`
    cases hw : lastWrite a ops.reverse with
    | none => rfl
    | some w =>
      obtain ⟨x, t⟩ := w
      have hexpired := Instant.lt_of_lt_of_le (h.dropped a hfind x t hw) hnow
      have hnot : now.le (t.addMillis c.ttlMs) = false :=
        (Instant.le_eq_false_iff _ _).mpr hexpired
      simp only [hnot, Bool.false_eq_true, if_false]

/-- A write at `now` holds its own entry, and every other entry as before. -/
theorem holds_set (h : HoldsLastWrites c ops T) (hT : T.le now = true) {a : String}
    {x : Coordinates} {c' : GeocodeCache} (hc : c.set? a x now = some c') :
    HoldsLastWrites c' (ops ++ [(now, .set a x)]) now := by
  simp only [GeocodeCache.set?] at hc
  split at hc
  · cases hc
    refine ⟨fun b y e hb => ?_, fun b hb y t hw => ?_⟩
    · -- the entry written, or an entry from before the write
      rw [lastWrite_snoc, lastWrite]
      rw [Keyed.find?_insert] at hb
      by_cases hab : b = a
      · subst hab
        simp only [if_true, Option.some.injEq, Prod.mk.injEq] at hb
        obtain ⟨rfl, rfl⟩ := hb
        exact ⟨now, by simp, rfl⟩
      · rw [if_neg hab] at hb
        rw [if_neg (Ne.symm hab)]
        exact h.held b y e hb
    · -- an address without an entry is not the one written
      rw [Keyed.find?_insert] at hb
      by_cases hab : b = a
      · rw [if_pos hab] at hb
        cases hb
      · rw [if_neg hab] at hb
        rw [lastWrite_snoc, lastWrite, if_neg (Ne.symm hab)] at hw
        exact Instant.lt_of_lt_of_le (h.dropped b hb y t hw) hT
  · cases hc

/-- A read at `now` drops only an entry that has expired by `now`. -/
theorem holds_get (h : HoldsLastWrites c ops T) (hT : T.le now = true) (a : String) :
    HoldsLastWrites (c.get a now).2 (ops ++ [(now, .get a)]) now := by
  have hw : ∀ b, lastWrite b (ops ++ [(now, CacheOp.get a)]).reverse = lastWrite b ops.reverse :=
    fun b => by rw [lastWrite_snoc, lastWrite]
  have hkept : HoldsLastWrites c (ops ++ [(now, .get a)]) now :=
    ⟨fun b y e hb => by rw [hw]; exact h.held b y e hb,
      fun b hb y t hwb => by rw [hw] at hwb; exact (h.mono hT).dropped b hb y t hwb⟩
  unfold GeocodeCache.get
  split
  · rename_i x e hfind
    split
    · exact hkept
    · -- the entry found has expired by `now`, and it is dropped
      rename_i hexp
      have hlt : e.lt now = true := (Instant.le_eq_false_iff _ _).mp (by simpa using hexp)
      refine ⟨fun b y e' hb => ?_, fun b hb y t hwb => ?_⟩
      · rw [Keyed.find?_erase] at hb
        split at hb
        · cases hb
        · exact hkept.held b y e' hb
      · rw [Keyed.find?_erase] at hb
        by_cases hba : b = a
        · subst hba
          rw [hw] at hwb
          obtain ⟨t', hw', he⟩ := h.held b x e hfind
          rw [hw'] at hwb
          cases hwb
          rw [← he]
          exact hlt
        · rw [if_neg hba] at hb
          exact hkept.dropped b hb y t hwb
  · exact hkept

/-- A clear leaves no entry, and no last write. -/
theorem holds_clear (c : GeocodeCache) (ops : List (Instant × CacheOp)) (now : Instant) :
    HoldsLastWrites c.clear (ops ++ [(now, .clear)]) now := by
  have hw : ∀ b, lastWrite b (ops ++ [(now, CacheOp.clear)]).reverse = none :=
    fun b => by rw [lastWrite_snoc, lastWrite]
  exact ⟨fun b y e hb => by simp [GeocodeCache.clear] at hb,
    fun b _ y t hwb => by rw [hw] at hwb; cases hwb⟩

/-- **Every operation keeps the invariant**, at its own clock reading. -/
theorem holds_apply (h : HoldsLastWrites c ops T) (hT : T.le now = true) {op : CacheOp}
    {c' : GeocodeCache} (happ : c.apply now op = some c') :
    HoldsLastWrites c' (ops ++ [(now, op)]) now := by
  cases op with
  | set a x => exact holds_set h hT happ
  | get a =>
    cases happ
    exact holds_get h hT a
  | clear =>
    cases happ
    exact holds_clear c ops now

end Invariant

/-- **A run keeps the invariant**, for operations at readings from `T` on that never go back:
the cache after it holds the last writes of everything run, for reads from the last reading on. -/
theorem replay_holds (rest : List (Instant × CacheOp)) :
    ∀ (c : GeocodeCache) (ops : List (Instant × CacheOp)) (T : Instant) (c' : GeocodeCache),
      HoldsLastWrites c ops T → (∀ x ∈ rest, T.le x.1 = true) →
      rest.Pairwise (fun x y => x.1.le y.1 = true) → c.replay rest = some c' →
      c'.ttlMs = c.ttlMs ∧ ∀ now, T.le now = true → (∀ x ∈ rest, x.1.le now = true) →
        HoldsLastWrites c' (ops ++ rest) now := by
  induction rest with
  | nil =>
    intro c ops T c' h _ _ hrun
    cases hrun
    exact ⟨rfl, fun now hnow _ => by simpa using h.mono hnow⟩
  | cons op rest ih =>
    obtain ⟨t, op⟩ := op
    intro c ops T c' h hafter hsorted hrun
    simp only [GeocodeCache.replay] at hrun
    cases happ : c.apply t op with
    | none => rw [happ] at hrun; cases hrun
    | some c₁ =>
      rw [happ, Option.bind_some] at hrun
      -- the first operation, then the rest from its reading on
      have h₁ := holds_apply h (hafter _ List.mem_cons_self) happ
      obtain ⟨hfirst, hsorted'⟩ := List.pairwise_cons.mp hsorted
      obtain ⟨httl, hholds⟩ := ih c₁ _ t c' h₁ (fun x hx => hfirst x hx) hsorted' hrun
      refine ⟨httl.trans (GeocodeCache.apply_ttlMs happ), fun now _ hnow => ?_⟩
      have hrest := hholds now (hnow _ List.mem_cons_self)
        (fun x hx => hnow x (List.mem_cons_of_mem _ hx))
      simpa using hrest

/-- **Reads after a run from the empty cache return what the operations say**, at any reading
from the run's last on. -/
theorem replay_get (ttl : Int) {ops : List (Instant × CacheOp)} {now : Instant}
    (hsorted : ops.Pairwise (fun x y => x.1.le y.1 = true))
    (hbefore : ∀ x ∈ ops, x.1.le now = true) {c : GeocodeCache}
    (hrun : (⟨ttl, Keyed.empty⟩ : GeocodeCache).replay ops = some c) (a : String) :
    (c.get a now).1 = expectedRead ttl ops a now := by
  -- the invariant holds from the run's first reading on, or from `now` for an empty run
  obtain ⟨T, hTnow, hTops⟩ : ∃ T : Instant, T.le now = true ∧ ∀ x ∈ ops, T.le x.1 = true := by
    cases ops with
    | nil => exact ⟨now, Instant.le_refl now, by simp⟩
    | cons first rest =>
      refine ⟨first.1, hbefore first List.mem_cons_self, fun x hx => ?_⟩
      rcases List.mem_cons.mp hx with rfl | hx
      · exact Instant.le_refl _
      · exact List.rel_of_pairwise_cons hsorted hx
  obtain ⟨httl, hholds⟩ := replay_holds ops _ [] T c (holds_empty ttl T) hTops hsorted hrun
  have h := get_of_holds (hholds now hTnow hbefore) (Instant.le_refl now) a
  rwa [httl, List.nil_append] at h

/-! ### Lookups through the cache -/

/-- The inner geocoder watched: each call logs the address it is asked for, then answers. -/
def askLogged (answer : String → Except Failure Coordinates) (a : String) :
    StateM (List String) (Except Failure Coordinates) := do
  modify (· ++ [a])
  return answer a

/-- A lookup through the cache with the inner geocoder watched: its answer, the cache after it,
and the addresses the inner geocoder was asked for. -/
def GeocodeCache.lookupLogged (c : GeocodeCache) (answer : String → Except Failure Coordinates)
    (a : String) (now : Instant) : (Except Failure Coordinates × GeocodeCache) × List String :=
  (c.lookupThrough (askLogged answer) a now).run []

/-- What a lookup writes after a miss: the coordinates found, or nothing on a failure. -/
def GeocodeCache.writeFound (read : GeocodeCache) (a : String) (now : Instant) :
    Except Failure Coordinates → GeocodeCache
  | .ok x => (read.set? a x now).getD read
  | .error _ => read

section Lookup

variable (c : GeocodeCache) (answer : String → Except Failure Coordinates) (a : String)
  (now : Instant)

/-- A hit: the cached coordinates, the cache as it was, and no call. -/
theorem lookupLogged_of_hit {x : Coordinates} (h : (c.get a now).1 = some x) :
    c.lookupLogged answer a now = ((.ok x, c), []) := by
  -- a read that finds unexpired coordinates drops nothing
  have hget : c.get a now = (some x, c) := by
    unfold GeocodeCache.get at h ⊢
    cases hfind : c.entries.find? a with
    | none => simp [hfind] at h
    | some entry =>
      obtain ⟨y, e⟩ := entry
      cases hexp : now.le e
      · simp [hfind, hexp] at h
      · simp only [hfind, hexp, if_true, Option.some.injEq] at h ⊢
        rw [h]
  unfold GeocodeCache.lookupLogged GeocodeCache.lookupThrough
  rw [hget]
  rfl

/-- A miss: one call for the address, and its answer. -/
theorem lookupLogged_of_miss (h : (c.get a now).1 = none) :
    c.lookupLogged answer a now =
      ((answer a, GeocodeCache.writeFound (c.get a now).2 a now (answer a)), [a]) := by
  unfold GeocodeCache.lookupLogged GeocodeCache.lookupThrough
  cases hget : c.get a now with
  | mk hit read =>
    rw [hget] at h
    subst h
    cases hans : answer a <;> simp [askLogged, GeocodeCache.writeFound, hans] <;> rfl

/-- **A read drops nothing a later read can see**: after a read at `now`, a read at any later
reading returns what it returns from the cache before. -/
theorem get_get_of_le {now' : Instant} (hle : now.le now' = true) (a' : String) :
    ((c.get a now).2.get a' now').1 = (c.get a' now').1 := by
  rw [GeocodeCache.get_fst, GeocodeCache.get_fst]
  unfold GeocodeCache.get
  cases hfind : c.entries.find? a with
  | none => rfl
  | some entry =>
    obtain ⟨x, e⟩ := entry
    dsimp only
    cases hexp : now.le e
    · -- the entry dropped had expired by `now`, so by `now'` too
      have hlt : e.lt now' = true :=
        Instant.lt_of_lt_of_le ((Instant.le_eq_false_iff _ _).mp hexp) hle
      simp only [Bool.false_eq_true, if_false]
      unfold GeocodeCache.lookup
      rw [Keyed.find?_erase]
      by_cases ha : a' = a
      · subst ha
        simp only [if_true, hfind, (Instant.le_eq_false_iff _ _).mpr hlt, Bool.false_eq_true,
          if_false]
      · simp only [if_neg ha]
    · rfl

/-- **What a lookup does**: the inner geocoder is asked, once and for the address, exactly on a
miss; a hit answers from the cache and leaves it as it was; after a miss the answer is the inner
one, a success is written into the cache as the read left it, and a failure leaves that cache,
which no read from `now` on can tell from the cache before the lookup. -/
theorem lookupLogged_spec :
    (c.lookupLogged answer a now).2 = (if (c.get a now).1.isNone then [a] else []) ∧
      (∀ x, (c.get a now).1 = some x → (c.lookupLogged answer a now).1 = (.ok x, c)) ∧
      ((c.get a now).1 = none →
        (c.lookupLogged answer a now).1.1 = answer a ∧
        (∀ x, answer a = .ok x →
          (c.lookupLogged answer a now).1.2 = ((c.get a now).2.set? a x now).getD (c.get a now).2) ∧
        (∀ f, answer a = .error f → (c.lookupLogged answer a now).1.2 = (c.get a now).2 ∧
          ∀ a' now', now.le now' = true →
            ((c.lookupLogged answer a now).1.2.get a' now').1 = (c.get a' now').1)) := by
  refine ⟨?_, fun x hx => by rw [lookupLogged_of_hit c answer a now hx], fun hmiss => ?_⟩
  · -- the calls made follow the read
    cases hread : (c.get a now).1 with
    | none => rw [lookupLogged_of_miss c answer a now hread]; rfl
    | some x => rw [lookupLogged_of_hit c answer a now hread]; rfl
  · rw [lookupLogged_of_miss c answer a now hmiss]
    refine ⟨rfl, fun x hx => by rw [hx]; rfl, fun f hf => ⟨by rw [hf]; rfl, ?_⟩⟩
    intro a' now' hle
    rw [hf]
    exact get_get_of_le c a now hle a'

end Lookup

/-- **The geocode cache against its operations.** Over any run of writes, reads and clears from
the empty cache at clock readings that never go back, the run fails exactly at a write whose
expiry falls outside the calendar, and otherwise a read at any later reading returns the last
write of the address since the last clear while it is fresh (`now ≤ t + ttl`), and nothing
else, so the entries that reads drop are never seen. A lookup through the cache asks the inner
geocoder exactly on a miss, writes only a success, and after a failure leaves a cache that no
later read can tell from the one before. -/
theorem geocodeCache_reads_and_lookups :
    (∀ (ttl : Int) (ops : List (Instant × CacheOp)) (a : String) (now : Instant),
      ops.Pairwise (fun x y => x.1.le y.1 = true) → (∀ x ∈ ops, x.1.le now = true) →
      ((⟨ttl, Keyed.empty⟩ : GeocodeCache).replay ops = none ↔
          ∃ t b x, (t, CacheOp.set b x) ∈ ops ∧ (t.addMillis ttl).inRange = false) ∧
        ∀ c, (⟨ttl, Keyed.empty⟩ : GeocodeCache).replay ops = some c →
          (c.get a now).1 = expectedRead ttl ops a now) ∧
    ∀ (c : GeocodeCache) (answer : String → Except Failure Coordinates) (a : String)
      (now : Instant),
      (c.lookupLogged answer a now).2 = (if (c.get a now).1.isNone then [a] else []) ∧
      (∀ x, (c.get a now).1 = some x → (c.lookupLogged answer a now).1 = (.ok x, c)) ∧
      ((c.get a now).1 = none →
        (c.lookupLogged answer a now).1.1 = answer a ∧
        (∀ x, answer a = .ok x →
          (c.lookupLogged answer a now).1.2 = ((c.get a now).2.set? a x now).getD (c.get a now).2) ∧
        (∀ f, answer a = .error f → (c.lookupLogged answer a now).1.2 = (c.get a now).2 ∧
          ∀ a' now', now.le now' = true →
            ((c.lookupLogged answer a now).1.2.get a' now').1 = (c.get a' now').1)) :=
  ⟨fun ttl ops a _ hsorted hbefore =>
    ⟨GeocodeCache.replay_eq_none_iff _ ops, fun _ hrun => replay_get ttl hsorted hbefore hrun a⟩,
    lookupLogged_spec⟩

/-- A write, a read of it a second later, and a second write. -/
def sampleCacheRun : List (Instant × CacheOp) :=
  [(⟨0, 0⟩, .set "home" ⟨0.0, 0.0⟩), (⟨1, 0⟩, .get "home"), (⟨1, 0⟩, .set "work" ⟨1.0, 1.0⟩)]

/-- The run above read back two seconds in, and a lookup that misses and fails. -/
theorem sampleCacheRun_reads_and_lookups :
    sampleCacheRun.Pairwise (fun x y => x.1.le y.1 = true) ∧
      (∀ x ∈ sampleCacheRun, x.1.le ⟨2, 0⟩ = true) ∧
      (((⟨1000, Keyed.empty⟩ : GeocodeCache).replay sampleCacheRun = none ↔
          ∃ t b x, (t, CacheOp.set b x) ∈ sampleCacheRun ∧ (t.addMillis 1000).inRange = false) ∧
        ∀ c, (⟨1000, Keyed.empty⟩ : GeocodeCache).replay sampleCacheRun = some c →
          (c.get "home" ⟨2, 0⟩).1 = expectedRead 1000 sampleCacheRun "home" ⟨2, 0⟩) ∧
      ((⟨1000, Keyed.empty⟩ : GeocodeCache).get "home" ⟨0, 0⟩).1 = none ∧
      ((⟨1000, Keyed.empty⟩ : GeocodeCache).lookupLogged (fun _ => .error ⟨.network, "down", none, none⟩)
          "home" ⟨0, 0⟩).1.2 = ((⟨1000, Keyed.empty⟩ : GeocodeCache).get "home" ⟨0, 0⟩).2 :=
  ⟨by decide, by decide,
    geocodeCache_reads_and_lookups.1 1000 sampleCacheRun "home" ⟨2, 0⟩ (by decide) (by decide), rfl,
    ((geocodeCache_reads_and_lookups.2 ⟨1000, Keyed.empty⟩ (fun _ => .error ⟨.network, "down", none, none⟩)
      "home" ⟨0, 0⟩).2.2 rfl).2.2 _ rfl |>.1⟩

end Maps

end RoutePlanner
