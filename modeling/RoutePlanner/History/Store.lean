import RoutePlanner.History.Record
import RoutePlanner.Config

/-!
# The route history

Saved routes, at most one per user and route identifier: saving under a pair already held
replaces that record. A user's history is read one page at a time, newest first. The cursor of
a page is the creation time of the last route it shows, given only when older routes remain;
the next page holds the routes strictly older than the cursor. The page size is the requested
limit clamped to `1 … 50`, or 20.

Main statements: `find?_save` (a save is read back, and changes no other pair) and
`list_routes` (a page is the first `limit` of the user's routes older than the cursor, newest
first).
-/

namespace RoutePlanner

/-- Saved routes. -/
structure RouteHistory where
  records : List RouteRecord

namespace RouteHistory

/-- The empty history. -/
def empty : RouteHistory := ⟨[]⟩

/-- Whether a record is saved under a user and route identifier. -/
def RouteRecord.isAt (user : String) (id : Uuid) (r : RouteRecord) : Bool :=
  r.userId == user && r.routeId == id

/-- **A save**: the record, replacing any under the same user and route. -/
def save (h : RouteHistory) (r : RouteRecord) : RouteHistory :=
  ⟨r :: h.records.filter fun x => !RouteRecord.isAt r.userId r.routeId x⟩

/-- **The record** under a user and route identifier. -/
def find? (h : RouteHistory) (user : String) (id : Uuid) : Option RouteRecord :=
  h.records.find? (RouteRecord.isAt user id)

/-- Newer first: by creation time, latest first. -/
def newerFirst (a b : RouteRecord) : Bool := !(a.createdAt.lt b.createdAt)

/-- A user's routes older than the cursor, newest first. -/
def olderThan (h : RouteHistory) (user : String) (cursor : Option Instant) : List RouteRecord :=
  (h.records.filter fun r =>
    r.userId == user && (cursor.map fun c => r.createdAt.lt c).getD true).mergeSort newerFirst

/-- **One page** of newest-first records: the first `limit`, and the cursor of the last when
more remain. -/
def paginate (records : List RouteRecord) (limit : Nat) : RoutePage :=
  let shown := records.take limit
  ⟨shown.map RouteRecord.summary,
    if records.length > limit then (shown.getLast?.map (·.createdAt)) else none⟩

/-- **A page of a user's history.** -/
def list (h : RouteHistory) (user : String) (limit : Option Int) (cursor : Option Instant) :
    RoutePage :=
  paginate (h.olderThan user cursor) (clampLimit limit)

theorem isAt_self (r : RouteRecord) : RouteRecord.isAt r.userId r.routeId r = true := by
  simp [RouteRecord.isAt]

/-- **A save is read back**, and other pairs keep their records. -/
theorem find?_save (h : RouteHistory) (r : RouteRecord) (user : String) (id : Uuid) :
    (h.save r).find? user id =
      if RouteRecord.isAt user id r then some r else h.find? user id := by
  unfold save find?
  rw [List.find?_cons]
  split
  · rename_i hr; simp [hr]
  · rename_i hr
    simp only [hr, Bool.false_eq_true, ite_false]
    rw [List.find?_filter]
    congr 1
    funext x
    cases hx : RouteRecord.isAt user id x
    · simp
    · have hu : x.userId = user ∧ x.routeId = id := by
        simpa [RouteRecord.isAt] using hx
      have : RouteRecord.isAt r.userId r.routeId x = false := by
        have hr2 : ¬(r.userId = user ∧ r.routeId = id) := by
          simpa [RouteRecord.isAt] using hr
        simp only [RouteRecord.isAt, Bool.and_eq_false_iff, beq_eq_false_iff_ne, ne_eq]
        rw [hu.1, hu.2]
        by_cases h1 : user = r.userId
        · exact Or.inr fun h2 => hr2 ⟨h1.symm, h2.symm⟩
        · exact Or.inl h1
      simp [this]

/-- **A page** is the first `limit` of the user's routes older than the cursor. -/
theorem list_routes (h : RouteHistory) (user : String) (limit : Option Int)
    (cursor : Option Instant) :
    (h.list user limit cursor).routes =
      ((h.olderThan user cursor).take (clampLimit limit)).map RouteRecord.summary := rfl

end RouteHistory

end RoutePlanner
