import RoutePlanner.Proofs.VisitedStops

/-!
# What a planning call writes to the history

A planning call that succeeds for a signed-in user saves one route: the record of its result
(`RouteRecord.ofResult`) under the user and the result's route identifier. That record reads
back with the result's stops, totals and diagnostics, the digest the caller was given, and the
planner that made the plan, the nearest-neighbour planner exactly when the result fell back
(`RouteRecord.IsRecordOf`). Nothing else in the history moves: every other pair of user and
route identifier reads as before, and every page of another user's history too. A call
without a user leaves the history as it was, and so does a call refused for invalid input,
which leaves the whole engine as it was.

The argument has two layers. `RouteHistory.save` touches one user and one identifier
(`find?_save_of_ne`, `olderThan_save_of_ne`); a successful call changes the engine by that one
save and nothing else (`Engine.optimizeRoute_engine_of_ok`).

Main statement: `Engine.optimizeRoute_history`.
-/

namespace RoutePlanner

open RoutePlanner.Optimizer

/-! ### A save touches one user and one route -/

namespace RouteHistory

variable (h : RouteHistory) (r : RouteRecord)

/-- **A save changes no other pair** of user and route identifier. -/
theorem find?_save_of_ne {user : String} {id : Uuid} (hne : (user, id) ≠ (r.userId, r.routeId)) :
    (h.save r).find? user id = h.find? user id := by
  have hat : RouteRecord.isAt user id r = false := by
    simp only [RouteRecord.isAt, Bool.and_eq_false_iff, beq_eq_false_iff_ne]
    by_cases hu : r.userId = user
    · exact .inr fun hid => hne (by rw [hu, hid])
    · exact .inl hu
  rw [find?_save, hat]
  rfl

/-- **A save leaves another user's routes as they were**, at every cursor. A record of that
user is never the one replaced, and the saved record is not that user's. -/
theorem olderThan_save_of_ne {user : String} (hne : r.userId ≠ user) (cursor : Option Instant) :
    (h.save r).olderThan user cursor = h.olderThan user cursor := by
  unfold olderThan save
  congr 1
  rw [List.filter_cons_of_neg (by simp [hne]), List.filter_filter]
  refine List.filter_congr fun x _ => ?_
  cases hx : x.userId == user
  · simp
  · -- `x` is the other user's, so the save does not replace it
    have hxu : x.userId = user := by simpa using hx
    have hat : RouteRecord.isAt r.userId r.routeId x = false := by
      simp [RouteRecord.isAt, hxu, Ne.symm hne]
    simp [hat]

/-- Every page of another user's history reads as before a save. -/
theorem list_save_of_ne {user : String} (hne : r.userId ≠ user) (limit : Option Int)
    (cursor : Option Instant) : (h.save r).list user limit cursor = h.list user limit cursor := by
  unfold list
  rw [olderThan_save_of_ne h r hne]

end RouteHistory

/-! ### The record of a result -/

/-- **The record of a result as the caller got it**: the same stops, totals and diagnostics,
the same digest, and the nearest-neighbour planner exactly when the result fell back. -/
structure RouteRecord.IsRecordOf (r : RouteRecord) (t : DigestedTour) : Prop where
  orderedStops : r.orderedStops = t.result.plan.plan.orderedStops
  totalDistanceM : r.totalDistanceM = t.result.plan.plan.totalDistanceM
  totalDurationS : r.totalDurationS = t.result.plan.plan.totalDurationS
  diagnostics : r.diagnostics = t.result.diagnostics
  paramsDigest : r.paramsDigest = t.paramsDigest
  algorithm : r.algorithm = .nearestNeighbor ↔ t.result.diagnostics.fallbackUsed = true

/-- The record made of a result is a record of it, whoever asked and whenever. -/
theorem RouteRecord.ofResult_isRecordOf (user : String) (input : TourRequest) (t : DigestedTour)
    (metrics : DistanceMetrics) (now : Instant) :
    (RouteRecord.ofResult user input t.paramsDigest t.result metrics now).IsRecordOf t := by
  refine ⟨rfl, rfl, rfl, rfl, rfl, ?_⟩
  -- the planner is chosen by the fallback flag alone
  cases hf : t.result.diagnostics.fallbackUsed <;> simp [RouteRecord.ofResult, hf]

/-! ### A planning call -/

namespace Engine

variable (e : Engine) (svc : Services) (now : Instant) (freshId : Uuid) (user : Option String)
  (input : TourRequest)

/-- **A successful planning call saves its result and changes nothing else**: the request was
valid, the result is the one settled from the optimiser's outcome, the digest is the
request's, and the engine after the call differs from the one before only by the save of the
result's record for the user who asked, if one did. -/
theorem optimizeRoute_engine_of_ok {t : DigestedTour}
    (h : (e.optimizeRoute svc now freshId user input).answer = .ok t) :
    input.issues "" = [] ∧
      input.settle (svc.optimizer (Request.ofTour input)).result freshId = .ok t.result ∧
      t.paramsDigest = input.digest ∧
      (e.optimizeRoute svc now freshId user input).engine =
        { e with history := user.elim e.history fun u =>
            e.history.save (RouteRecord.ofResult u input t.paramsDigest t.result e.metrics now) } := by
  by_cases hv : input.issues "" = []
  · simp only [optimizeRoute, input.optimizerRequest_of_valid hv] at h ⊢
    cases hs : input.settle (svc.optimizer (Request.ofTour input)).result freshId with
    | error err => simp [hs] at h
    | ok res =>
      simp only [hs, Except.ok.injEq] at h
      subst h
      refine ⟨hv, rfl, rfl, ?_⟩
      cases user <;> rfl
  · simp [optimizeRoute_of_invalid e svc now freshId user input hv] at h

/-- The saved record is found under its user and route identifier. -/
theorem findRoute_save_self (r : RouteRecord) :
    { e with history := e.history.save r }.findRoute r.userId r.routeId = .ok r := by
  simp [findRoute, RouteHistory.find?_save, RouteHistory.isAt_self]

/-- Every other user and route identifier is found as before the save. -/
theorem findRoute_save_of_ne (r : RouteRecord) {u : String} {id : Uuid}
    (hne : (u, id) ≠ (r.userId, r.routeId)) :
    { e with history := e.history.save r }.findRoute u id = e.findRoute u id := by
  simp only [findRoute]
  rw [RouteHistory.find?_save_of_ne e.history r hne]

/-- **The effect of a successful planning call on the history**, seen through its reads. With
a user: the route is found under the user and the result's route identifier, as a record of
the result, while every other pair of user and identifier, and every page of every other user,
reads as before. Without a user: the history is as it was. -/
def HistoryEffect (e e' : Engine) (t : DigestedTour) : Option String → Prop
  | none => e'.history = e.history
  | some u =>
    (∃ r, e'.findRoute u t.result.plan.routeId = .ok r ∧ r.IsRecordOf t) ∧
      (∀ u' id, (u', id) ≠ (u, t.result.plan.routeId) → e'.findRoute u' id = e.findRoute u' id) ∧
      (∀ u', u' ≠ u → ∀ limit cursor, e'.listRoutes u' limit cursor = e.listRoutes u' limit cursor)

/-- Saving a record of a result, under the result's route identifier, has the effect a
successful call has for the record's user. -/
theorem historyEffect_save {t : DigestedTour} {r : RouteRecord} (hr : r.IsRecordOf t)
    (hid : r.routeId = t.result.plan.routeId) :
    HistoryEffect e { e with history := e.history.save r } t (some r.userId) := by
  refine ⟨⟨r, ?_, hr⟩, ?_, ?_⟩
  · rw [← hid]
    exact findRoute_save_self e r
  · intro u' id hne
    rw [← hid] at hne
    exact findRoute_save_of_ne e r hne
  · intro u' hne limit cursor
    exact RouteHistory.list_save_of_ne e.history r (Ne.symm hne) limit cursor

/-- **What a planning call does to the history.** A request that fails its checks is refused
with code 101 and the history is left as it was. A call that succeeds saves its result for
the user who asked: the route is then found under the user and the result's route
identifier, with the result's stops, totals and diagnostics, the digest the caller got, and
the nearest-neighbour planner exactly when the result fell back, while every other user's
history and every other route reads as before; without a user, the history is unchanged. -/
theorem optimizeRoute_history :
    (input.issues "" ≠ [] →
      (∃ err, (e.optimizeRoute svc now freshId user input).answer = .error err ∧ err.code = 101) ∧
        (e.optimizeRoute svc now freshId user input).engine.history = e.history) ∧
    ∀ t, (e.optimizeRoute svc now freshId user input).answer = .ok t →
      HistoryEffect e (e.optimizeRoute svc now freshId user input).engine t user := by
  refine ⟨fun hv => ?_, fun t ht => ?_⟩
  · rw [optimizeRoute_of_invalid e svc now freshId user input hv]
    exact ⟨⟨_, rfl, rfl⟩, rfl⟩
  · obtain ⟨-, -, -, hengine⟩ := optimizeRoute_engine_of_ok e svc now freshId user input ht
    rw [hengine]
    cases user with
    | none => rfl
    | some u =>
      exact historyEffect_save e (RouteRecord.ofResult_isRecordOf u input t e.metrics now) rfl

/-- A user plans a depot and one stop with an optimiser that answers a healthy tour, and then
sends the same request with the depot at latitude 91: the first call is saved for the user
under the optimiser's route identifier, the second is refused with code 101 and saves
nothing. -/
theorem optimizeRoute_history_of_healthy_answer :
    let input : TourRequest :=
      ⟨⟨"depot", none, 35.681236, 139.767125⟩, [⟨"a", none, 35.658581, 139.745433⟩], none⟩
    let bad : TourRequest :=
      ⟨⟨"depot", none, 91.0, 139.767125⟩, [⟨"a", none, 35.658581, 139.745433⟩], none⟩
    let a : Answer := ⟨⟨1⟩, ⟨["a"], [⟨"depot", none, 35.681236, 139.767125, 0, 0, 0, 0, 0⟩,
      ⟨"a", none, 35.658581, 139.745433, 1, 3192, 230, 3192, 230⟩], 3192, 230⟩,
      ⟨.quality, "solver", 10, 0.05, false, 5.0⟩⟩
    let svc : Services :=
      ⟨fun _ => ⟨.ok a, []⟩, fun _ now => ⟨.ok (Maps.fixedDistance now), []⟩, none⟩
    let t : DigestedTour :=
      ⟨TourResult.ofPlan ⟨a.routeId, a.plan⟩ (PlanDiagnostics.ofOptimizer a.diagnostics), input.digest⟩
    (bad.issues "" ≠ [] ∧
      (∃ err, (Engine.new.optimizeRoute svc ⟨0, 0⟩ ⟨7⟩ (some "user-1") bad).answer = .error err ∧
        err.code = 101) ∧
      (Engine.new.optimizeRoute svc ⟨0, 0⟩ ⟨7⟩ (some "user-1") bad).engine.history =
        Engine.new.history) ∧
    ((Engine.new.optimizeRoute svc ⟨0, 0⟩ ⟨7⟩ (some "user-1") input).answer = .ok t ∧
      HistoryEffect Engine.new (Engine.new.optimizeRoute svc ⟨0, 0⟩ ⟨7⟩ (some "user-1") input).engine
        t (some "user-1")) := by
  intro input bad a svc t
  have hbad : bad.issues "" ≠ [] := by decide
  have hsorted : a.plan.orderedStops.mergeSort (fun x y => decide (x.sequence ≤ y.sequence)) =
      a.plan.orderedStops := List.mergeSort_of_pairwise (by decide)
  have hclean : (TourResult.ofPlan ⟨a.routeId, a.plan⟩
      (PlanDiagnostics.ofOptimizer a.diagnostics)).issues "" = [] := by
    simp only [TourResult.issues, TourResult.ofPlan, RoutePlan.drawing, hsorted]
    decide
  have hok := optimizeRoute_of_healthy Engine.new svc ⟨0, 0⟩ ⟨7⟩ (some "user-1") input (by decide)
    rfl rfl (by decide) hclean
  exact ⟨⟨hbad, (optimizeRoute_history Engine.new svc ⟨0, 0⟩ ⟨7⟩ (some "user-1") bad).1 hbad⟩,
    hok, (optimizeRoute_history Engine.new svc ⟨0, 0⟩ ⟨7⟩ (some "user-1") input).2 t hok⟩

end Engine

end RoutePlanner
