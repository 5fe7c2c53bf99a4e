import RoutePlanner.Proofs.Fallback
import Mathlib.Data.List.Perm.Basic

/-!
# Which stops a returned plan visits

A plan is a tour of a tour request (`RoutePlan.IsTourOf`) when its first stop is the request's
origin, with its identifier and coordinates, and its visiting order lists the identifiers of the
request's destinations, each as often as the request does, in some order.

The nearest-neighbour planner always builds one. Each of its steps takes the nearest remaining
destination out of the list (`nearestIndex_lt`: the nearest candidate is one of the
candidates), so the stops it records are the destinations in some order (`tourFrom_perm`), and
the plan starts at the origin (`nearestNeighborPlan_isTourOf`).

A planning call returns that plan whenever it falls back. When the optimiser's answer is
healthy, the call returns the optimiser's own plan under the optimiser's route identifier, and
nothing compares that plan with the request: the answer's checks only ask that the plan be
consistent in itself. So a consistent plan over other stops comes back as it is
(`optimizeRoute_keeps_foreign_plan`).

Main statement: `Engine.optimizeRoute_plan_tour_or_optimizer`.
-/

namespace RoutePlanner

open RoutePlanner.Optimizer

/-! ### The nearest candidate is a candidate -/

/-- Keeping the closer of two candidates keeps an index below `n` when both are. -/
theorem closerOf_fst_lt {n : Nat} (p : Coordinates) {best : Nat × Float} {cand : Stop × Nat}
    (hb : best.1 < n) (hc : cand.2 < n) : (closerOf p best cand).1 < n := by
  dsimp only [closerOf]
  split
  · exact hc
  · exact hb

/-- A scan over indexed candidates keeps an index below `n` when the start and every candidate
have one. -/
theorem foldl_closerOf_fst_lt {n : Nat} (p : Coordinates) (cands : List (Stop × Nat))
    {best : Nat × Float} (hb : best.1 < n) (hc : ∀ c ∈ cands, c.2 < n) :
    (cands.foldl (closerOf p) best).1 < n := by
  induction cands generalizing best with
  | nil => exact hb
  | cons c cs ih =>
    exact ih (closerOf_fst_lt p hb (hc c List.mem_cons_self))
      (fun c' h => hc c' (List.mem_cons_of_mem _ h))

/-- **The nearest candidate is one of the candidates**: its index is within the list, even
when every distance is NaN and the scan keeps its start `0`. -/
theorem nearestIndex_lt (p : Coordinates) (c : Stop) (cs : List Stop) :
    (nearestIndex p (c :: cs)).1 < (c :: cs).length := by
  apply foldl_closerOf_fst_lt
  · simp
  · rintro ⟨s, i⟩ hmem
    have := List.mem_zipIdx hmem
    omega

/-! ### A nearest-neighbour tour visits every destination once -/

/-- The stop a plan records, without its position, leg and running totals. -/
def OrderedStop.toStop (s : OrderedStop) : Stop := ⟨s.id, s.label, s.lat, s.lng⟩

@[simp] theorem legStop_toStop (s : Stop) (seq : Nat) (d distance duration : Float) :
    (legStop s seq d distance duration).toStop = s := rfl

@[simp] theorem OrderedStop.toStop_id (s : OrderedStop) : s.toStop.id = s.id := rfl

/-- **A tour visits every remaining stop once**: the stops it records are the remaining ones in
some order. The induction follows `tourFrom`, whose every step takes the nearest remaining stop
out of the list; the step that would take none cannot happen. -/
theorem tourFrom_perm (remaining : List Stop) (here : Coordinates) (distance duration : Float)
    (seq : Nat) :
    ((tourFrom remaining here distance duration seq).1.map OrderedStop.toStop).Perm remaining := by
  induction remaining, here, distance, duration, seq using tourFrom.induct with
  | case1 here distance duration seq => simp [tourFrom]
  | case2 here distance duration seq c cs i d hnear hi next distance' duration' rest fd fu hrest
      ih =>
    rw [tourFrom, hnear]
    simp only [dif_pos hi, List.map_cons, legStop_toStop]
    exact (ih.cons _).trans (List.getElem_cons_eraseIdx_perm hi)
  | case3 here distance duration seq c cs i d hnear hi =>
    have hlt := nearestIndex_lt here c cs
    rw [hnear] at hlt
    exact absurd hlt hi

/-- The stops of a nearest-neighbour plan: the origin, then the tour through the destinations. -/
theorem nearestNeighborPlan_orderedStops (origin : Stop) (destinations : List Stop) :
    (nearestNeighborPlan origin destinations).orderedStops =
      OrderedStop.origin origin :: (tourFrom destinations origin.coordinates 0.0 0.0 1).1 := by
  rcases h : tourFrom destinations origin.coordinates 0.0 0.0 1 with ⟨stops, distance, duration⟩
  simp [nearestNeighborPlan, h]

/-- The visiting order of a nearest-neighbour plan: the identifiers along the tour. -/
theorem nearestNeighborPlan_visitOrder (origin : Stop) (destinations : List Stop) :
    (nearestNeighborPlan origin destinations).visitOrder =
      (tourFrom destinations origin.coordinates 0.0 0.0 1).1.map (·.id) := by
  rcases h : tourFrom destinations origin.coordinates 0.0 0.0 1 with ⟨stops, distance, duration⟩
  simp [nearestNeighborPlan, h]

/-! ### Tours of a request -/

/-- **A tour of a request**: it starts at the request's origin, with its identifier and
coordinates, and visits the identifiers of the request's destinations in some order. -/
def RoutePlan.IsTourOf (p : RoutePlan) (input : TourRequest) : Prop :=
  p.orderedStops.head?.map (fun s => (s.id, s.lat, s.lng)) =
      some (input.origin.id, input.origin.lat, input.origin.lng) ∧
    p.visitOrder.Perm (input.destinations.map (·.id))

/-- **The nearest-neighbour plan is a tour of its request.** -/
theorem nearestNeighborPlan_isTourOf (input : TourRequest) :
    (nearestNeighborPlan input.origin input.destinations).IsTourOf input := by
  refine ⟨by simp [nearestNeighborPlan_orderedStops, OrderedStop.origin], ?_⟩
  rw [nearestNeighborPlan_visitOrder]
  -- the identifiers are read through the stops, which are the destinations in some order
  have hperm := (tourFrom_perm input.destinations input.origin.coordinates 0.0 0.0 1).map Stop.id
  simpa [List.map_map, Function.comp_def] using hperm

/-- **Which plan the rules return**: the local plan, a tour of the request, whenever the result
fell back, and otherwise the optimiser's own plan under its own route identifier. -/
theorem FallbackRule.tour_or_optimizer {input : TourRequest} {freshId : Uuid}
    {outcome : Except Failure Answer} {res : TourResult}
    (h : FallbackRule input freshId outcome res) :
    (res.diagnostics.fallbackUsed = true ∧ res.plan.plan.IsTourOf input) ∨
      (res.diagnostics.fallbackUsed = false ∧
        ∃ a, outcome = .ok a ∧ res.plan = ⟨a.routeId, a.plan⟩) := by
  cases h with
  | failed e => exact .inl ⟨rfl, nearestNeighborPlan_isTourOf input⟩
  | signalled a _ => exact .inl ⟨rfl, nearestNeighborPlan_isTourOf input⟩
  | gapExceeded a _ _ => exact .inl ⟨rfl, nearestNeighborPlan_isTourOf input⟩
  | accepted a _ _ => exact .inr ⟨rfl, a, rfl, rfl⟩

/-! ### The plan a planning call returns -/

namespace Engine

variable (e : Engine) (svc : Services) (now : Instant) (freshId : Uuid) (user : Option String)
  (input : TourRequest)

/-- **A healthy answer comes back as it is**: when the optimiser answers a valid request without
signalling a fallback and within the tolerance, and the result passes its checks, the call
returns the optimiser's plan under its route identifier, with its diagnostics. -/
theorem optimizeRoute_of_healthy (hv : input.issues "" = []) {a : Answer}
    (hout : (svc.optimizer (Request.ofTour input)).result = .ok a)
    (hused : a.diagnostics.fallbackUsed = false) (hgap : ¬ a.diagnostics.gap > input.gapTolerance)
    (hclean : (TourResult.ofPlan ⟨a.routeId, a.plan⟩ (PlanDiagnostics.ofOptimizer a.diagnostics)).issues
      "" = []) :
    (e.optimizeRoute svc now freshId user input).answer =
      .ok ⟨TourResult.ofPlan ⟨a.routeId, a.plan⟩ (PlanDiagnostics.ofOptimizer a.diagnostics),
        input.digest⟩ := by
  have hsettle : input.settle (svc.optimizer (Request.ofTour input)).result freshId =
      .ok (TourResult.ofPlan ⟨a.routeId, a.plan⟩ (PlanDiagnostics.ofOptimizer a.diagnostics)) := by
    rw [hout, TourRequest.settle_eq_ok_iff]
    exact ⟨.accepted a hused hgap, hclean⟩
  simp only [optimizeRoute, input.optimizerRequest_of_valid hv, hsettle]

/-- **The plan a planning call returns**: whenever the call succeeds, its plan is a tour of the
request (it starts at the origin and visits every destination) when the result fell back, and
otherwise it is the optimiser's own answer, plan and route identifier as they came. -/
theorem optimizeRoute_plan_tour_or_optimizer (t : DigestedTour)
    (h : (e.optimizeRoute svc now freshId user input).answer = .ok t) :
    (t.result.diagnostics.fallbackUsed = true ∧ t.result.plan.plan.IsTourOf input) ∨
      (t.result.diagnostics.fallbackUsed = false ∧
        ∃ a, (svc.optimizer (Request.ofTour input)).result = .ok a ∧
          t.result.plan = ⟨a.routeId, a.plan⟩) := by
  by_cases hv : input.issues "" = []
  · simp only [optimizeRoute, input.optimizerRequest_of_valid hv] at h
    cases hs : input.settle (svc.optimizer (Request.ofTour input)).result freshId with
    | error err => simp [hs] at h
    | ok res =>
      simp only [hs, Except.ok.injEq] at h
      subst h
      -- the result settled, so it is the one the fallback rules give
      exact ((input.settle_eq_ok_iff freshId _ res).mp hs).1.tour_or_optimizer
  · simp [optimizeRoute_of_invalid e svc now freshId user input hv] at h

/-- An optimiser that answers a depot and one stop with that very tour: its plan is used, so the
call lands on the optimiser's side of `optimizeRoute_plan_tour_or_optimizer`. -/
theorem optimizeRoute_plan_of_own_tour :
    let input : TourRequest :=
      ⟨⟨"depot", none, 35.681236, 139.767125⟩, [⟨"a", none, 35.658581, 139.745433⟩], none⟩
    let a : Answer := ⟨⟨1⟩, ⟨["a"], [⟨"depot", none, 35.681236, 139.767125, 0, 0, 0, 0, 0⟩,
      ⟨"a", none, 35.658581, 139.745433, 1, 3192, 230, 3192, 230⟩], 3192, 230⟩,
      ⟨.quality, "solver", 10, 0.05, false, 5.0⟩⟩
    let svc : Services :=
      ⟨fun _ => ⟨.ok a, []⟩, fun _ now => ⟨.ok (Maps.fixedDistance now), []⟩, none⟩
    let t : DigestedTour :=
      ⟨TourResult.ofPlan ⟨a.routeId, a.plan⟩ (PlanDiagnostics.ofOptimizer a.diagnostics), input.digest⟩
    (Engine.new.optimizeRoute svc ⟨0, 0⟩ ⟨7⟩ none input).answer = .ok t ∧
      ((t.result.diagnostics.fallbackUsed = true ∧ t.result.plan.plan.IsTourOf input) ∨
        (t.result.diagnostics.fallbackUsed = false ∧
          ∃ a, (svc.optimizer (Request.ofTour input)).result = .ok a ∧
            t.result.plan = ⟨a.routeId, a.plan⟩)) := by
  intro input a svc t
  have hsorted : a.plan.orderedStops.mergeSort (fun x y => decide (x.sequence ≤ y.sequence)) =
      a.plan.orderedStops := List.mergeSort_of_pairwise (by decide)
  have hclean : (TourResult.ofPlan ⟨a.routeId, a.plan⟩
      (PlanDiagnostics.ofOptimizer a.diagnostics)).issues "" = [] := by
    simp only [TourResult.issues, TourResult.ofPlan, RoutePlan.drawing, hsorted]
    decide
  have h := optimizeRoute_of_healthy Engine.new svc ⟨0, 0⟩ ⟨7⟩ none input (by decide) rfl rfl
    (by decide) hclean
  exact ⟨h, optimizeRoute_plan_tour_or_optimizer Engine.new svc ⟨0, 0⟩ ⟨7⟩ none input t h⟩

/-- **A healthy plan over other stops comes back as it is.** A valid request from `depot` to
`a`, and an optimiser that answers a consistent, healthy plan from `x` to `y`: the call succeeds
with that plan, which neither starts at the depot nor visits `a`. -/
theorem optimizeRoute_keeps_foreign_plan :
    let input : TourRequest :=
      ⟨⟨"depot", none, 35.681236, 139.767125⟩, [⟨"a", none, 35.658581, 139.745433⟩], none⟩
    let a : Answer := ⟨⟨1⟩, ⟨["y"], [⟨"x", none, 10.0, 20.0, 0, 0, 0, 0, 0⟩,
      ⟨"y", none, 10.5, 20.5, 1, 100, 10, 100, 10⟩], 100, 10⟩,
      ⟨.quality, "solver", 10, 0.05, false, 5.0⟩⟩
    let svc : Services :=
      ⟨fun _ => ⟨.ok a, []⟩, fun _ now => ⟨.ok (Maps.fixedDistance now), []⟩, none⟩
    input.issues "" = [] ∧ a.issues "" = [] ∧
      ∃ t : DigestedTour, (Engine.new.optimizeRoute svc ⟨0, 0⟩ ⟨7⟩ none input).answer = .ok t ∧
        ¬ t.result.plan.plan.IsTourOf input := by
  intro input a svc
  have hsorted : a.plan.orderedStops.mergeSort (fun x y => decide (x.sequence ≤ y.sequence)) =
      a.plan.orderedStops := List.mergeSort_of_pairwise (by decide)
  have hclean : (TourResult.ofPlan ⟨a.routeId, a.plan⟩
      (PlanDiagnostics.ofOptimizer a.diagnostics)).issues "" = [] := by
    simp only [TourResult.issues, TourResult.ofPlan, RoutePlan.drawing, hsorted]
    decide
  refine ⟨by decide, by decide, _, optimizeRoute_of_healthy Engine.new svc ⟨0, 0⟩ ⟨7⟩ none input
    (by decide) rfl rfl (by decide) hclean, ?_⟩
  -- the plan starts at `x`, not at the depot
  rintro ⟨hfirst, -⟩
  simp [TourResult.ofPlan, input, a] at hfirst

end Engine

end RoutePlanner
