import RoutePlanner.Engine

/-!
# The fallback rules

What a tour request gets back is fixed by what the optimiser did, by four rules:

* the optimiser failed: the nearest-neighbour plan under a fresh route identifier, with the
  failure's code and no diagnostics of the optimiser;
* the optimiser answered but signalled a fallback itself: the nearest-neighbour plan, with the
  optimiser's diagnostics and no failure code;
* it answered without a fallback but with a gap above the tolerance: the same, for that reason;
* otherwise its own plan, under its own route identifier, with its diagnostics.

The signal takes precedence over the gap, and a gap equal to the tolerance is accepted. The
tolerance is the request's own, or `0.15` when it gives none (`TourRequest.gapTolerance`). In
every case the drawing is that of the plan. `FallbackRule` states the four rules as a
relation between the optimiser's outcome and the result.

Main statements: `TourRequest.settle_eq_ok_iff` says that settling an outcome succeeds exactly
with the result the rules give, when that result passes its checks; `Engine.optimizeRoute_ok_iff`
says the same of a whole planning call on a valid request, whatever the optimiser does.
-/

namespace RoutePlanner

open RoutePlanner.Optimizer

/-! ### Comparing a double with itself -/

/-- No double is below itself, NaN included. -/
theorem Float.lt_irrefl (x : Float) : ¬ x < x := by
  have h : x.toModel.unpack.lt x.toModel.unpack = false := by
    cases x.toModel.unpack with
    | infinity s => cases s <;> rfl
    | notANumber => rfl
    | zero s => cases s <;> rfl
    | finite s m e hm =>
      -- equal exponents and mantissas compare equal, whatever the sign
      have he : compare e e = .eq := Std.ReflOrd.compare_self
      have hm' : compare m m = .eq := Std.ReflOrd.compare_self
      cases s
      · show (some ((compare e e).then (compare m m)).swap == some Ordering.lt) = false
        rw [he, hm']
        rfl
      · show (some ((compare e e).then (compare m m)) == some Ordering.lt) = false
        rw [he, hm']
        rfl
  show ¬ (x.lt x = true)
  simp only [Float.lt, decide_eq_true_eq]
  show ¬ (x.toModel.unpack.lt x.toModel.unpack = true)
  rw [h]
  decide

/-! ### The rules -/

namespace TourRequest

/-- **The tolerance on the optimiser's gap**: the request's own, else `0.15`. -/
def gapTolerance (input : TourRequest) : Float :=
  (input.options.bind (·.fallbackTolerance)).getD 0.15

/-- The resolved options carry the request's tolerance. -/
theorem solverOptions_fallbackTolerance (input : TourRequest) :
    input.solverOptions.fallbackTolerance = input.gapTolerance := by
  cases h : input.options with
  | none => simp [solverOptions, gapTolerance, h, SolverOptions.defaults]
  | some o =>
    simp [solverOptions, gapTolerance, h, SubmittedOptions.resolve, SolverOptions.defaults]

/-- The result of planning locally: the nearest-neighbour plan under `freshId`, its drawing,
and the diagnostics `d`. -/
def localResult (input : TourRequest) (freshId : Uuid) (d : PlanDiagnostics) : TourResult :=
  let plan := nearestNeighborPlan input.origin input.destinations
  ⟨⟨freshId, plan⟩, plan.drawing, d⟩

end TourRequest

/-- **The fallback rules**: the result a tour request gets for each outcome of the optimiser,
with `freshId` as the route identifier of a local plan. -/
inductive FallbackRule (input : TourRequest) (freshId : Uuid) :
    Except Failure Answer → TourResult → Prop
  /-- The optimiser failed. -/
  | failed (e : Failure) :
      FallbackRule input freshId (.error e)
        (input.localResult freshId ⟨none, true, some .optimizerError, some .nearestNeighbor,
          some e.code⟩)
  /-- The optimiser signalled a fallback itself. -/
  | signalled (a : Answer) (h : a.diagnostics.fallbackUsed = true) :
      FallbackRule input freshId (.ok a)
        (input.localResult freshId ⟨some a.diagnostics, true, some .optimizerFallbackSignaled,
          some .nearestNeighbor, none⟩)
  /-- The optimiser's gap exceeds the tolerance. -/
  | gapExceeded (a : Answer) (h : a.diagnostics.fallbackUsed = false)
      (hgap : a.diagnostics.gap > input.gapTolerance) :
      FallbackRule input freshId (.ok a)
        (input.localResult freshId ⟨some a.diagnostics, true, some .optimizerGapExceeded,
          some .nearestNeighbor, none⟩)
  /-- The optimiser's plan is used. -/
  | accepted (a : Answer) (h : a.diagnostics.fallbackUsed = false)
      (hgap : ¬ a.diagnostics.gap > input.gapTolerance) :
      FallbackRule input freshId (.ok a)
        ⟨⟨a.routeId, a.plan⟩, a.plan.drawing, ⟨some a.diagnostics, false, none, none, none⟩⟩

namespace FallbackRule

variable {input : TourRequest} {freshId : Uuid}

/-- The rules give one result for each outcome. -/
theorem unique {outcome : Except Failure Answer} {r₁ r₂ : TourResult}
    (h₁ : FallbackRule input freshId outcome r₁) (h₂ : FallbackRule input freshId outcome r₂) :
    r₁ = r₂ := by
  cases h₁ <;> cases h₂ <;> simp_all

/-- **A gap equal to the tolerance is accepted.** -/
theorem accepted_at_tolerance (a : Answer) (h : a.diagnostics.fallbackUsed = false)
    (hgap : a.diagnostics.gap = input.gapTolerance) :
    FallbackRule input freshId (.ok a)
      ⟨⟨a.routeId, a.plan⟩, a.plan.drawing, ⟨some a.diagnostics, false, none, none, none⟩⟩ :=
  .accepted a h (by rw [hgap]; exact Float.lt_irrefl _)

end FallbackRule

/-! ### Settling an outcome -/

namespace TourRequest

variable (input : TourRequest) (freshId : Uuid)

/-- **The plan chosen for an outcome follows the rules.** The case split is the one of
`choosePlan`: a failure, then the signal, then the gap against the tolerance. -/
theorem fallbackRule_choosePlan (outcome : Except Failure Answer) :
    FallbackRule input freshId outcome
      (TourResult.ofPlan (input.choosePlan outcome freshId).1
        (input.choosePlan outcome freshId).2) := by
  have htol := input.solverOptions_fallbackTolerance
  cases outcome with
  | error e => exact .failed e
  | ok a =>
    cases hused : a.diagnostics.fallbackUsed with
    | true =>
      have hr : fallbackReason a.diagnostics input.solverOptions.fallbackTolerance =
          some .optimizerFallbackSignaled := by simp [fallbackReason, hused]
      simp only [choosePlan, hr]
      exact .signalled a hused
    | false =>
      by_cases hgap : a.diagnostics.gap > input.gapTolerance
      · have hr : fallbackReason a.diagnostics input.solverOptions.fallbackTolerance =
            some .optimizerGapExceeded := by simp [fallbackReason, hused, htol, hgap]
        simp only [choosePlan, hr]
        exact .gapExceeded a hused hgap
      · have hr : fallbackReason a.diagnostics input.solverOptions.fallbackTolerance = none := by
          simp [fallbackReason, hused, htol, hgap]
        simp only [choosePlan, hr]
        exact .accepted a hused hgap

/-- Settling checks the chosen result and returns it when it passes. -/
theorem settle_eq (outcome : Except Failure Answer) :
    input.settle outcome freshId =
      let result := TourResult.ofPlan (input.choosePlan outcome freshId).1
        (input.choosePlan outcome freshId).2
      if (result.issues "").isEmpty then .ok result
      else .error (ServiceError.invalidResult (result.issues "")) := rfl

/-- **Settling succeeds exactly with the result of the rules**, and only when that result
passes its own checks. -/
theorem settle_eq_ok_iff (outcome : Except Failure Answer) (res : TourResult) :
    input.settle outcome freshId = .ok res ↔
      FallbackRule input freshId outcome res ∧ res.issues "" = [] := by
  have hrule := input.fallbackRule_choosePlan freshId outcome
  rw [settle_eq]
  dsimp only
  generalize TourResult.ofPlan _ _ = result at hrule ⊢
  constructor
  · intro h
    split at h
    · rename_i hclean
      cases h
      exact ⟨hrule, List.isEmpty_iff.mp hclean⟩
    · cases h
  · rintro ⟨hres, hclean⟩
    obtain rfl := hrule.unique hres
    simp [hclean]

/-- A valid request is put to the optimiser as it stands. -/
theorem optimizerRequest_of_valid (h : input.issues "" = []) :
    input.optimizerRequest = .ok (Request.ofTour input) := by
  simp [optimizerRequest, h]

/-- An invalid request is refused as invalid input carrying its issues. -/
theorem optimizerRequest_of_invalid (h : input.issues "" ≠ []) :
    input.optimizerRequest = .error (ServiceError.invalidInput (input.issues "")) := by
  have hne : (input.issues "").isEmpty = false := List.isEmpty_eq_false_iff.mpr h
  simp [optimizerRequest, hne]

end TourRequest

/-! ### A planning call -/

namespace Engine

variable (e : Engine) (svc : Services) (now : Instant) (freshId : Uuid) (user : Option String)
  (input : TourRequest)

/-- **An invalid request is refused before the optimiser is asked**: it is invalid input
carrying its issues, nothing is sent, and the engine is left as it was. -/
theorem optimizeRoute_of_invalid (h : input.issues "" ≠ []) :
    e.optimizeRoute svc now freshId user input =
      ⟨.error (ServiceError.invalidInput (input.issues "")), e, Traffic.none⟩ := by
  simp only [optimizeRoute, input.optimizerRequest_of_invalid h]

/-- **A planning call on a valid request follows the fallback rules**: whatever the optimiser
does with the request, the call succeeds exactly with the result the rules give for its
outcome, when that result passes its checks, together with the request's digest. -/
theorem optimizeRoute_ok_iff (h : input.issues "" = []) (t : DigestedTour) :
    (e.optimizeRoute svc now freshId user input).answer = .ok t ↔
      FallbackRule input freshId (svc.optimizer (Request.ofTour input)).result t.result ∧
        t.result.issues "" = [] ∧ t.paramsDigest = input.digest := by
  simp only [optimizeRoute, input.optimizerRequest_of_valid h]
  cases hs : input.settle (svc.optimizer (Request.ofTour input)).result freshId with
  | error err =>
    have hno : ¬ (FallbackRule input freshId (svc.optimizer (Request.ofTour input)).result
        t.result ∧ t.result.issues "" = []) := by
      rw [← TourRequest.settle_eq_ok_iff, hs]
      simp
    simp only [reduceCtorEq, false_iff]
    exact fun ⟨h₁, h₂, _⟩ => hno ⟨h₁, h₂⟩
  | ok res =>
    have hyes := (input.settle_eq_ok_iff freshId _ res).mp hs
    constructor
    · intro ht
      cases ht
      exact ⟨hyes.1, hyes.2, rfl⟩
    · rintro ⟨h₁, h₂, h₃⟩
      obtain rfl := hyes.1.unique h₁
      cases t
      simp_all

/-- A depot and one stop, planned by a new engine while the optimiser cannot be reached: the
call gives back the local plan exactly as the rule for a failure says. -/
theorem optimizeRoute_ok_iff_unreachable :
    let input : TourRequest :=
      ⟨⟨"depot", none, 35.681236, 139.767125⟩, [⟨"a", none, 35.658581, 139.745433⟩], none⟩
    let svc : Services :=
      ⟨fun _ => ⟨.error ⟨.network, "connection refused", none, some 1, none⟩, []⟩,
        fun _ now => ⟨.ok (Maps.fixedDistance now), []⟩, none⟩
    let t : DigestedTour :=
      ⟨input.localResult ⟨7⟩ ⟨none, true, some .optimizerError, some .nearestNeighbor,
        some .network⟩, input.digest⟩
    input.issues "" = [] ∧
      ((Engine.new.optimizeRoute svc ⟨0, 0⟩ ⟨7⟩ none input).answer = .ok t ↔
        FallbackRule input ⟨7⟩ (svc.optimizer (Request.ofTour input)).result t.result ∧
          t.result.issues "" = [] ∧ t.paramsDigest = input.digest) := by
  intro input svc t
  have hvalid : input.issues "" = [] := by decide
  exact ⟨hvalid, optimizeRoute_ok_iff Engine.new svc ⟨0, 0⟩ ⟨7⟩ none input hvalid t⟩

end Engine

end RoutePlanner
