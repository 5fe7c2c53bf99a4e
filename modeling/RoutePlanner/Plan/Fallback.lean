import RoutePlanner.Plan.Request
import RoutePlanner.Plan.NearestNeighbor
import RoutePlanner.Optimizer.Contract
import RoutePlanner.Service.Error

/-!
# Planning with a fallback

A tour is planned in two steps around one call to the optimiser.

* `TourRequest.optimizerRequest` checks the tour request; a request with issues is invalid
  input (101), and otherwise the optimiser is asked with the request's origin, destinations and
  resolved options.
* `TourRequest.settle` takes what the optimiser gave. Its plan is used only when it is healthy:
  when the optimiser failed, signalled a fallback itself, or reports a gap above the tolerance,
  the plan is the nearest-neighbour tour under a fresh route identifier, and the diagnostics
  say why. The result, with its drawing, must pass its own checks, or it is an invalid result
  (6).

So valid input always gets a plan back whatever the optimiser does.
-/

namespace RoutePlanner

open RoutePlanner.Optimizer

/-- **The request to the optimiser** for a valid tour request. -/
def TourRequest.optimizerRequest (input : TourRequest) : Except ServiceError Request :=
  let issues := input.issues ""
  if issues.isEmpty then .ok (Request.ofTour input) else .error (ServiceError.invalidInput issues)

/-- The nearest-neighbour plan of a tour request under a route identifier. -/
def TourRequest.localPlan (input : TourRequest) (routeId : Uuid) : IdentifiedPlan :=
  ⟨routeId, nearestNeighborPlan input.origin input.destinations⟩

/-- **The plan and diagnostics** for what the optimiser gave: its own plan when healthy, else
the local plan under `freshId`. -/
def TourRequest.choosePlan (input : TourRequest) (outcome : Except Failure Answer)
    (freshId : Uuid) : IdentifiedPlan × PlanDiagnostics :=
  match outcome with
  | .ok a =>
    match fallbackReason a.diagnostics input.solverOptions.fallbackTolerance with
    | none => (⟨a.routeId, a.plan⟩, PlanDiagnostics.ofOptimizer a.diagnostics)
    | some reason => (input.localPlan freshId, PlanDiagnostics.fallback reason (some a.diagnostics) none)
  | .error e => (input.localPlan freshId, PlanDiagnostics.fallback .optimizerError none (some e.code))

/-- **The result of a tour request** for what the optimiser gave, checked before it is
returned. -/
def TourRequest.settle (input : TourRequest) (outcome : Except Failure Answer) (freshId : Uuid) :
    Except ServiceError TourResult :=
  let (plan, diagnostics) := input.choosePlan outcome freshId
  let result := TourResult.ofPlan plan diagnostics
  let issues := result.issues ""
  if issues.isEmpty then .ok result else .error (ServiceError.invalidResult issues)

end RoutePlanner
