import RoutePlanner.Plan.Options
import RoutePlanner.Optimizer.Failure

/-!
# Diagnostics of a solve

`Diagnostics` is what the optimiser reports about its own solve: the strategy, the solver's
name, the iterations spent, the relative optimality gap (zero means proven optimal), whether it
fell back itself, and the time spent. Valid diagnostics name a solver, have a gap within
`[0, 1]` and a finite, non-negative time.

`PlanDiagnostics` says where a returned plan came from: the optimiser's diagnostics when it
answered, and, when the library used its own nearest-neighbour plan instead, why
(`FallbackReason`) and with which failure code if the optimiser failed. Valid plan diagnostics
have a reason and a strategy exactly when a fallback was used, and a failure code only when the
reason is a failure of the optimiser.

`fallbackReason` is the rule for discarding an answer of the optimiser: when it signalled a
fallback itself, or when its gap exceeds the tolerance.
-/

namespace RoutePlanner

open RoutePlanner.Json RoutePlanner.Optimizer

/-- What the optimiser reports about a solve. -/
structure Diagnostics where
  strategy : Strategy
  solver : String
  iterations : Nat
  gap : Float
  fallbackUsed : Bool
  executionMs : Float

/-- Why the library used its own plan. -/
inductive FallbackReason where
  | optimizerFallbackSignaled
  | optimizerGapExceeded
  | optimizerError
  deriving DecidableEq, Repr

/-- The planner used in a fallback. -/
inductive FallbackStrategy where
  | nearestNeighbor
  deriving DecidableEq, Repr

/-- Where a plan came from. -/
structure PlanDiagnostics where
  optimizer : Option Diagnostics
  fallbackUsed : Bool
  fallbackReason : Option FallbackReason
  fallbackStrategy : Option FallbackStrategy
  optimizerErrorCode : Option ErrorCode

namespace Diagnostics

/-- The issues of reported diagnostics. -/
def issues (d : Diagnostics) (path : String) : List Issue :=
  checkNonEmpty d.solver (Path.field path "solver") ++
    checkRange d.gap 0.0 1.0 (Path.field path "gap") ++
    checkNonNegative d.executionMs (Path.field path "executionMs")

/-- Diagnostics as JSON. -/
def toJson (d : Diagnostics) : Value :=
  .object [("strategy", d.strategy.toJson), ("solver", .string d.solver),
    ("iterations", .ofNat d.iterations), ("gap", .ofFloat d.gap),
    ("fallbackUsed", .bool d.fallbackUsed), ("executionMs", .ofFloat d.executionMs)]

/-- Diagnostics from JSON. -/
def ofJson (v : Value) : Decoded Diagnostics := do
  let v ← v.asRecord [("strategy", false), ("solver", false), ("iterations", false),
    ("gap", false), ("fallbackUsed", false), ("executionMs", false)]
  pure ⟨← v.required "strategy" Strategy.ofJson, ← v.required "solver" Value.toStr,
    ← v.required "iterations" (Value.toCount 64), ← v.required "gap" Value.toFloat,
    ← v.required "fallbackUsed" Value.toBool, ← v.required "executionMs" Value.toFloat⟩

end Diagnostics

namespace FallbackReason

/-- The reason's name on the wire. -/
def name : FallbackReason → String
  | .optimizerFallbackSignaled => "optimizer_fallback_signaled"
  | .optimizerGapExceeded => "optimizer_gap_exceeded"
  | .optimizerError => "optimizer_error"

/-- A reason from JSON. -/
def ofJson : Value → Decoded FallbackReason :=
  Value.toChoice ([.optimizerFallbackSignaled, .optimizerGapExceeded, .optimizerError].map
    fun r => (r.name, r))

end FallbackReason

/-- **Why an answer of the optimiser is discarded**, if it is: a fallback it signalled
itself, or a gap above the tolerance. -/
def fallbackReason (d : Diagnostics) (tolerance : Float) : Option FallbackReason :=
  if d.fallbackUsed then some .optimizerFallbackSignaled
  else if d.gap > tolerance then some .optimizerGapExceeded
  else none

namespace PlanDiagnostics

/-- The diagnostics of a plan the optimiser delivered. -/
def ofOptimizer (d : Diagnostics) : PlanDiagnostics := ⟨some d, false, none, none, none⟩

/-- The diagnostics of a fallback plan. -/
def fallback (reason : FallbackReason) (optimizer : Option Diagnostics)
    (code : Option ErrorCode) : PlanDiagnostics :=
  ⟨optimizer, true, some reason, some .nearestNeighbor, code⟩

/-- The issues of plan diagnostics. -/
def issues (d : PlanDiagnostics) (path : String) : List Issue :=
  (match d.optimizer with
   | some o => o.issues (Path.field path "optimizer")
   | none => []) ++
    check (d.fallbackUsed == d.fallbackReason.isSome) (Path.field path "fallbackReason")
      "must be set exactly when fallbackUsed is true" ++
    check (d.fallbackUsed == d.fallbackStrategy.isSome) (Path.field path "fallbackStrategy")
      "must be set exactly when fallbackUsed is true" ++
    check (d.optimizerErrorCode.isNone || d.fallbackReason == some .optimizerError)
      (Path.field path "optimizerErrorCode")
      "only allowed when the fallback reason is optimizer_error"

/-- Plan diagnostics as JSON; every key is present. -/
def toJson (d : PlanDiagnostics) : Value :=
  .object [("optimizer", Value.ofOption Diagnostics.toJson d.optimizer),
    ("fallbackUsed", .bool d.fallbackUsed),
    ("fallbackReason", Value.ofOption (fun r => .string r.name) d.fallbackReason),
    ("fallbackStrategy", Value.ofOption (fun _ => .string "nearest_neighbor") d.fallbackStrategy),
    ("optimizerErrorCode", Value.ofOption ErrorCode.toJson d.optimizerErrorCode)]

/-- Plan diagnostics from JSON. -/
def ofJson (v : Value) : Decoded PlanDiagnostics := do
  let v ← v.asRecord [("optimizer", false), ("fallbackUsed", false), ("fallbackReason", false),
    ("fallbackStrategy", false), ("optimizerErrorCode", false)]
  pure ⟨← v.optional "optimizer" Diagnostics.ofJson, ← v.required "fallbackUsed" Value.toBool,
    ← v.optional "fallbackReason" FallbackReason.ofJson,
    ← v.optional "fallbackStrategy" (Value.toChoice [("nearest_neighbor", .nearestNeighbor)]),
    ← v.optional "optimizerErrorCode" ErrorCode.ofJson⟩

end PlanDiagnostics

end RoutePlanner
