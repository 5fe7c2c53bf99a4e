import RoutePlanner.Validation.Issue
import RoutePlanner.Json.Decode

/-!
# Solver options

What a caller may ask of the optimiser: a strategy (`fast` or `quality`), an iteration budget,
a time budget in seconds, and the tolerance on the optimality gap above which the library falls
back to its own plan.

A caller submits `SubmittedOptions`, where every field may be absent and the numbers are
doubles. Valid submitted options have whole budgets within `10 … 10000` iterations and
`1 … 60` seconds, and a finite tolerance within `[0, 1]`. `SubmittedOptions.resolve` fills the
absent fields with the defaults (quality, 4000, 30, 0.15) and converts the budgets to counts by
truncation, clamped to 32 bits, which keeps every valid value exactly. `SolverOptions` are the
resolved options, as the optimiser receives them; they are valid under the same bounds.
-/

namespace RoutePlanner

open RoutePlanner.Number RoutePlanner.Json

/-- How hard the optimiser should work. -/
inductive Strategy where
  | fast
  | quality
  deriving DecidableEq, Repr

namespace Strategy

/-- The strategy's name on the wire. -/
def name : Strategy → String
  | .fast => "fast"
  | .quality => "quality"

/-- A strategy as JSON. -/
def toJson (s : Strategy) : Value := .string s.name

/-- A strategy from JSON. -/
def ofJson : Value → Decoded Strategy :=
  Value.toChoice [("fast", .fast), ("quality", .quality)]

end Strategy

/-- Resolved solver options. -/
structure SolverOptions where
  strategy : Strategy
  maxIterations : Nat
  maxRuntimeSeconds : Nat
  fallbackTolerance : Float

/-- Options as a caller submits them. -/
structure SubmittedOptions where
  strategy : Option Strategy := none
  maxIterations : Option Float := none
  maxRuntimeSeconds : Option Float := none
  fallbackTolerance : Option Float := none

namespace SolverOptions

/-- The options used when a caller gives none. -/
def defaults : SolverOptions := ⟨.quality, 4000, 30, 0.15⟩

/-- The issues of resolved options. -/
def issues (o : SolverOptions) (path : String) : List Issue :=
  check (10 ≤ o.maxIterations && o.maxIterations ≤ 10000) (Path.field path "maxIterations")
      "must be between 10 and 10000" ++
    check (1 ≤ o.maxRuntimeSeconds && o.maxRuntimeSeconds ≤ 60)
      (Path.field path "maxRuntimeSeconds") "must be between 1 and 60" ++
    checkRange o.fallbackTolerance 0.0 1.0 (Path.field path "fallbackTolerance")

/-- Resolved options as JSON, with the given spelling of the four keys. -/
def toJsonWith (keys : String × String × String × String) (o : SolverOptions) : Value :=
  .object [(keys.1, o.strategy.toJson), (keys.2.1, .ofNat o.maxIterations),
    (keys.2.2.1, .ofNat o.maxRuntimeSeconds), (keys.2.2.2, .ofFloat o.fallbackTolerance)]

/-- Resolved options as JSON. -/
def toJson : SolverOptions → Value :=
  toJsonWith ("strategy", "maxIterations", "maxRuntimeSeconds", "fallbackTolerance")

/-- Resolved options as the optimiser's wire format spells them. -/
def toWire : SolverOptions → Value :=
  toJsonWith ("strategy", "max_iterations", "max_runtime_seconds", "fallback_tolerance")

/-- Resolved options from JSON. -/
def ofJson (v : Value) : Decoded SolverOptions := do
  let v ← v.asRecord [("strategy", false), ("maxIterations", false),
    ("maxRuntimeSeconds", false), ("fallbackTolerance", false)]
  pure ⟨← v.required "strategy" Strategy.ofJson, ← v.required "maxIterations" (Value.toCount 32),
    ← v.required "maxRuntimeSeconds" (Value.toCount 32),
    ← v.required "fallbackTolerance" Value.toFloat⟩

end SolverOptions

namespace SubmittedOptions

/-- A whole number within `[lo, hi]`. -/
def checkWholeRange (value lo hi : Float) (path : String) : List Issue :=
  if !isWholeNumber value then [⟨path, "must be an integer"⟩] else checkRange value lo hi path

/-- The issues of submitted options; absent fields have none. -/
def issues (o : SubmittedOptions) (path : String) : List Issue :=
  (match o.maxIterations with
   | some v => checkWholeRange v 10.0 10000.0 (Path.field path "maxIterations")
   | none => []) ++
  (match o.maxRuntimeSeconds with
   | some v => checkWholeRange v 1.0 60.0 (Path.field path "maxRuntimeSeconds")
   | none => []) ++
  (match o.fallbackTolerance with
   | some v => checkRange v 0.0 1.0 (Path.field path "fallbackTolerance")
   | none => [])

/-- **Resolution.** Absent fields take the defaults; budgets are truncated to counts. -/
def resolve (o : SubmittedOptions) : SolverOptions :=
  { strategy := o.strategy.getD SolverOptions.defaults.strategy
    maxIterations := (o.maxIterations.map saturatingCount32).getD
      SolverOptions.defaults.maxIterations
    maxRuntimeSeconds := (o.maxRuntimeSeconds.map saturatingCount32).getD
      SolverOptions.defaults.maxRuntimeSeconds
    fallbackTolerance := o.fallbackTolerance.getD SolverOptions.defaults.fallbackTolerance }

/-- Submitted options as JSON; absent fields are left out. -/
def toJson (o : SubmittedOptions) : Value :=
  objectOf [("strategy", o.strategy.map Strategy.toJson),
    ("maxIterations", o.maxIterations.map .ofFloat),
    ("maxRuntimeSeconds", o.maxRuntimeSeconds.map .ofFloat),
    ("fallbackTolerance", o.fallbackTolerance.map .ofFloat)]

/-- Submitted options from JSON. -/
def ofJson (v : Value) : Decoded SubmittedOptions := do
  let v ← v.asRecord [("strategy", true), ("maxIterations", true), ("maxRuntimeSeconds", true),
    ("fallbackTolerance", true)]
  pure ⟨← v.optional "strategy" Strategy.ofJson, ← v.optional "maxIterations" Value.toFloat,
    ← v.optional "maxRuntimeSeconds" Value.toFloat,
    ← v.optional "fallbackTolerance" Value.toFloat⟩

end SubmittedOptions

end RoutePlanner
