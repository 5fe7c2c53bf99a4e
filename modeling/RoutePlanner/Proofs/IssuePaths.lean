import RoutePlanner.Optimizer.Wire
import RoutePlanner.Distance.Request

/-!
# Issues below a path

Every checker of the library takes the path of the value it checks and names its issues by
paths built from it with `Path.field` and `Path.index`. Checking a value below a path `p` gives
the issues of checking it at the root, each moved below `p` (`Relocatable`): a path `r` becomes
`p` when `r` is the root, `r` when `p` is, and `p.r` otherwise (`Path.under`). Main statement:
`relocatable_checks`, for every checker of a request, an answer or a result, and for optional
values.

The argument is the algebra of paths.

* Building a path commutes with moving it: `field (under p q) n = under p (field q n)` for a
  field name `n` (`Path.field_under`), and `index (under p q) i = under p (index q i)` below any
  path `q` but the root (`Path.index_under`). At the root the second fails: `index "" i` is
  `[i]`, and moving it below `p` gives `p.[i]`, not `p[i]`. So an index must never be taken
  of the root path, and the checkers never do: every list sits below a field.
* An elementary check names its issues by its own path, so it moves (`check_under`).
* A checker that calls others at paths built from its own moves when they do; each lemma
  `….issues_under` is one such step, and the lists of items and rows are inductions over the
  list. Optional fields are checked as `optionalIssues` checks an optional value.
-/

namespace RoutePlanner

open RoutePlanner.Optimizer

/-- **The path `r` below `p`**: `p` when `r` is the root, `r` when `p` is the root, and `r`
joined to `p` by a dot otherwise. -/
def Path.under (p r : String) : String :=
  if r.isEmpty then p else if p.isEmpty then r else p ++ "." ++ r

/-- An issue moved below `p`. -/
def Issue.under (p : String) (i : Issue) : Issue := ⟨Path.under p i.path, i.message⟩

/-- **A checker that moves with its path**: the issues of a value below any path are its issues
at the root, in the same order and with the same messages, each moved below that path. -/
def Relocatable {α : Type} (issues : α → String → List Issue) : Prop :=
  ∀ v p, issues v p = (issues v "").map (Issue.under p)

/-- The check of an optional value: the value's issues at the same path when it is present,
none when it is absent. The optional fields of requests and results are checked this way. -/
def optionalIssues {α : Type} (issues : α → String → List Issue) :
    Option α → String → List Issue
  | some v, path => issues v path
  | none, _ => []

/-! ### The algebra of paths -/

namespace Path

@[simp] theorem under_root (p : String) : under p "" = p := by simp [under]

theorem field_ne_root (p : String) {name : String} (hn : name ≠ "") : field p name ≠ "" := by
  unfold field
  split <;> simp_all

theorem index_ne_root (q : String) (i : Nat) : index q i ≠ "" := by
  simp [index]

/-- Below a path that is not the root, moving is joining as a field. -/
theorem under_of_ne_root (p : String) {r : String} (hr : r ≠ "") : under p r = field p r := by
  simp [under, field, hr]

/-- Fields of fields: the dots associate. -/
theorem field_field (p : String) {q : String} (hq : q ≠ "") (name : String) :
    field (field p q) name = field p (field q name) := by
  have hq' : q.isEmpty = false := by simpa using hq
  unfold field
  by_cases hp : p.isEmpty <;> simp [hp, hq', String.append_assoc]

/-- **A field of a moved path is the moved field.** -/
theorem field_under (p q : String) {name : String} (hn : name ≠ "") :
    field (under p q) name = under p (field q name) := by
  by_cases hq : q = ""
  · subst hq
    simp [field, under_of_ne_root p hn]
  · rw [under_of_ne_root p hq, under_of_ne_root p (field_ne_root q hn), field_field p hq]

/-- **An index of a moved path is the moved index**, below any path but the root. -/
theorem index_under (p : String) {q : String} (hq : q ≠ "") (i : Nat) :
    index (under p q) i = under p (index q i) := by
  rw [under_of_ne_root p hq, under_of_ne_root p (index_ne_root q i)]
  unfold index field
  split <;> simp [String.append_assoc]

end Path

/-- **A checker moves when moving its path moves its issues**, below every path. -/
theorem relocatable_of_under {α : Type} {issues : α → String → List Issue}
    (h : ∀ v p q, issues v (Path.under p q) = (issues v q).map (Issue.under p)) :
    Relocatable issues := by
  intro v p
  simpa using h v p ""

section Elementary

variable (p q : String)

theorem check_under (ok : Bool) (message : String) :
    check ok (Path.under p q) message = (check ok q message).map (Issue.under p) := by
  cases ok <;> rfl

theorem checkRange_under (value lo hi : Float) :
    checkRange value lo hi (Path.under p q) = (checkRange value lo hi q).map (Issue.under p) := by
  -- one issue at most, at the path itself
  unfold checkRange
  split
  · rfl
  · split
    · rfl
    · split <;> rfl

theorem checkNonNegative_under (value : Float) :
    checkNonNegative value (Path.under p q) = (checkNonNegative value q).map (Issue.under p) :=
  check_under p q _ _

theorem checkNonEmpty_under (value : String) :
    checkNonEmpty value (Path.under p q) = (checkNonEmpty value q).map (Issue.under p) :=
  check_under p q _ _

theorem checkWholeRange_under (value lo hi : Float) :
    SubmittedOptions.checkWholeRange value lo hi (Path.under p q) =
      (SubmittedOptions.checkWholeRange value lo hi q).map (Issue.under p) := by
  unfold SubmittedOptions.checkWholeRange
  split
  · rfl
  · exact checkRange_under p q value lo hi

/-- **An optional value moves when its checker does.** -/
theorem optionalIssues_under {α : Type} {issues : α → String → List Issue}
    (h : ∀ v p q, issues v (Path.under p q) = (issues v q).map (Issue.under p)) (o : Option α) :
    optionalIssues issues o (Path.under p q) = (optionalIssues issues o q).map (Issue.under p) := by
  cases o with
  | none => rfl
  | some v => exact h v p q

end Elementary

/-! ### Points, stops and options -/

theorem Coordinates.issues_under (c : Coordinates) (p q : String) :
    c.issues (Path.under p q) = (c.issues q).map (Issue.under p) := by
  simp (disch := decide) only [Coordinates.issues, Path.field_under, checkRange_under,
    List.map_append]

theorem Stop.issues_under (s : Stop) (p q : String) :
    s.issues (Path.under p q) = (s.issues q).map (Issue.under p) := by
  cases hl : s.label <;>
    simp (disch := decide) only [Stop.issues, hl, Path.field_under, checkNonEmpty_under,
      Coordinates.issues_under, List.map_append, List.map_nil]

theorem SolverOptions.issues_under (o : SolverOptions) (p q : String) :
    o.issues (Path.under p q) = (o.issues q).map (Issue.under p) := by
  simp (disch := decide) only [SolverOptions.issues, Path.field_under, check_under,
    checkRange_under, List.map_append]

theorem SubmittedOptions.issues_under (o : SubmittedOptions) (p q : String) :
    o.issues (Path.under p q) = (o.issues q).map (Issue.under p) := by
  -- each budget is checked only when it is given
  cases hi : o.maxIterations <;> cases hr : o.maxRuntimeSeconds <;>
    cases ht : o.fallbackTolerance <;>
    simp (disch := decide) only [SubmittedOptions.issues, hi, hr, ht, Path.field_under,
      checkWholeRange_under, checkRange_under, List.map_append, List.map_nil]

/-- The destinations of a request, below a path that is not the root. -/
theorem destinationIssues_under (ds : List Stop) (p : String) {q : String} (hq : q ≠ "") :
    destinationIssues ds (Path.under p q) = (destinationIssues ds q).map (Issue.under p) := by
  -- each stop is checked at its index, which moves since the list sits below a field
  simp only [destinationIssues, check_under, Path.index_under p hq, Stop.issues_under,
    List.map_append, List.map_flatMap]

/-- A request's options are checked as an optional value. -/
theorem TourRequest.issues_eq (r : TourRequest) (path : String) :
    r.issues path = r.origin.issues (Path.field path "origin") ++
      destinationIssues r.destinations (Path.field path "destinations") ++
      optionalIssues SubmittedOptions.issues r.options (Path.field path "options") := by
  unfold TourRequest.issues
  cases r.options <;> rfl

theorem TourRequest.issues_under (r : TourRequest) (p q : String) :
    r.issues (Path.under p q) = (r.issues q).map (Issue.under p) := by
  simp (disch := decide) only [TourRequest.issues_eq, Path.field_under, Stop.issues_under,
    destinationIssues_under _ p (Path.field_ne_root q (show "destinations" ≠ "" by decide)),
    optionalIssues_under p _ SubmittedOptions.issues_under, List.map_append]

theorem DistanceRequest.issues_under (r : DistanceRequest) (p q : String) :
    r.issues (Path.under p q) = (r.issues q).map (Issue.under p) := by
  simp (disch := decide) only [DistanceRequest.issues, Path.field_under,
    Coordinates.issues_under, List.map_append]

/-! ### Plans, drawings and diagnostics -/

/-- The stops of a plan from a position on, below a path that is not the root. -/
theorem RoutePlan.stopIssues_under (p : String) {q : String} (hq : q ≠ "")
    (prev : Option OrderedStop) (idx : Nat) (stops : List OrderedStop) :
    RoutePlan.stopIssues (Path.under p q) prev idx stops =
      (RoutePlan.stopIssues q prev idx stops).map (Issue.under p) := by
  induction stops generalizing prev idx with
  | nil => rfl
  | cons s rest ih =>
    -- every issue of the stop is at its index or a field of it
    cases prev <;>
      simp (disch := decide) only [RoutePlan.stopIssues, Path.index_under p hq,
        Path.field_under, checkNonEmpty_under, Coordinates.issues_under, check_under, ih,
        List.map_append]

/-- The visit order of a plan from a position on, below a path that is not the root. -/
theorem RoutePlan.orderIssues_under (plan : RoutePlan) (p : String) {q : String} (hq : q ≠ "")
    (idx : Nat) (ids : List String) :
    plan.orderIssues (Path.under p q) idx ids = (plan.orderIssues q idx ids).map (Issue.under p) := by
  induction ids generalizing idx with
  | nil => rfl
  | cons id rest ih =>
    simp only [RoutePlan.orderIssues, Path.index_under p hq, check_under, ih, List.map_append]

theorem RoutePlan.issues_under (plan : RoutePlan) (p q : String) :
    plan.issues (Path.under p q) = (plan.issues q).map (Issue.under p) := by
  simp (disch := decide) only [RoutePlan.issues, Path.field_under, check_under,
    RoutePlan.stopIssues_under p (Path.field_ne_root q (show "orderedStops" ≠ "" by decide)),
    RoutePlan.orderIssues_under plan p (Path.field_ne_root q (show "visitOrder" ≠ "" by decide)),
    List.map_append]

theorem Feature.issues_under (f : Feature) (p q : String) :
    f.issues (Path.under p q) = (f.issues q).map (Issue.under p) := by
  unfold Feature.issues
  rcases f.geometry with _ | (_ | _ | _) <;>
    simp (disch := decide) only [Path.field_under, check_under, List.map_append, List.map_cons,
      List.map_nil] <;> rfl

theorem FeatureCollection.issues_under (c : FeatureCollection) (p q : String) :
    c.issues (Path.under p q) = (c.issues q).map (Issue.under p) := by
  have hq : Path.field q "features" ≠ "" := Path.field_ne_root q (by decide)
  simp (disch := decide) only [FeatureCollection.issues, Path.field_under, check_under,
    Path.index_under p hq, Feature.issues_under, List.map_append, List.map_flatMap]

theorem Diagnostics.issues_under (d : Diagnostics) (p q : String) :
    d.issues (Path.under p q) = (d.issues q).map (Issue.under p) := by
  simp (disch := decide) only [Diagnostics.issues, Path.field_under, checkNonEmpty_under,
    checkRange_under, checkNonNegative_under, List.map_append]

/-- The optimiser's diagnostics in plan diagnostics are checked as an optional value. -/
theorem PlanDiagnostics.issues_eq (d : PlanDiagnostics) (path : String) :
    d.issues path = optionalIssues Diagnostics.issues d.optimizer (Path.field path "optimizer") ++
      check (d.fallbackUsed == d.fallbackReason.isSome) (Path.field path "fallbackReason")
        "must be set exactly when fallbackUsed is true" ++
      check (d.fallbackUsed == d.fallbackStrategy.isSome) (Path.field path "fallbackStrategy")
        "must be set exactly when fallbackUsed is true" ++
      check (d.optimizerErrorCode.isNone || d.fallbackReason == some .optimizerError)
        (Path.field path "optimizerErrorCode")
        "only allowed when the fallback reason is optimizer_error" := by
  unfold PlanDiagnostics.issues
  cases d.optimizer <;> rfl

theorem PlanDiagnostics.issues_under (d : PlanDiagnostics) (p q : String) :
    d.issues (Path.under p q) = (d.issues q).map (Issue.under p) := by
  simp (disch := decide) only [PlanDiagnostics.issues_eq, Path.field_under, check_under,
    optionalIssues_under p _ Diagnostics.issues_under, List.map_append]

theorem TourResult.issues_under (r : TourResult) (p q : String) :
    r.issues (Path.under p q) = (r.issues q).map (Issue.under p) := by
  simp (disch := decide) only [TourResult.issues, Path.field_under, RoutePlan.issues_under,
    FeatureCollection.issues_under, PlanDiagnostics.issues_under, List.map_append]

/-! ### The optimiser's contract -/

namespace Optimizer

/-- The values of a row from a column on, below a path that is not the root. -/
theorem DistanceMatrix.valueIssues_under (p : String) {q : String} (hq : q ≠ "") (col : Nat)
    (row : List Float) :
    DistanceMatrix.valueIssues (Path.under p q) col row =
      (DistanceMatrix.valueIssues q col row).map (Issue.under p) := by
  induction row generalizing col with
  | nil => rfl
  | cons v vs ih =>
    simp only [DistanceMatrix.valueIssues, Path.index_under p hq, checkNonNegative_under, ih,
      List.map_append]

/-- One table, below a path that is not the root. -/
theorem DistanceMatrix.squareIssues_under (t : List (List Float)) (p : String) {q : String}
    (hq : q ≠ "") :
    DistanceMatrix.squareIssues t (Path.under p q) =
      (DistanceMatrix.squareIssues t q).map (Issue.under p) := by
  cases t with
  | nil => rfl
  | cons first rest =>
    -- each row is checked at its index, and its values at indices of that
    simp only [DistanceMatrix.squareIssues, check_under, Path.index_under p hq,
      DistanceMatrix.valueIssues_under p (Path.index_ne_root q _), List.map_append,
      List.map_flatMap]

theorem DistanceMatrix.issues_under (m : DistanceMatrix) (p q : String) :
    m.issues (Path.under p q) = (m.issues q).map (Issue.under p) := by
  have hseconds : Path.field q "seconds" ≠ "" := Path.field_ne_root q (by decide)
  simp (disch := decide) only [DistanceMatrix.issues, Path.field_under,
    DistanceMatrix.squareIssues_under _ p (Path.field_ne_root q (show "meters" ≠ "" by decide)),
    DistanceMatrix.squareIssues_under _ p hseconds, List.map_append]
  -- the tables are compared at the matrix's own path, or row by row
  split
  · rfl
  · simp only [Path.index_under p hseconds, check_under, List.map_flatMap]

theorem Request.issues_eq (r : Request) (path : String) :
    r.issues path = r.origin.issues (Path.field path "origin") ++
      destinationIssues r.destinations (Path.field path "destinations") ++
      optionalIssues DistanceMatrix.issues r.distanceMatrix (Path.field path "distanceMatrix") ++
      r.options.issues (Path.field path "options") := by
  unfold Request.issues
  cases r.distanceMatrix <;> rfl

theorem Request.issues_under (r : Request) (p q : String) :
    r.issues (Path.under p q) = (r.issues q).map (Issue.under p) := by
  simp (disch := decide) only [Request.issues_eq, Path.field_under, Coordinates.issues_under,
    destinationIssues_under _ p (Path.field_ne_root q (show "destinations" ≠ "" by decide)),
    optionalIssues_under p _ DistanceMatrix.issues_under, SolverOptions.issues_under,
    List.map_append]

/-- An answer checks its plan at its own path. -/
theorem Answer.issues_under (a : Answer) (p q : String) :
    a.issues (Path.under p q) = (a.issues q).map (Issue.under p) := by
  simp (disch := decide) only [Answer.issues, Path.field_under, RoutePlan.issues_under,
    Diagnostics.issues_under, List.map_append]

theorem WireStop.issues_under (s : WireStop) (p q : String) :
    s.issues (Path.under p q) = (s.issues q).map (Issue.under p) := by
  simp (disch := decide) only [WireStop.issues, Path.field_under, checkNonEmpty_under,
    Coordinates.issues_under, checkNonNegative_under, List.map_append]

theorem WireAnswer.issues_under (w : WireAnswer) (p q : String) :
    w.issues (Path.under p q) = (w.issues q).map (Issue.under p) := by
  have horder : Path.field q "visit_order" ≠ "" := Path.field_ne_root q (by decide)
  have hstops : Path.field q "ordered_stops" ≠ "" := Path.field_ne_root q (by decide)
  -- the visited identifiers and the stops are checked at their indices
  simp (disch := decide) only [WireAnswer.issues, Path.field_under, check_under,
    checkNonEmpty_under, checkNonNegative_under, checkRange_under, Path.index_under p horder,
    Path.index_under p hstops, WireStop.issues_under, List.map_append, List.map_flatMap]

end Optimizer

/-! ### Every checker -/

/-- **Every checker moves with its path.** For points, stops, submitted and resolved options,
tour requests, plans, drawings, diagnostics of the optimiser and of a plan, tour results,
distance matrices, requests to the optimiser, its answers in the library's form and on the wire,
distance requests, and optional values of any checker that moves: checking a value below a path
`p` gives its issues at the root, in the same order, each path `r` moved to `p`, to `r`, or to
`p.r` (`Path.under`). -/
theorem relocatable_checks :
    Relocatable Coordinates.issues ∧ Relocatable Stop.issues ∧
      Relocatable SubmittedOptions.issues ∧ Relocatable SolverOptions.issues ∧
      Relocatable TourRequest.issues ∧ Relocatable RoutePlan.issues ∧
      Relocatable FeatureCollection.issues ∧ Relocatable Diagnostics.issues ∧
      Relocatable PlanDiagnostics.issues ∧ Relocatable TourResult.issues ∧
      Relocatable Optimizer.DistanceMatrix.issues ∧ Relocatable Optimizer.Request.issues ∧
      Relocatable Optimizer.Answer.issues ∧ Relocatable Optimizer.WireAnswer.issues ∧
      Relocatable DistanceRequest.issues ∧
      ∀ {α : Type} (issues : α → String → List Issue),
        Relocatable issues → Relocatable (optionalIssues issues) := by
  refine ⟨relocatable_of_under Coordinates.issues_under, relocatable_of_under Stop.issues_under,
    relocatable_of_under SubmittedOptions.issues_under,
    relocatable_of_under SolverOptions.issues_under,
    relocatable_of_under TourRequest.issues_under, relocatable_of_under RoutePlan.issues_under,
    relocatable_of_under FeatureCollection.issues_under,
    relocatable_of_under Diagnostics.issues_under,
    relocatable_of_under PlanDiagnostics.issues_under,
    relocatable_of_under TourResult.issues_under,
    relocatable_of_under Optimizer.DistanceMatrix.issues_under,
    relocatable_of_under Optimizer.Request.issues_under,
    relocatable_of_under Optimizer.Answer.issues_under,
    relocatable_of_under Optimizer.WireAnswer.issues_under,
    relocatable_of_under DistanceRequest.issues_under, ?_⟩
  -- an optional value is checked at the path it is given, or not at all
  intro α issues h
  rintro (_ | v) p
  · rfl
  · exact h v p

end RoutePlanner
