import RoutePlanner.Proofs.DoubleValue
import RoutePlanner.Proofs.Fallback

/-!
# What the optimiser is asked with

A valid tour request is put to the optimiser as a request of the optimiser's contract: its
origin's point, its destinations, no matrix, and its options resolved. Two validators meet
here. Submitted options are doubles checked for being whole and within bounds; resolved options
are counts checked against the same bounds. Resolution truncates a budget to a 32-bit count, and
on every double the first check admits this is exact: the count is the double's value
(`wholeCount_of_checkWholeRange`), so it passes the second check.

Main statement: `TourRequest.optimizerRequest_meets_contract`. It rests on the order of doubles
being the order of their values (`Float.lt_iff_value_lt`).
-/

namespace RoutePlanner

open RoutePlanner.Number RoutePlanner.Optimizer

/-! ### Range checks on doubles -/

/-- A range check passes exactly when the value is finite and neither below nor above the
bounds; the path only names the place. -/
theorem checkRange_eq_nil_iff (v lo hi : Float) (path : String) :
    checkRange v lo hi path = [] ↔ isFinite v = true ∧ ¬ v < lo ∧ ¬ hi < v := by
  unfold checkRange
  by_cases hf : isFinite v = true <;> by_cases hl : v < lo <;> by_cases hh : hi < v <;>
    simp [hf, hl, hh, GT.gt]

theorem checkWholeRange_eq_nil_iff (v lo hi : Float) (path : String) :
    SubmittedOptions.checkWholeRange v lo hi path = [] ↔
      isWholeNumber v = true ∧ checkRange v lo hi path = [] := by
  unfold SubmittedOptions.checkWholeRange
  by_cases hw : isWholeNumber v = true <;> simp [hw]

theorem toRat_nonneg (b : Binary) : 0 ≤ b.toRat :=
  mul_nonneg (Nat.cast_nonneg _) (zpow_nonneg (by norm_num) _)

/-- **A whole double within whole bounds is its count.** For bounds `lo` and `hi` that stand
for counts `l ≥ 1` and `u < 2 ^ 32`, a double that passes the whole-number range check is
positive and whole, so truncating it to a 32-bit count loses nothing: the count is the double's
value, and lies within `l … u`. -/
theorem wholeCount_of_checkWholeRange {v lo hi : Float} {path : String} {bl bh : Binary}
    (l u : Nat) (hlo : classify lo = .finite false bl) (hl : bl.toRat = l) (hpos : 1 ≤ l)
    (hhi : classify hi = .finite false bh) (hu : bh.toRat = u) (hmax : u ≤ maxCount32)
    (h : SubmittedOptions.checkWholeRange v lo hi path = []) :
    doubleValue v = some (saturatingCount32 v : ℚ) ∧ l ≤ saturatingCount32 v ∧
      saturatingCount32 v ≤ u := by
  obtain ⟨hwhole, hrange⟩ := (checkWholeRange_eq_nil_iff v lo hi path).1 h
  obtain ⟨-, hbelow, habove⟩ := (checkRange_eq_nil_iff v lo hi path).1 hrange
  -- a whole double is finite: it has a sign and a magnitude
  obtain ⟨neg, b, hv, hint⟩ : ∃ neg b, classify v = .finite neg b ∧ b.isIntegral = true := by
    unfold isWholeNumber at hwhole
    split at hwhole
    · exact ⟨_, _, ‹_›, hwhole⟩
    · cases hwhole
  have hge : (l : ℚ) ≤ (FloatClass.finite neg b).value := by
    rw [Float.lt_iff_value_lt hv hlo] at hbelow
    simpa [FloatClass.value, hl] using hbelow
  have hle : (FloatClass.finite neg b).value ≤ u := by
    rw [Float.lt_iff_value_lt hhi hv] at habove
    simpa [FloatClass.value, hu] using habove
  -- the value is at least `l ≥ 1`, so the sign is positive
  have hneg : neg = false := by
    cases neg
    · rfl
    · have : (l : ℚ) ≤ -b.toRat := by simpa [FloatClass.value] using hge
      have hl1 : (1 : ℚ) ≤ l := by exact_mod_cast hpos
      linarith [toRat_nonneg b]
  subst hneg
  have hval : b.toRat = b.truncate := Binary.toRat_of_isIntegral hint
  simp only [FloatClass.value, Bool.false_eq_true, if_false, hval] at hge hle
  have hlt : l ≤ b.truncate := by exact_mod_cast hge
  have hut : b.truncate ≤ u := by exact_mod_cast hle
  have hcount : saturatingCount32 v = b.truncate := by
    simp [saturatingCount32, hv]
    omega
  rw [hcount, doubleValue_of_classify hv]
  exact ⟨by simp [hval], hlt, hut⟩

/-! ### Resolution -/

/-- **`count` keeps the whole double `given`**: when a double is given, `count` is its exact
value; when none is, `count` is the default. -/
def KeepsCount (given : Option Float) (default count : Nat) : Prop :=
  match given with
  | some v => doubleValue v = some (count : ℚ)
  | none => count = default

/-- **A budget resolves to a count that keeps it.** A budget that is absent or passes the
whole-number range check for counts `l … u` resolves, by truncation or to a default within the
bounds, to a count that keeps it and lies within the bounds. -/
theorem keepsCount_resolved {given : Option Float} {lo hi : Float} {path : String}
    {bl bh : Binary} (l u default : Nat) (hlo : classify lo = .finite false bl) (hl : bl.toRat = l)
    (hpos : 1 ≤ l) (hhi : classify hi = .finite false bh) (hu : bh.toRat = u)
    (hmax : u ≤ maxCount32) (hdefault : l ≤ default ∧ default ≤ u)
    (h : ∀ v, given = some v → SubmittedOptions.checkWholeRange v lo hi path = []) :
    KeepsCount given default ((given.map saturatingCount32).getD default) ∧
      l ≤ (given.map saturatingCount32).getD default ∧
      (given.map saturatingCount32).getD default ≤ u := by
  cases given with
  | none => exact ⟨rfl, hdefault⟩
  | some v => exact wholeCount_of_checkWholeRange l u hlo hl hpos hhi hu hmax (h v rfl)

theorem classify_ten : classify 10.0 = .finite false ⟨5629499534213120, -49, false⟩ := by decide

theorem classify_ten_thousand :
    classify 10000.0 = .finite false ⟨5497558138880000, -39, false⟩ := by decide

theorem classify_one : classify 1.0 = .finite false ⟨4503599627370496, -52, true⟩ := by decide

theorem classify_sixty : classify 60.0 = .finite false ⟨8444249301319680, -47, false⟩ := by
  decide

section Resolve

variable {o : SubmittedOptions} {path : String}

/-- The iteration budget of valid options resolves to a count that keeps it, within bounds. -/
theorem resolve_maxIterations (h : o.issues path = []) :
    KeepsCount o.maxIterations 4000 o.resolve.maxIterations ∧
      10 ≤ o.resolve.maxIterations ∧ o.resolve.maxIterations ≤ 10000 := by
  have hcheck : ∀ v, o.maxIterations = some v →
      SubmittedOptions.checkWholeRange v 10.0 10000.0 (Path.field path "maxIterations") = [] := by
    intro v hv
    simp only [SubmittedOptions.issues, hv, List.append_eq_nil_iff] at h
    exact h.1.1
  exact keepsCount_resolved 10 10000 4000 classify_ten (by norm_num [Binary.toRat]) (by decide)
    classify_ten_thousand (by norm_num [Binary.toRat]) (by decide) (by decide) hcheck

/-- The time budget of valid options resolves to a count that keeps it, within bounds. -/
theorem resolve_maxRuntimeSeconds (h : o.issues path = []) :
    KeepsCount o.maxRuntimeSeconds 30 o.resolve.maxRuntimeSeconds ∧
      1 ≤ o.resolve.maxRuntimeSeconds ∧ o.resolve.maxRuntimeSeconds ≤ 60 := by
  have hcheck : ∀ v, o.maxRuntimeSeconds = some v →
      SubmittedOptions.checkWholeRange v 1.0 60.0 (Path.field path "maxRuntimeSeconds") = [] := by
    intro v hv
    simp only [SubmittedOptions.issues, hv, List.append_eq_nil_iff] at h
    exact h.1.2
  exact keepsCount_resolved 1 60 30 classify_one (by norm_num [Binary.toRat]) (by decide)
    classify_sixty (by norm_num [Binary.toRat]) (by decide) (by decide) hcheck

/-- The tolerance of valid options resolves to one within `[0, 1]`, at any path. -/
theorem resolve_fallbackTolerance (h : o.issues path = []) (path' : String) :
    checkRange o.resolve.fallbackTolerance 0.0 1.0 path' = [] := by
  cases ht : o.fallbackTolerance with
  | none =>
    simp only [SubmittedOptions.resolve, ht, Option.getD_none, SolverOptions.defaults]
    exact (checkRange_eq_nil_iff _ _ _ _).2 ⟨by decide, by decide, by decide⟩
  | some v =>
    simp only [SubmittedOptions.issues, ht, List.append_eq_nil_iff] at h
    simp only [SubmittedOptions.resolve, ht, Option.getD_some]
    exact (checkRange_eq_nil_iff _ _ _ _).2 ((checkRange_eq_nil_iff _ _ _ _).1 h.2)

/-- **Valid options resolve to valid options.** -/
theorem SubmittedOptions.resolve_issues (h : o.issues path = []) (path' : String) :
    o.resolve.issues path' = [] := by
  obtain ⟨-, hi₁, hi₂⟩ := resolve_maxIterations h
  obtain ⟨-, hr₁, hr₂⟩ := resolve_maxRuntimeSeconds h
  simp [SolverOptions.issues, hi₁, hi₂, hr₁, hr₂, resolve_fallbackTolerance h]

end Resolve

theorem SolverOptions.defaults_issues (path : String) : SolverOptions.defaults.issues path = [] := by
  simp only [SolverOptions.issues, SolverOptions.defaults]
  refine List.append_eq_nil_iff.2 ⟨by simp, (checkRange_eq_nil_iff _ _ _ _).2 ⟨?_, ?_, ?_⟩⟩ <;>
    decide

/-- The resolved options of a valid request are valid. -/
theorem TourRequest.solverOptions_issues {input : TourRequest} (h : input.issues "" = [])
    (path : String) : input.solverOptions.issues path = [] := by
  cases ho : input.options with
  | none => simpa [TourRequest.solverOptions, ho] using SolverOptions.defaults_issues path
  | some o =>
    simp only [TourRequest.issues, ho, List.append_eq_nil_iff] at h
    simpa [TourRequest.solverOptions, ho] using SubmittedOptions.resolve_issues h.2 path

/-- **What the optimiser is asked with.** A valid tour request is put to the optimiser as the
request of its origin's point, its destinations, no matrix and its resolved options, and that
request passes the optimiser's own check. Resolution keeps what was given: the strategy, the two
budgets as counts equal to the whole doubles submitted, the tolerance unchanged; what was not
given is the default (quality, 4000 iterations, 30 seconds, tolerance 0.15). -/
theorem TourRequest.optimizerRequest_meets_contract (input : TourRequest)
    (h : input.issues "" = []) :
    input.optimizerRequest =
        .ok ⟨input.origin.coordinates, input.destinations, none, input.solverOptions⟩ ∧
      (Request.ofTour input).issues "" = [] ∧
      input.solverOptions.strategy = (input.options.bind (·.strategy)).getD .quality ∧
      KeepsCount (input.options.bind (·.maxIterations)) 4000
        input.solverOptions.maxIterations ∧
      KeepsCount (input.options.bind (·.maxRuntimeSeconds)) 30
        input.solverOptions.maxRuntimeSeconds ∧
      input.solverOptions.fallbackTolerance =
        (input.options.bind (·.fallbackTolerance)).getD 0.15 := by
  refine ⟨optimizerRequest_of_valid input h, ?_, ?_⟩
  · -- the origin's point and the destinations were checked as part of the tour request
    have hparts := h
    simp only [TourRequest.issues, List.append_eq_nil_iff] at hparts
    obtain ⟨⟨horigin, hdest⟩, -⟩ := hparts
    have hpoint : input.origin.coordinates.issues (Path.field "" "origin") = [] := by
      simp only [Stop.issues, List.append_eq_nil_iff] at horigin
      exact horigin.2
    simp [Request.issues, Request.ofTour, hpoint, hdest, TourRequest.solverOptions_issues h]
  · cases ho : input.options with
    | none => simp [TourRequest.solverOptions, SolverOptions.defaults, KeepsCount, ho]
    | some o =>
      have hvalid : o.issues (Path.field "" "options") = [] := by
        simp only [TourRequest.issues, ho, List.append_eq_nil_iff] at h
        exact h.2
      simp only [TourRequest.solverOptions, ho, Option.map_some, Option.getD_some,
        Option.bind_some]
      exact ⟨rfl, (resolve_maxIterations hvalid).1, (resolve_maxRuntimeSeconds hvalid).1, rfl⟩

/-- A tour from one depot to one stop, with a fast strategy, a budget of 100 iterations and the
defaults for the rest. -/
def sampleTour : TourRequest :=
  ⟨⟨"depot", none, 52.5, 13.4⟩, [⟨"a", some "first", 52.52, 13.405⟩],
    some { strategy := some .fast, maxIterations := some 100.0 }⟩

theorem sampleTour_meets_contract :
    sampleTour.issues "" = [] ∧
      (sampleTour.optimizerRequest = .ok ⟨sampleTour.origin.coordinates, sampleTour.destinations,
          none, sampleTour.solverOptions⟩ ∧
        (Request.ofTour sampleTour).issues "" = [] ∧
        sampleTour.solverOptions.strategy = (sampleTour.options.bind (·.strategy)).getD .quality ∧
        KeepsCount (sampleTour.options.bind (·.maxIterations)) 4000
          sampleTour.solverOptions.maxIterations ∧
        KeepsCount (sampleTour.options.bind (·.maxRuntimeSeconds)) 30
          sampleTour.solverOptions.maxRuntimeSeconds ∧
        sampleTour.solverOptions.fallbackTolerance =
          (sampleTour.options.bind (·.fallbackTolerance)).getD 0.15) :=
  have h : sampleTour.issues "" = [] := by decide
  ⟨h, TourRequest.optimizerRequest_meets_contract sampleTour h⟩

end RoutePlanner
