import RoutePlanner.Optimizer.Contract
import RoutePlanner.Proofs.DoubleText

/-!
# When a matrix of leg costs passes its check

A `DistanceMatrix` holds two tables, metres and seconds. Its check is made of partial tests:
each table is tested against its own first row (every row as long as the first, no row empty,
as many rows as the first row has values), and the two tables are compared only by their row
counts and then row by row. Main statement: `DistanceMatrix.issues_eq_nil_iff_square`.
Together the tests say exactly that both tables are `n × n` for one `n ≥ 1` and that every
value is finite and not below zero.

The argument has three steps.

* A value passes `checkNonNegative` exactly when it is finite and `0 ≤ v`: the check asks
  `¬ v < 0`, which is `0 ≤ v` for a double that is not NaN (`Float.le_iff_not_lt`).
* A table passes `squareIssues` exactly when it is `n × n` for some `n ≥ 1` with every value
  measured (`squareIssues_eq_nil_iff`): `n` is the length of the first row, which is not empty.
* Two square tables with as many rows as each other have one size, so their rows agree in length
  pairwise and the last test passes.
-/

namespace RoutePlanner.Optimizer

open RoutePlanner.Number

/-- A table of `n` rows of `n` values each. -/
def IsSquare (t : List (List Float)) (n : Nat) : Prop :=
  t.length = n ∧ ∀ row ∈ t, row.length = n

/-! ### One value -/

/-- A finite double is not NaN. -/
theorem isNaN_eq_false_of_isFinite {x : Float} (h : isFinite x = true) : x.isNaN = false := by
  obtain ⟨neg, b, hx⟩ := exists_finite_of_isFinite h
  show x.toModel.unpack.isNaN = false
  rw [Float.unpack_eq_unpacked, hx, isNaN_unpacked_finite]

/-- **A value passes the check of leg costs exactly when it is finite and not below zero.** -/
theorem checkNonNegative_eq_nil_iff (v : Float) (path : String) :
    checkNonNegative v path = [] ↔ isFinite v = true ∧ 0.0 ≤ v := by
  simp only [checkNonNegative, check_eq_nil, Bool.and_eq_true, Bool.not_eq_true',
    decide_eq_false_iff_not]
  -- the check asks `¬ v < 0`, which is `0 ≤ v` once `v` is known to be finite
  refine and_congr_right fun hv => ?_
  exact (Float.le_iff_not_lt (by decide) (isNaN_eq_false_of_isFinite hv)).symm

/-- The values of a row pass exactly when each is finite and not below zero. -/
theorem valueIssues_eq_nil_iff (rowPath : String) (col : Nat) (row : List Float) :
    DistanceMatrix.valueIssues rowPath col row = [] ↔ ∀ v ∈ row, isFinite v = true ∧ 0.0 ≤ v := by
  induction row generalizing col with
  | nil => simp [DistanceMatrix.valueIssues]
  | cons v vs ih =>
    rw [DistanceMatrix.valueIssues, List.append_eq_nil_iff, checkNonNegative_eq_nil_iff, ih,
      List.forall_mem_cons]

/-! ### One table -/

/-- A test made at every row, whatever its index, passes exactly when every row passes it. -/
theorem forall_mem_zipIdx {α : Type} (P : α → Prop) (l : List α) (k : Nat) :
    (∀ p ∈ l.zipIdx k, P p.1) ↔ ∀ a ∈ l, P a := by
  conv => rhs; rw [← List.zipIdx_map_fst k l]
  exact List.forall_mem_map.symm

/-- **A table passes its check exactly when it is `n × n` for some `n ≥ 1` and every value is
finite and not below zero.** -/
theorem squareIssues_eq_nil_iff (t : List (List Float)) (path : String) :
    DistanceMatrix.squareIssues t path = [] ↔
      ∃ n, 1 ≤ n ∧ IsSquare t n ∧ ∀ row ∈ t, ∀ v ∈ row, isFinite v = true ∧ 0.0 ≤ v := by
  cases t with
  | nil => simp [DistanceMatrix.squareIssues, IsSquare]
  | cons first rest =>
    simp only [DistanceMatrix.squareIssues, List.append_eq_nil_iff, List.flatMap_eq_nil_iff,
      check_eq_nil, Bool.not_eq_true', List.isEmpty_eq_false_iff, beq_iff_eq,
      valueIssues_eq_nil_iff]
    rw [forall_mem_zipIdx (fun row => (row ≠ [] ∧ row.length = first.length) ∧
      ∀ v ∈ row, isFinite v = true ∧ 0.0 ≤ v)]
    constructor
    · -- the size is the length of the first row, which is not empty
      rintro ⟨hrows, hsquare⟩
      have hfirst := hrows first List.mem_cons_self
      refine ⟨first.length, List.length_pos_iff.mpr hfirst.1.1, ⟨hsquare.symm, ?_⟩, ?_⟩
      · exact fun row h => (hrows row h).1.2
      · exact fun row h => (hrows row h).2
    · rintro ⟨n, hn, ⟨hlen, hrow⟩, hvalues⟩
      have hfirst : first.length = n := hrow first List.mem_cons_self
      refine ⟨fun row h => ⟨⟨?_, by rw [hrow row h, hfirst]⟩, hvalues row h⟩, by rw [hfirst, hlen]⟩
      exact List.ne_nil_of_length_pos (by rw [hrow row h]; exact hn)

/-! ### Both tables -/

/-- The rows of two tables of one size agree in length pairwise. -/
theorem length_eq_of_mem_zip {a b : List (List Float)} {n : Nat} (ha : IsSquare a n)
    (hb : IsSquare b n) {p : List Float × List Float} (hp : p ∈ a.zip b) :
    p.1.length = p.2.length := by
  rw [ha.2 p.1 (List.of_mem_zip hp).1, hb.2 p.2 (List.of_mem_zip hp).2]

/-- **A matrix passes its check exactly when both tables are `n × n` for one `n ≥ 1` and every
value is finite and not below zero**, at any path. The tables are tested only against their own
first rows and against each other's row counts and row lengths; these partial tests add up to
the whole shape. -/
theorem DistanceMatrix.issues_eq_nil_iff_square (m : DistanceMatrix) (path : String) :
    m.issues path = [] ↔
      ∃ n, 1 ≤ n ∧ IsSquare m.meters n ∧ IsSquare m.seconds n ∧
        ∀ row ∈ m.meters ++ m.seconds, ∀ v ∈ row, isFinite v = true ∧ 0.0 ≤ v := by
  simp only [DistanceMatrix.issues, List.append_eq_nil_iff, squareIssues_eq_nil_iff]
  constructor
  · rintro ⟨⟨⟨n, hn, hmeters, hmv⟩, ⟨n', -, hseconds, hsv⟩⟩, hagree⟩
    -- the tables have as many rows as each other, so one size
    have hrows : m.meters.length = m.seconds.length := by
      by_contra hne
      simp [hne] at hagree
    have hsize : n' = n := by rw [← hseconds.1, ← hrows, hmeters.1]
    subst hsize
    refine ⟨n', hn, hmeters, hseconds, fun row h v hv => ?_⟩
    rcases List.mem_append.mp h with h | h
    · exact hmv row h v hv
    · exact hsv row h v hv
  · rintro ⟨n, hn, hmeters, hseconds, hvalues⟩
    refine ⟨⟨⟨n, hn, hmeters, fun row h => hvalues row (List.mem_append_left _ h)⟩,
      ⟨n, hn, hseconds, fun row h => hvalues row (List.mem_append_right _ h)⟩⟩, ?_⟩
    -- both tables are `n × n`: the row counts agree, and so does every pair of rows
    have hrows : m.meters.length = m.seconds.length := by rw [hmeters.1, hseconds.1]
    simp only [hrows, bne_self_eq_false, Bool.false_eq_true, if_false, List.flatMap_eq_nil_iff,
      check_eq_nil, beq_iff_eq]
    rw [forall_mem_zipIdx (fun p : List Float × List Float => p.1.length = p.2.length)]
    exact fun p hp => length_eq_of_mem_zip hmeters hseconds hp

end RoutePlanner.Optimizer
