import Mathlib.Data.List.Forall2
import RoutePlanner.Plan.Drawing

/-!
# How a plan is drawn

The drawing of a plan is a GeoJSON collection with one Point per stop and then one LineString,
and both follow the stops sorted stably by `sequence`: sorted, and with the stops of one
sequence in their order in the plan (`IsStableSortBy`). Each Point sits at the stop's
`[lng, lat]` and carries the stop's identifier, sequence, running totals and its label when it
has one (`DrawsStop`); the line runs through the same positions in the same order, through the
only one twice when there is one stop, and carries the plan's totals (`DrawsLine`). No feature
has an identifier or a bounding box.

The feature check is read as a predicate without paths first (`Feature.issues_eq_nil_iff`,
`FeatureCollection.issues_eq_nil_iff`). The drawing then passes the check exactly when the plan
has a stop: every Point passes, and the line has two positions unless there is no stop at all.

Main statement: `RoutePlan.drawing_points_then_line`.
-/

namespace RoutePlanner

open RoutePlanner.Json

/-! ### Stable sorting -/

/-- **`order` is `l` sorted stably by `key`**: a rearrangement of `l`, in non-decreasing order
of `key`, in which the entries of each key keep their order in `l`. -/
def IsStableSortBy {α : Type} (key : α → Nat) (order l : List α) : Prop :=
  order.Perm l ∧ order.Pairwise (fun a b => key a ≤ key b) ∧
    ∀ n, order.filter (fun a => key a == n) = l.filter (fun a => key a == n)

section MergeSort

variable {α : Type} (key : α → Nat) (l : List α)

theorem pairwise_mergeSort_key :
    (l.mergeSort fun a b => key a ≤ key b).Pairwise (fun a b => key a ≤ key b) := by
  have h := @List.pairwise_mergeSort α (fun a b => decide (key a ≤ key b))
    (fun a b c hab hbc => by simp only [decide_eq_true_eq] at *; omega)
    (fun a b => by simp only [Bool.or_eq_true, decide_eq_true_eq]; omega) l
  simpa using h

/-- The entries of one key come out of the sort in their order in `l`: they are a sublist of the
sorted list, since they are sorted among themselves, and they are all of its entries of that
key. -/
theorem filter_mergeSort_key (n : Nat) :
    (l.mergeSort fun a b => key a ≤ key b).filter (fun a => key a == n) =
      l.filter (fun a => key a == n) := by
  -- all entries of key `n` are equal under the order, so they are sorted among themselves
  have hsorted : (l.filter fun a => key a == n).Pairwise fun a b => decide (key a ≤ key b) := by
    refine List.pairwise_of_forall_mem_list fun a ha b hb => ?_
    simp only [List.mem_filter, beq_iff_eq] at ha hb
    simp [ha.2, hb.2]
  have hsub :
      List.Sublist (l.filter fun a => key a == n) (l.mergeSort fun a b => key a ≤ key b) :=
    @List.sublist_mergeSort α (fun a b => decide (key a ≤ key b)) l
      (fun a b c hab hbc => by simp only [decide_eq_true_eq] at *; omega)
      (fun a b => by simp only [Bool.or_eq_true, decide_eq_true_eq]; omega)
      _ hsorted List.filter_sublist
  have hsub' := hsub.filter (fun a => key a == n)
  rw [List.filter_filter, List.filter_congr (fun a _ => Bool.and_self _)] at hsub'
  have hlen := ((List.mergeSort_perm l fun a b => key a ≤ key b).filter
    (fun a => key a == n)).length_eq
  exact (hsub'.eq_of_length hlen.symm).symm

/-- **Merge sort by a key is a stable sort by that key.** -/
theorem mergeSort_isStableSortBy :
    IsStableSortBy key (l.mergeSort fun a b => key a ≤ key b) l :=
  ⟨List.mergeSort_perm l _, pairwise_mergeSort_key key l, filter_mergeSort_key key l⟩

end MergeSort

/-! ### The feature check as a predicate -/

/-- What the feature check asks of a feature, without the paths: a Point with a two-number
position and a `sequence` property, or a LineString with at least two positions and
properties. -/
def Feature.isDrawable (f : Feature) : Bool :=
  match f.geometry with
  | some (.point pos) => pos.length == 2 && f.hasProperty "sequence"
  | some (.lineString ps) => decide (2 ≤ ps.length) && f.properties.isSome
  | _ => false

/-- **A feature passes its check exactly when it is drawable**, at any path. -/
theorem Feature.issues_eq_nil_iff (f : Feature) (path : String) :
    f.issues path = [] ↔ f.isDrawable = true := by
  unfold Feature.issues Feature.isDrawable
  cases f.geometry with
  | none => simp
  | some g => cases g <;> simp

/-- **A collection passes its check** exactly when every feature is drawable and exactly one is
a line. -/
theorem FeatureCollection.issues_eq_nil_iff (c : FeatureCollection) (path : String) :
    c.issues path = [] ↔
      (∀ f ∈ c.features, f.isDrawable = true) ∧
        (c.features.filter Feature.isLine).length = 1 := by
  simp only [FeatureCollection.issues, List.append_eq_nil_iff, List.flatMap_eq_nil_iff,
    check_eq_nil, beq_iff_eq, Feature.issues_eq_nil_iff]
  -- a feature is checked at its index, so the check reaches every feature and nothing else
  refine and_congr_left fun _ => ⟨fun h f hf => ?_,
    fun h x hx => h _ (List.mem_of_getElem? (List.mem_zipIdx_iff_getElem?.1 hx))⟩
  obtain ⟨i, hi, rfl⟩ := List.getElem_of_mem hf
  exact h (c.features[i], i) (List.mem_zipIdx_iff_getElem?.2 (by simp))

/-! ### The drawing -/

/-- **How a stop is drawn**: a Point at `[lng, lat]` whose properties are the stop's identifier,
sequence and running totals, and its label exactly when it has one; no identifier, no box. -/
structure DrawsStop (f : Feature) (s : OrderedStop) : Prop where
  point : f.geometry = some (.point [s.lng, s.lat])
  properties : f.properties = some ([("id", .string s.id), ("sequence", .ofNat s.sequence),
    ("cumulativeDistanceM", .ofNat s.cumulativeDistanceM),
    ("cumulativeDurationS", .ofNat s.cumulativeDurationS)] ++
      (s.label.map fun l => ("label", Value.string l)).toList)
  noId : f.id = none
  noBbox : f.bbox = none

/-- **How the route line of a plan is drawn** through `positions`: a LineString through them in
order, through the only one twice when there is one; the plan's totals as properties; no
identifier, no box. -/
structure DrawsLine (f : Feature) (positions : List Position) (p : RoutePlan) : Prop where
  line : f.geometry =
    some (.lineString (if positions.length = 1 then positions ++ positions else positions))
  properties : f.properties =
    some [("totalDistanceM", .ofNat p.totalDistanceM), ("totalDurationS", .ofNat p.totalDurationS)]
  noId : f.id = none
  noBbox : f.bbox = none

theorem linePositions_eq (ps : List Position) :
    linePositions ps = if ps.length = 1 then ps ++ ps else ps := by
  match ps with
  | [] => rfl
  | [_] => rfl
  | _ :: _ :: _ => rfl

theorem two_le_length_linePositions (ps : List Position) :
    2 ≤ (linePositions ps).length ↔ ps ≠ [] := by
  match ps with
  | [] => simp [linePositions]
  | [_] => simp [linePositions]
  | _ :: _ :: _ => simp [linePositions]

theorem drawsStop_point (s : OrderedStop) :
    DrawsStop (plainFeature (.point s.position) s.pointProperties) s := by
  rcases s with ⟨_, _ | _, _, _, _, _, _, _, _⟩ <;> exact ⟨rfl, rfl, rfl, rfl⟩

/-- A stop's point always passes the feature check. -/
theorem isDrawable_point (s : OrderedStop) :
    (plainFeature (.point s.position) s.pointProperties).isDrawable = true := by
  simp [Feature.isDrawable, plainFeature, OrderedStop.position, Feature.hasProperty,
    OrderedStop.pointProperties]

/-- Of the drawing's features, only the last is a line. -/
theorem RoutePlan.drawing_one_line (p : RoutePlan) :
    (p.drawing.features.filter Feature.isLine).length = 1 := by
  simp [RoutePlan.drawing, List.filter_append, List.filter_map, List.filter_cons,
    Function.comp_def, Feature.isLine, plainFeature]

/-- **The drawing passes the feature check exactly when the plan has a stop.** Every Point
passes and the only line is the route line, so all turns on the line's two positions. -/
theorem RoutePlan.drawing_issues_eq_nil_iff (p : RoutePlan) (path : String) :
    p.drawing.issues path = [] ↔ p.orderedStops ≠ [] := by
  have horder : (p.orderedStops.mergeSort fun a b => a.sequence ≤ b.sequence) = [] ↔
      p.orderedStops = [] := by
    rw [← List.length_eq_zero_iff, List.length_mergeSort, List.length_eq_zero_iff]
  rw [FeatureCollection.issues_eq_nil_iff, and_iff_left (RoutePlan.drawing_one_line p)]
  simp only [RoutePlan.drawing, List.forall_mem_append, List.forall_mem_map,
    List.forall_mem_singleton, isDrawable_point, implies_true, true_and]
  simp [Feature.isDrawable, plainFeature, two_le_length_linePositions, horder]

/-- **The drawing of a plan.** For the stops `order` of the plan sorted stably by sequence, the
drawing is one Point per stop of `order`, drawn as the stop, and then one LineString through the
same positions in the same order (the only one twice over when there is one stop) with the
plan's totals; so there is one feature more than stops. No feature has an identifier or a box,
nor has the collection; and it passes the feature check exactly when the plan has a stop. -/
theorem RoutePlan.drawing_points_then_line (p : RoutePlan) :
    ∃ order, IsStableSortBy OrderedStop.sequence order p.orderedStops ∧
      ∃ points line, p.drawing.features = points ++ [line] ∧
        List.Forall₂ DrawsStop points order ∧
        DrawsLine line (order.map fun s => [s.lng, s.lat]) p ∧
        p.drawing.features.length = p.orderedStops.length + 1 ∧
        p.drawing.bbox = none ∧
        (p.drawing.issues "" = [] ↔ p.orderedStops ≠ []) := by
  have hsort := mergeSort_isStableSortBy OrderedStop.sequence p.orderedStops
  refine ⟨_, hsort, _, _, rfl, ?_, ⟨by rw [linePositions_eq]; rfl, rfl, rfl, rfl⟩, ?_, rfl,
    RoutePlan.drawing_issues_eq_nil_iff p ""⟩
  · -- each point is the drawing of the stop it comes from
    rw [List.forall₂_map_left_iff, List.forall₂_same]
    exact fun s _ => drawsStop_point s
  · simp [RoutePlan.drawing, hsort.1.length_eq]

end RoutePlanner
