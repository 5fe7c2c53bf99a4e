import Mathlib.Data.List.Forall2
import RoutePlanner.Proofs.CanonicalJson
import RoutePlanner.Plan.Digest

/-!
# What a request digest tells apart

The digest of a tour request hashes the canonical JSON text of the request's normal form. This
module says exactly when two requests give the same text: when their origins and their
destinations, in order, agree stop by stop on what the normal form keeps of a stop
(`Stop.DigestAgrees`: identifier, label, and the JSON numbers of the rounded degrees), and their
options agree on what it keeps of options (`SubmittedOptions.DigestAgrees`: the fields given,
and the strategy, the rounded budgets and the rounded tolerance).

The proof computes the sorted form of a normal form (`TourRequest.sortDeep_normalForm`): fields
sorted by key, which for fields of distinct keys is the one ascending rearrangement
(`mergeSort_eq_of_perm`). The sorted form is well formed, with numbers as a reader keeps them
(`digestNumber_wellFormed`), so its compact text determines it (`Value.render_injective`), and
two sorted forms are equal exactly when the requests agree.

Main statements: `TourRequest.canonical_normalForm_eq_iff`, and
`canonical_injective_digestText_eq_iff`, which adds injectivity of canonical text on well-formed
values.
-/

namespace RoutePlanner

open RoutePlanner.Number RoutePlanner.Json

/-! ### Sorting fields of distinct keys -/

/-- **Sorting fields by key gives the ascending rearrangement**, when the keys are distinct. -/
theorem mergeSort_eq_of_perm {α : Type} {l l' : List (String × α)} (hp : l'.Perm l)
    (hs : (l'.map Prod.fst).Pairwise (· < ·)) : (l.mergeSort fun a b => a.1 ≤ b.1) = l' := by
  have hnodup : (l'.map Prod.fst).Nodup := hs.imp Std.ne_of_lt
  apply @List.Perm.eq_of_pairwise _ (fun a b => decide (a.1 ≤ b.1) = true)
  · -- two fields of one key are one field, since the keys of `l'` are distinct
    intro a b ha hb hab hba
    exact List.inj_on_of_nodup_map hnodup (hp.mem_iff.2 (List.mem_mergeSort.1 ha)) hb
      (Std.le_antisymm (of_decide_eq_true hab) (of_decide_eq_true hba))
  · exact @List.pairwise_mergeSort _ (fun a b => decide (a.1 ≤ b.1))
      (fun a b c hab hbc => decide_eq_true (Std.le_trans (of_decide_eq_true hab)
        (of_decide_eq_true hbc)))
      (fun a b => by
        have htotal : a.1 ≤ b.1 ∨ b.1 ≤ a.1 := Std.le_total
        rcases htotal with h | h <;> simp [h])
      l
  · rw [List.pairwise_map] at hs
    exact hs.imp fun h => decide_eq_true (Std.le_of_lt h)
  · exact (List.mergeSort_perm l _).trans hp.symm

theorem map_eq_map_iff_forall₂ {α β : Type} (f : α → β) (l₁ l₂ : List α) :
    l₁.map f = l₂.map f ↔ List.Forall₂ (fun a b => f a = f b) l₁ l₂ := by
  rw [← List.forall₂_eq_eq_eq, List.forall₂_map_left_iff, List.forall₂_map_right_iff]

theorem perm_swap_ends {α : Type} (a b c d : α) : [a, b, c, d].Perm [d, b, c, a] :=
  (@List.perm_middle _ d [a, b, c] []).trans (List.Perm.cons d (@List.perm_append_comm _ [a] [b, c]))

theorem perm_rotate {α : Type} (a b c : α) : [b, c, a].Perm [a, b, c] :=
  @List.perm_append_comm _ [b, c] [a]

/-! ### Objects of optional fields -/

/-- A field that is given, as the object keeps it. -/
def presentField (p : String × Option Value) : Option (String × Value) := p.2.map (p.1, ·)

theorem objectOf_eq (fields : List (String × Option Value)) :
    objectOf fields = .object (fields.filterMap presentField) := rfl

theorem keys_filterMap_presentField : ∀ L : List (String × Option Value),
    ((L.filterMap presentField).map Prod.fst).Sublist (L.map Prod.fst)
  | [] => List.Sublist.slnil
  | (_, none) :: L => (keys_filterMap_presentField L).cons _
  | (k, some _) :: L => (keys_filterMap_presentField L).cons_cons k

theorem fieldsWellFormed_filterMap : ∀ L : List (String × Option Value),
    (∀ p ∈ L, ∀ v ∈ p.2, v.wellFormed = true) →
      fieldsWellFormed (L.filterMap presentField) = true
  | [], _ => rfl
  | (_, none) :: L, h => fieldsWellFormed_filterMap L fun p hp => h p (List.mem_cons_of_mem _ hp)
  | (k, some v) :: L, h => by
    show (v.wellFormed && fieldsWellFormed (L.filterMap presentField)) = true
    rw [h (k, some v) List.mem_cons_self v rfl,
      fieldsWellFormed_filterMap L fun p hp => h p (List.mem_cons_of_mem _ hp)]
    rfl

/-- An object of optional fields is well formed when its keys ascend and the values given are
well formed. -/
theorem Value.wellFormed_objectOf {L : List (String × Option Value)}
    (hs : (L.map Prod.fst).Pairwise (· < ·)) (hv : ∀ p ∈ L, ∀ v ∈ p.2, v.wellFormed = true) :
    (objectOf L).wellFormed = true := by
  rw [objectOf_eq]
  show (keysAscending (L.filterMap presentField) && fieldsWellFormed (L.filterMap presentField))
    = true
  rw [keysAscending, decide_eq_true (hs.sublist (keys_filterMap_presentField L)),
    fieldsWellFormed_filterMap L hv]
  rfl

/-- **Sorting an object of optional fields** rearranges its fields into ascending order of key,
given or not. -/
theorem Value.sortDeep_objectOf {L L' : List (String × Option Value)} (hp : L'.Perm L)
    (hs : (L'.map Prod.fst).Pairwise (· < ·)) (hv : ∀ p ∈ L, ∀ v ∈ p.2, v.wellFormed = true) :
    (objectOf L).sortDeep = objectOf L' := by
  rw [objectOf_eq, objectOf_eq]
  show Value.object ((sortFields (L.filterMap presentField)).mergeSort fun a b => a.1 ≤ b.1) = _
  rw [sortFields_of_wellFormed _ (fieldsWellFormed_filterMap L hv),
    mergeSort_eq_of_perm (hp.filterMap presentField)
      (hs.sublist (keys_filterMap_presentField L'))]

theorem mem_keys_of_mem_filterMap {L : List (String × Option Value)} {p : String × Value}
    (h : p ∈ L.filterMap presentField) : p.1 ∈ L.map Prod.fst := by
  obtain ⟨q, hq, hqp⟩ := List.mem_filterMap.1 h
  obtain ⟨v, -, rfl⟩ := Option.map_eq_some_iff.1 hqp
  exact List.mem_map_of_mem hq

theorem find?_filterMap_presentField : ∀ {L : List (String × Option Value)} {k : String}
    {o : Option Value}, (L.map Prod.fst).Nodup → (k, o) ∈ L →
      ((L.filterMap presentField).find? fun p => p.1 == k).map Prod.snd = o
  | (k', o') :: L, k, o, hnd, hmem => by
    rw [List.map_cons, List.nodup_cons] at hnd
    rcases List.mem_cons.1 hmem with heq | hmem'
    · obtain ⟨rfl, rfl⟩ := Prod.mk.inj heq
      -- no later field has the key
      have hnone : (L.filterMap presentField).find? (fun p => p.1 == k) = none := by
        rw [List.find?_eq_none]
        intro p hp hpk
        exact hnd.1 (beq_iff_eq.1 hpk ▸ mem_keys_of_mem_filterMap hp)
      cases o with
      | none => simpa [presentField] using congrArg (Option.map Prod.snd) hnone
      | some v => simp [presentField]
    · have hk : k ∈ L.map Prod.fst := List.mem_map_of_mem hmem'
      have hne : k' ≠ k := by
        rintro rfl
        exact hnd.1 hk
      have ih := find?_filterMap_presentField hnd.2 hmem'
      cases o' with
      | none => exact ih
      | some v =>
        rw [show ((k', some v) :: L).filterMap presentField = (k', v) :: L.filterMap presentField
          from rfl, List.find?_cons_of_neg (by simpa using hne)]
        exact ih

/-- **A field of an object of optional fields reads back** as given or absent, when the keys
are distinct. -/
theorem Value.field?_objectOf {L : List (String × Option Value)} (hnd : (L.map Prod.fst).Nodup)
    {k : String} {o : Option Value} (h : (k, o) ∈ L) : (objectOf L).field? k = o :=
  find?_filterMap_presentField hnd h

/-- **An object of optional fields of distinct keys determines its fields**, given or absent,
among lists of the same keys. -/
theorem objectOf_inj_of_keys {L₁ L₂ : List (String × Option Value)}
    (hkeys : L₁.map Prod.fst = L₂.map Prod.fst) (hnd : (L₁.map Prod.fst).Nodup)
    (h : objectOf L₁ = objectOf L₂) : L₁ = L₂ := by
  have hlen : L₁.length = L₂.length := by simpa using congrArg List.length hkeys
  refine List.ext_getElem hlen fun i h₁ h₂ => ?_
  have hk : L₁[i].1 = L₂[i].1 := by
    simpa [h₁, h₂] using congrArg (·[i]?) hkeys
  -- the field of that key reads back the same from both objects
  have m₁ : (L₁[i].1, L₁[i].2) ∈ L₁ := List.getElem_mem h₁
  have m₂ : (L₂[i].1, L₂[i].2) ∈ L₂ := List.getElem_mem h₂
  have hv : L₁[i].2 = L₂[i].2 := by
    rw [← Value.field?_objectOf hnd m₁, h, hk, Value.field?_objectOf (hkeys ▸ hnd) m₂]
  exact Prod.ext hk hv

/-! ### Normal forms are well formed -/

theorem isFinite_of_classify {x : Float} {neg : Bool} {b : Binary}
    (h : classify x = .finite neg b) : isFinite x = true := by
  simp [isFinite, h]

theorem Value.ofInt_wellFormed (i : Int) : (Value.ofInt i).wellFormed = true := by
  unfold Value.ofInt
  split_ifs with h
  · rfl
  · exact decide_eq_true (by omega)

/-- **A number in normal form is as a reader keeps it**: an integer, `null`, or a finite
double. -/
theorem digestNumber_wellFormed (x : Float) : (digestNumber x).wellFormed = true := by
  rcases hx : classify x with _ | _ | ⟨neg, b⟩
  · simp only [digestNumber, hx]
    rfl
  · simp only [digestNumber, hx]
    rfl
  · simp only [digestNumber, hx]
    by_cases h : b.isIntegral = true ∧ b.truncate < Nat.pow 2 63
    · rw [if_pos h]
      exact Value.ofInt_wellFormed _
    · rw [if_neg h]
      exact isFinite_of_classify hx

theorem Stop.normalForm_wellFormed (s : Stop) : s.normalForm.wellFormed = true := by
  have hkeys : keysAscending [("id", Value.string s.id), ("label", Value.ofOption .string s.label),
      ("lat", digestNumber (roundTo s.lat 6)), ("lng", digestNumber (roundTo s.lng 6))] = true := by
    simp only [keysAscending, List.map_cons, List.map_nil]
    decide
  have hlabel : (Value.ofOption .string s.label).wellFormed = true := by
    cases s.label <;> rfl
  show (keysAscending _ && fieldsWellFormed _) = true
  simp only [hkeys, fieldsWellFormed, hlabel, digestNumber_wellFormed]
  rfl

theorem itemsWellFormed_map {α : Type} (f : α → Value) (hf : ∀ a, (f a).wellFormed = true) :
    ∀ l : List α, itemsWellFormed (l.map f) = true
  | [] => rfl
  | a :: l => by
    show ((f a).wellFormed && itemsWellFormed (l.map f)) = true
    rw [hf a, itemsWellFormed_map f hf l]
    rfl

theorem forall_mem_map_wellFormed {α : Type} {f : α → Value} (hf : ∀ a, (f a).wellFormed = true)
    (o : Option α) : ∀ v ∈ o.map f, v.wellFormed = true := by
  intro v hv
  obtain ⟨a, -, rfl⟩ := Option.map_eq_some_iff.1 hv
  exact hf a

/-! ### Sorted normal forms -/

/-- **The normal form of options with its fields sorted by key**, as canonical text writes
them. -/
def SubmittedOptions.sortedForm (o : SubmittedOptions) : Value :=
  objectOf [("fallbackTolerance", o.fallbackTolerance.map fun t => digestNumber (roundTo t 3)),
    ("maxIterations", o.maxIterations.map (digestNumber ∘ roundHalfAway)),
    ("maxRuntimeSeconds", o.maxRuntimeSeconds.map (digestNumber ∘ roundHalfAway)),
    ("strategy", o.strategy.map Strategy.toJson)]

theorem SubmittedOptions.sortDeep_normalForm (o : SubmittedOptions) :
    o.normalForm.sortDeep = o.sortedForm := by
  -- sorted, the last key comes first and the middle two keep their places
  refine Value.sortDeep_objectOf (perm_swap_ends _ _ _ _) ?_ ?_
  · simp only [List.map_cons, List.map_nil]
    decide
  · simp only [List.forall_mem_cons, List.not_mem_nil, IsEmpty.forall_iff, implies_true, and_true]
    exact ⟨forall_mem_map_wellFormed (fun _ => rfl) _,
      forall_mem_map_wellFormed (fun _ => digestNumber_wellFormed _) _,
      forall_mem_map_wellFormed (fun _ => digestNumber_wellFormed _) _,
      forall_mem_map_wellFormed (fun _ => digestNumber_wellFormed _) _⟩

theorem SubmittedOptions.sortedForm_wellFormed (o : SubmittedOptions) :
    o.sortedForm.wellFormed = true := by
  refine Value.wellFormed_objectOf ?_ ?_
  · simp only [List.map_cons, List.map_nil]
    decide
  · simp only [List.forall_mem_cons, List.not_mem_nil, IsEmpty.forall_iff, implies_true, and_true]
    exact ⟨forall_mem_map_wellFormed (fun _ => digestNumber_wellFormed _) _,
      forall_mem_map_wellFormed (fun _ => digestNumber_wellFormed _) _,
      forall_mem_map_wellFormed (fun _ => digestNumber_wellFormed _) _,
      forall_mem_map_wellFormed (fun _ => rfl) _⟩

/-- **The normal form of a request with its fields sorted by key**; absent options are options
with no field given. -/
def TourRequest.sortedForm (r : TourRequest) : Value :=
  .object [("destinations", .array (r.destinations.map Stop.normalForm)),
    ("options", (r.options.getD {}).sortedForm), ("origin", r.origin.normalForm)]

theorem TourRequest.normalForm_eq (r : TourRequest) :
    r.normalForm = .object [("origin", r.origin.normalForm),
      ("destinations", .array (r.destinations.map Stop.normalForm)),
      ("options", (r.options.getD {}).normalForm)] := by
  unfold TourRequest.normalForm
  cases r.options <;> rfl

theorem TourRequest.sortDeep_normalForm (r : TourRequest) : r.normalForm.sortDeep = r.sortedForm := by
  have ho : r.origin.normalForm.sortDeep = r.origin.normalForm :=
    Value.sortDeep_of_wellFormed _ (Stop.normalForm_wellFormed _)
  have hd : (Value.array (r.destinations.map Stop.normalForm)).sortDeep =
      .array (r.destinations.map Stop.normalForm) :=
    Value.sortDeep_of_wellFormed _ (itemsWellFormed_map _ Stop.normalForm_wellFormed _)
  rw [TourRequest.normalForm_eq]
  show Value.object ([("origin", r.origin.normalForm.sortDeep),
      ("destinations", (Value.array (r.destinations.map Stop.normalForm)).sortDeep),
      ("options", (r.options.getD {}).normalForm.sortDeep)].mergeSort fun a b => a.1 ≤ b.1) = _
  rw [ho, hd, SubmittedOptions.sortDeep_normalForm]
  -- the request's keys sort as `destinations`, `options`, `origin`
  exact congrArg Value.object (mergeSort_eq_of_perm (perm_rotate _ _ _) (by
    simp only [List.map_cons, List.map_nil]
    decide))

theorem TourRequest.sortedForm_wellFormed (r : TourRequest) : r.sortedForm.wellFormed = true := by
  have hkeys : keysAscending [("destinations", Value.array (r.destinations.map Stop.normalForm)),
      ("options", (r.options.getD {}).sortedForm), ("origin", r.origin.normalForm)] = true := by
    simp only [keysAscending, List.map_cons, List.map_nil]
    decide
  show (keysAscending _ && fieldsWellFormed _) = true
  simp only [hkeys, fieldsWellFormed, SubmittedOptions.sortedForm_wellFormed,
    Stop.normalForm_wellFormed]
  rw [show (Value.array (r.destinations.map Stop.normalForm)).wellFormed =
    itemsWellFormed (r.destinations.map Stop.normalForm) from rfl,
    itemsWellFormed_map _ Stop.normalForm_wellFormed]
  rfl

/-! ### What the digest keeps -/

/-- **Two stops look alike to the digest**: the same identifier, the same label or both none,
and the same JSON numbers for the degrees rounded to six places. -/
def Stop.DigestAgrees (s t : Stop) : Prop :=
  s.id = t.id ∧ s.label = t.label ∧
    digestNumber (roundTo s.lat 6) = digestNumber (roundTo t.lat 6) ∧
    digestNumber (roundTo s.lng 6) = digestNumber (roundTo t.lng 6)

/-- **Two sets of options look alike to the digest**: the same fields given, the same strategy,
the same JSON numbers for the budgets rounded half away from zero and for the tolerance
rounded to three places. -/
def SubmittedOptions.DigestAgrees (o p : SubmittedOptions) : Prop :=
  o.strategy = p.strategy ∧
    o.maxIterations.map (digestNumber ∘ roundHalfAway) =
      p.maxIterations.map (digestNumber ∘ roundHalfAway) ∧
    o.maxRuntimeSeconds.map (digestNumber ∘ roundHalfAway) =
      p.maxRuntimeSeconds.map (digestNumber ∘ roundHalfAway) ∧
    o.fallbackTolerance.map (fun t => digestNumber (roundTo t 3)) =
      p.fallbackTolerance.map (fun t => digestNumber (roundTo t 3))

theorem ofOption_string_inj {a b : Option String} :
    Value.ofOption .string a = Value.ofOption .string b ↔ a = b := by
  cases a <;> cases b <;> simp [Value.ofOption]

theorem Strategy.toJson_injective : Function.Injective Strategy.toJson := by
  intro a b h
  cases a <;> cases b <;> simp_all [Strategy.toJson, Strategy.name]

theorem Stop.normalForm_eq_iff (s t : Stop) : s.normalForm = t.normalForm ↔ s.DigestAgrees t := by
  simp only [Stop.normalForm, Stop.DigestAgrees, Value.object.injEq, List.cons.injEq,
    Prod.mk.injEq, Value.string.injEq, ofOption_string_inj, true_and, and_true]

theorem SubmittedOptions.sortedForm_eq_iff (o p : SubmittedOptions) :
    o.sortedForm = p.sortedForm ↔ o.DigestAgrees p := by
  constructor
  · intro h
    -- the four keys are distinct, so the object gives back each field, given or absent
    unfold SubmittedOptions.sortedForm at h
    have hfields := objectOf_inj_of_keys (by rfl)
      (by simp only [List.map_cons, List.map_nil]; decide) h
    simp only [List.cons.injEq, Prod.mk.injEq, true_and, and_true] at hfields
    obtain ⟨h₄, h₂, h₃, h₁⟩ := hfields
    exact ⟨Option.map_injective Strategy.toJson_injective h₁, h₂, h₃, h₄⟩
  · rintro ⟨h₁, h₂, h₃, h₄⟩
    unfold SubmittedOptions.sortedForm
    rw [h₁, h₂, h₃, h₄]

theorem TourRequest.sortedForm_eq_iff (r₁ r₂ : TourRequest) :
    r₁.sortedForm = r₂.sortedForm ↔
      r₁.origin.DigestAgrees r₂.origin ∧
        List.Forall₂ Stop.DigestAgrees r₁.destinations r₂.destinations ∧
        (r₁.options.getD {}).DigestAgrees (r₂.options.getD {}) := by
  simp only [TourRequest.sortedForm, Value.object.injEq, List.cons.injEq, Prod.mk.injEq,
    Value.array.injEq, true_and, and_true, map_eq_map_iff_forall₂, Stop.normalForm_eq_iff,
    SubmittedOptions.sortedForm_eq_iff]
  exact and_rotate.symm

/-- **When two requests have the same digest text.** The canonical text of a request's normal
form is the same for two requests exactly when their origins agree, their destinations agree
one by one in order, and their options agree, in what the normal form keeps. -/
theorem TourRequest.canonical_normalForm_eq_iff (r₁ r₂ : TourRequest) :
    r₁.normalForm.canonical = r₂.normalForm.canonical ↔
      r₁.origin.DigestAgrees r₂.origin ∧
        List.Forall₂ Stop.DigestAgrees r₁.destinations r₂.destinations ∧
        (r₁.options.getD {}).DigestAgrees (r₂.options.getD {}) := by
  rw [Value.canonical_eq_render_sortDeep, Value.canonical_eq_render_sortDeep,
    TourRequest.sortDeep_normalForm, TourRequest.sortDeep_normalForm,
    ← TourRequest.sortedForm_eq_iff]
  exact ⟨Value.render_injective (TourRequest.sortedForm_wellFormed r₁)
    (TourRequest.sortedForm_wellFormed r₂), congrArg Value.render⟩

/-- **Canonical text tells well-formed values apart, and the digest text tells requests apart
exactly by what their normal forms keep.** Canonical JSON text is injective on values whose
numbers are as a reader keeps them and whose objects keep one field per key in ascending order;
and two requests give the same text to hash exactly when their origins, their destinations in
order, and their options agree (`Stop.DigestAgrees`, `SubmittedOptions.DigestAgrees`). -/
theorem canonical_injective_digestText_eq_iff :
    (∀ v w : Value, v.wellFormed = true → w.wellFormed = true → v.canonical = w.canonical →
      v = w) ∧
    ∀ r₁ r₂ : TourRequest, r₁.normalForm.canonical = r₂.normalForm.canonical ↔
      r₁.origin.DigestAgrees r₂.origin ∧
        List.Forall₂ Stop.DigestAgrees r₁.destinations r₂.destinations ∧
        (r₁.options.getD {}).DigestAgrees (r₂.options.getD {}) :=
  ⟨fun _ _ hv hw h => Value.canonical_injective hv hw h, TourRequest.canonical_normalForm_eq_iff⟩

/-- Two well-formed documents, an object holding an array and a one-field object: their
canonical texts tell them apart. -/
theorem sampleDocuments_canonical_injective :
    (Value.object [("a", .ofNat 1), ("b", .array [.null, .bool true, .string "x"])]).wellFormed
        = true ∧
      (Value.object [("a", .number (.negative (-2)))]).wellFormed = true ∧
      ((Value.object [("a", .ofNat 1), ("b", .array [.null, .bool true, .string "x"])]).canonical =
          (Value.object [("a", .number (.negative (-2)))]).canonical →
        Value.object [("a", .ofNat 1), ("b", .array [.null, .bool true, .string "x"])] =
          Value.object [("a", .number (.negative (-2)))]) :=
  ⟨by decide, by decide, canonical_injective_digestText_eq_iff.1 _ _ (by decide) (by decide)⟩

end RoutePlanner
