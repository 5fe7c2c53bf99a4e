/-!
# Keyed stores

A store of values by text key, each key at most once. Writing under a key replaces what was
there; erasing a key removes it; the size is the number of keys held.

The view of a store is `Keyed.find?`. Each operation is pinned down by one lemma on the view:
`find?_insert`, `find?_erase`, `find?_empty`.
-/

namespace RoutePlanner

/-- Values by text key, each key once. -/
structure Keyed (α : Type) where
  entries : List (String × α)
  keys_nodup : (entries.map Prod.fst).Nodup

namespace Keyed

variable {α : Type}

/-- The empty store. -/
def empty : Keyed α := ⟨[], List.nodup_nil⟩

theorem keys_nodup_filter (es : List (String × α)) (h : (es.map Prod.fst).Nodup) (key : String) :
    ((es.filter (·.1 ≠ key)).map Prod.fst).Nodup :=
  ((List.filter_sublist).map Prod.fst).nodup h

theorem keys_nodup_insert (es : List (String × α)) (h : (es.map Prod.fst).Nodup)
    (key : String) (v : α) :
    (((key, v) :: es.filter (·.1 ≠ key)).map Prod.fst).Nodup := by
  simp only [List.map_cons, List.nodup_cons, List.mem_map, List.mem_filter]
  refine ⟨?_, keys_nodup_filter es h key⟩
  rintro ⟨⟨k, x⟩, ⟨_, hk⟩, rfl⟩
  simp at hk

/-- **A write**: `v` under `key`, replacing any value there. -/
def insert (s : Keyed α) (key : String) (v : α) : Keyed α :=
  ⟨(key, v) :: s.entries.filter (·.1 ≠ key), keys_nodup_insert s.entries s.keys_nodup key v⟩

/-- **An erasure** of a key. -/
def erase (s : Keyed α) (key : String) : Keyed α :=
  ⟨s.entries.filter (·.1 ≠ key), keys_nodup_filter s.entries s.keys_nodup key⟩

/-- The value under a key. -/
def find? (s : Keyed α) (key : String) : Option α := s.entries.lookup key

/-- The number of keys held. -/
def size (s : Keyed α) : Nat := s.entries.length

theorem lookup_filter_ne (es : List (String × α)) (key k : String) (h : k ≠ key) :
    (es.filter (·.1 ≠ key)).lookup k = es.lookup k := by
  induction es with
  | nil => rfl
  | cons p rest ih =>
    obtain ⟨a, x⟩ := p
    rw [List.filter_cons]
    split
    · simp only [List.lookup_cons]
      split <;> simp_all
    · rename_i hd
      have ha : a = key := by simpa using hd
      have hka : (k == a) = false := by simp [ha, h]
      simp only [List.lookup_cons, hka]
      exact ih

theorem lookup_filter_self (es : List (String × α)) (key : String) :
    (es.filter (·.1 ≠ key)).lookup key = none := by
  induction es with
  | nil => rfl
  | cons p rest ih =>
    obtain ⟨a, x⟩ := p
    rw [List.filter_cons]
    split
    · rename_i hd
      have hka : (key == a) = false := by
        simp only [ne_eq, decide_eq_true_eq] at hd
        simp [Ne.symm hd]
      simp only [List.lookup_cons, hka]
      exact ih
    · exact ih

/-- **A write changes exactly the key written.** -/
@[simp]
theorem find?_insert (s : Keyed α) (key k : String) (v : α) :
    (s.insert key v).find? k = if k = key then some v else s.find? k := by
  unfold insert find?
  by_cases h : k = key
  · subst h; simp
  · have hk : (k == key) = false := by simp [h]
    simp only [List.lookup_cons, hk, h, ite_false]
    exact lookup_filter_ne s.entries key k h

/-- **An erasure removes exactly the key erased.** -/
@[simp]
theorem find?_erase (s : Keyed α) (key k : String) :
    (s.erase key).find? k = if k = key then none else s.find? k := by
  unfold erase find?
  by_cases h : k = key
  · subst h; simp only [ite_true]; exact lookup_filter_self s.entries k
  · simp only [h, ite_false]
    exact lookup_filter_ne s.entries key k h

@[simp]
theorem find?_empty (k : String) : (empty : Keyed α).find? k = none := rfl

end Keyed

end RoutePlanner
