import RoutePlanner.Distance.Key
import RoutePlanner.Proofs.InstantText

/-!
# When two distance lookups share a cache key

The key of a lookup that gives its departure time is the SHA-256 of six parts joined by `|`:
both points, the travel mode, the start of the departure's five-minute window, the traffic
model and the unit system. A point is its two degrees cut to six places and joined by `,`.
Taking SHA-256 as free of collisions on these texts, two such lookups share a key exactly when
their parts agree (`DistanceRequest.cacheKey_eq_iff`).

That the text decodes uniquely rests on its alphabet:

* a degree cut to places is written with digits, a sign, a point, or as `NaN`, `inf`, `-inf`
  (`Number.mem_toFixed`), so it holds neither `|` nor `,`;
* the names of modes and options hold no `|`, and differ from each other;
* the start of a window is a whole second, written without `|`, and no two whole seconds are
  written alike (`Instant.millisText_injective`).

The window of an instant starts at a multiple of 300 seconds from the epoch, by floor
division, so that it also tiles the time before 1970 (`bucketStart_le`, `lt_bucketStart_add`),
and a window's start is its own window's start (`bucketStart_bucketStart`).
-/

namespace RoutePlanner

/-! ### The alphabet of a degree -/

namespace Number

theorem mem_zeros {n : Nat} {c : Char} (h : c ∈ (zeros n).toList) : c = '0' := by
  simp only [zeros, String.toList_ofList, List.mem_replicate] at h
  exact h.2

/-- A number written with a point is digits and the point. -/
theorem mem_pointed {n frac : Nat} {c : Char} (h : c ∈ (pointed n frac).toList) :
    c.isDigit ∨ c = '.' := by
  have hdigits : ∀ c ∈ (zeros (frac + 1 - (Nat.repr n).length) ++ Nat.repr n).toList,
      c.isDigit := by
    intro c hc
    rw [String.toList_append, List.mem_append, Nat.toList_repr] at hc
    rcases hc with hc | hc
    · rw [mem_zeros hc]; rfl
    · exact Nat.isDigit_of_mem_toDigits (by decide) (by decide) hc
  simp only [pointed] at h
  -- the point is put into the padded digits; keep those digits opaque
  generalize zeros (frac + 1 - (Nat.repr n).length) ++ Nat.repr n = s at hdigits h
  split at h
  · exact .inl (hdigits c h)
  · simp only [String.toList_append, String.toList_ofList, List.mem_append] at h
    rcases h with (h | h) | h
    · exact .inl (hdigits c (List.mem_of_mem_take h))
    · exact .inr (by simpa using h)
    · exact .inl (hdigits c (List.mem_of_mem_drop h))

/-- A magnitude with places is digits and a point. -/
theorem mem_binary_fixedPlaces {b : Binary} {places : Nat} {c : Char}
    (h : c ∈ (b.fixedPlaces places).toList) : c.isDigit ∨ c = '.' := by
  have hzeros : ∀ {n}, c ∈ (zeros n).toList → c.isDigit ∨ c = '.' := fun hz => by
    rw [mem_zeros hz]; exact .inl rfl
  unfold Binary.fixedPlaces at h
  dsimp only at h
  split at h
  · simp only [String.toList_append, List.mem_append] at h
    rcases h with h | h
    · exact mem_pointed h
    · split at h
      · simp at h
      · simp only [String.toList_append, List.mem_append] at h
        rcases h with h | h
        · exact .inr (by simpa using h)
        · exact hzeros h
  · split at h
    · simp only [String.toList_append, List.mem_append] at h
      rcases h with h | h
      · exact mem_pointed h
      · split at h
        · exact hzeros h
        · simp at h
    · exact mem_pointed h

/-- The characters a degree cut to places may hold besides digits. -/
def fixedSigns : List Char := ['-', '.', 'N', 'a', 'i', 'n', 'f']

/-- **A double with places is written with digits, a sign and a point**, or as `NaN`,
`inf` or `-inf`. -/
theorem mem_fixedPlaces {x : Float} {places : Nat} {c : Char}
    (h : c ∈ (fixedPlaces x places).toList) : c.isDigit ∨ c ∈ fixedSigns := by
  have hsigns : ∀ s : String, (∀ c ∈ s.toList, c ∈ fixedSigns) → c ∈ s.toList →
      c.isDigit ∨ c ∈ fixedSigns := fun s hs h => .inr (hs c h)
  unfold fixedPlaces at h
  -- by the class of the double: NaN, an infinity, or a signed finite magnitude
  split at h
  · exact hsigns "NaN" (by simp [fixedSigns]) h
  · split at h
    · exact hsigns "-inf" (by simp [fixedSigns]) h
    · exact hsigns "inf" (by simp [fixedSigns]) h
  · simp only [String.toList_append, List.mem_append] at h
    rcases h with h | h
    · split at h
      · exact hsigns "-" (by simp [fixedSigns]) h
      · exact hsigns "" (by simp [fixedSigns]) h
    · rcases mem_binary_fixedPlaces h with h | rfl
      · exact .inl h
      · right; decide

theorem mem_toFixed {x : Float} {d : Int} {c : Char} (h : c ∈ (toFixed x d).toList) :
    c.isDigit ∨ c ∈ fixedSigns := by
  unfold toFixed at h
  -- a tie is nudged first, and either way the text is that of `fixedPlaces`
  split at h <;> exact mem_fixedPlaces h

end Number

open Number

/-- **A degree in a key is written like a degree cut to places**: the sign folded away from an
all-zero text is a prefix of it. -/
theorem mem_normalDegree {x : Float} {c : Char} (h : c ∈ (normalDegree x).toList) :
    c.isDigit ∨ c ∈ fixedSigns := by
  unfold normalDegree at h
  dsimp only at h
  split at h
  · -- dropping the leading signs of an all-zero text leaves a suffix of it
    rw [String.toList_ofList] at h
    exact mem_toFixed ((List.dropWhile_suffix _).subset h)
  · exact mem_toFixed h

/-- A character that is neither a digit nor one of the signs of a degree is not in one. -/
theorem not_mem_normalDegree (x : Float) {c : Char} (hc : c.isDigit = false ∧ c ∉ fixedSigns) :
    c ∉ (normalDegree x).toList := fun h => by
  rcases mem_normalDegree h with h | h
  · rw [hc.1] at h; cases h
  · exact hc.2 h

/-! ### Decoding a joined text -/

/-- **Parts joined by a character none of them holds are recovered from the joined text.**
Splitting at the character gives the parts back. -/
theorem intercalate_singleton_inj {c : Char} {l₁ l₂ : List String}
    (h₁ : ∀ s ∈ l₁, c ∉ s.toList) (h₂ : ∀ s ∈ l₂, c ∉ s.toList) (hne₁ : l₁ ≠ []) (hne₂ : l₂ ≠ [])
    (h : (String.singleton c).intercalate l₁ = (String.singleton c).intercalate l₂) : l₁ = l₂ :=
  calc l₁ = if l₁ = [] then [""] else l₁ := (if_neg hne₁).symm
    _ = (((String.singleton c).intercalate l₁).split c).toList.map (·.copy) :=
      (String.toList_split_intercalate h₁).symm
    _ = (((String.singleton c).intercalate l₂).split c).toList.map (·.copy) := by rw [h]
    _ = if l₂ = [] then [""] else l₂ := String.toList_split_intercalate h₂
    _ = l₂ := if_neg hne₂

/-- **Two points agree in a key exactly when their degrees do.** -/
theorem normalPoint_eq_iff {a b : Coordinates} :
    normalPoint a = normalPoint b ↔
      normalDegree a.lat = normalDegree b.lat ∧ normalDegree a.lng = normalDegree b.lng := by
  have hjoin (p : Coordinates) :
      normalPoint p = (String.singleton ',').intercalate [normalDegree p.lat, normalDegree p.lng] := by
    simp [normalPoint]
  have hcomma (p : Coordinates) : ∀ s ∈ [normalDegree p.lat, normalDegree p.lng], ',' ∉ s.toList := by
    simp only [List.mem_cons, List.not_mem_nil, or_false]
    rintro s (rfl | rfl) <;> exact not_mem_normalDegree _ (by decide)
  constructor
  · intro h
    rw [hjoin, hjoin] at h
    simpa using intercalate_singleton_inj (hcomma a) (hcomma b) (by simp) (by simp) h
  · rintro ⟨hlat, hlng⟩
    rw [normalPoint, normalPoint, hlat, hlng]

theorem bar_not_mem_normalPoint (p : Coordinates) : '|' ∉ (normalPoint p).toList := by
  simp only [normalPoint, String.toList_append, List.mem_append, not_or]
  exact ⟨⟨not_mem_normalDegree _ (by decide), by decide⟩, not_mem_normalDegree _ (by decide)⟩

/-! ### Names of modes and options -/

theorem TravelMode.name_injective : Function.Injective TravelMode.name := by
  intro a b
  cases a <;> cases b <;> decide

theorem TrafficModel.name_injective : Function.Injective TrafficModel.name := by
  intro a b
  cases a <;> cases b <;> decide

theorem UnitSystem.name_injective : Function.Injective UnitSystem.name := by
  intro a b
  cases a <;> cases b <;> decide

theorem TravelMode.bar_not_mem_name (m : TravelMode) : '|' ∉ m.name.toList := by
  cases m <;> decide

theorem TrafficModel.bar_not_mem_name (m : TrafficModel) : '|' ∉ m.name.toList := by
  cases m <;> decide

theorem UnitSystem.bar_not_mem_name (u : UnitSystem) : '|' ∉ u.name.toList := by
  cases u <;> decide

/-! ### Departure windows -/

/-- A representable whole second is the instant of that second. -/
theorem Instant.ofSeconds?_of_isSome {s : Int} (h : (Instant.ofSeconds? s).isSome) :
    Instant.ofSeconds? s = some ⟨s, 0⟩ := by
  unfold Instant.ofSeconds? at h ⊢
  split <;> simp_all

section Window

variable {t : Instant} (hb : (Instant.ofSeconds? (t.seconds / 300 * 300)).isSome)
include hb

/-- The window of an instant starts at the whole multiple of 300 seconds at or below it. -/
theorem bucketStart_eq : bucketStart t = ⟨t.seconds / 300 * 300, 0⟩ := by
  rw [bucketStart, bucketSeconds, Instant.ofSeconds?_of_isSome hb]
  rfl

/-- **A window starts no later than the instant.** -/
theorem bucketStart_le : (bucketStart t).le t := by
  rw [bucketStart_eq hb]
  have : t.seconds / 300 * 300 ≤ t.seconds := Int.ediv_mul_le _ (by decide)
  simp [Instant.le, Instant.lt]
  omega

/-- **A window ends after the instant**, 300 seconds after its start. -/
theorem lt_bucketStart_add : t.lt ((bucketStart t).addMillis 300000) := by
  rw [bucketStart_eq hb]
  simp only [Instant.lt, Instant.addMillis]
  have : t.seconds < t.seconds / 300 * 300 + 300 := by omega
  simp only [Int.natCast_zero, Int.add_zero, decide_eq_true_eq, Bool.or_eq_true]
  left
  omega

/-- **A window's start is the start of its own window.** -/
theorem bucketStart_bucketStart : bucketStart (bucketStart t) = bucketStart t := by
  -- a multiple of 300 is its own floor
  have hfloor : t.seconds / 300 * 300 / 300 * 300 = t.seconds / 300 * 300 := by omega
  have hb' : (Instant.ofSeconds? ((bucketStart t).seconds / 300 * 300)).isSome := by
    rw [bucketStart_eq hb]
    simpa only [hfloor] using hb
  rw [bucketStart_eq hb', bucketStart_eq hb, hfloor]

/-- The window of an instant holds it, and is the window of its own start. -/
theorem bucketStart_window :
    (bucketStart t).le t ∧ t.lt ((bucketStart t).addMillis 300000) ∧
      bucketStart (bucketStart t) = bucketStart t :=
  ⟨bucketStart_le hb, lt_bucketStart_add hb, bucketStart_bucketStart hb⟩

end Window

/-! ### The key -/

namespace DistanceRequest

/-- **The text of a key decodes into its six parts**, when the window is a whole second. -/
theorem keyText_eq_iff {r₁ r₂ : DistanceRequest} {b₁ b₂ : Instant} (h₁ : b₁.nanos = 0)
    (h₂ : b₂.nanos = 0) :
    r₁.keyText b₁ = r₂.keyText b₂ ↔
      normalPoint r₁.origin = normalPoint r₂.origin ∧
        normalPoint r₁.destination = normalPoint r₂.destination ∧
        r₁.travelMode = r₂.travelMode ∧ b₁ = b₂ ∧ r₁.traffic = r₂.traffic ∧
        r₁.units = r₂.units := by
  have hbar (r : DistanceRequest) (b : Instant) (hb : b.nanos = 0) :
      ∀ s ∈ [normalPoint r.origin, normalPoint r.destination, r.travelMode.name, b.millisText,
        r.traffic.name, r.units.name], '|' ∉ s.toList := by
    simp only [List.mem_cons, List.not_mem_nil, or_false]
    rintro s (rfl | rfl | rfl | rfl | rfl | rfl)
    · exact bar_not_mem_normalPoint _
    · exact bar_not_mem_normalPoint _
    · exact TravelMode.bar_not_mem_name _
    · exact Instant.bar_not_mem_millisText _ hb
    · exact TrafficModel.bar_not_mem_name _
    · exact UnitSystem.bar_not_mem_name _
  constructor
  · intro h
    -- cut both texts at their bars, then read each field back from its part
    have hparts := intercalate_singleton_inj (hbar r₁ b₁ h₁) (hbar r₂ b₂ h₂) (by simp) (by simp) h
    simp only [List.cons.injEq, and_true] at hparts
    obtain ⟨ho, hd, hm, hw, ht, hu⟩ := hparts
    exact ⟨ho, hd, TravelMode.name_injective hm, Instant.millisText_injective h₁ h₂ hw,
      TrafficModel.name_injective ht, UnitSystem.name_injective hu⟩
  · rintro ⟨ho, hd, hm, rfl, ht, hu⟩
    simp only [keyText, ho, hd, hm, ht, hu]

/-- **Two lookups share a cache key exactly when they agree on what the key keeps**: the
degrees of both points cut to six places, the travel mode, the traffic model and the unit
system, each with its default, and the five-minute window of the departure, floored also before
1970. This holds for departures whose window starts are representable, with SHA-256 free of a
collision on the two texts. Each window starts no later than its instant and ends after it, and
is its own start's window. -/
theorem cacheKey_eq_iff {r₁ r₂ : DistanceRequest} {t₁ t₂ now₁ now₂ : Instant}
    (hd₁ : r₁.departureTime = some t₁) (hd₂ : r₂.departureTime = some t₂)
    (hb₁ : (Instant.ofSeconds? (t₁.seconds / 300 * 300)).isSome)
    (hb₂ : (Instant.ofSeconds? (t₂.seconds / 300 * 300)).isSome)
    (hsha : Hash.sha256Hex (r₁.keyText (bucketStart t₁)) =
        Hash.sha256Hex (r₂.keyText (bucketStart t₂)) →
      r₁.keyText (bucketStart t₁) = r₂.keyText (bucketStart t₂)) :
    (r₁.cacheKey now₁ = r₂.cacheKey now₂ ↔
      normalDegree r₁.origin.lat = normalDegree r₂.origin.lat ∧
        normalDegree r₁.origin.lng = normalDegree r₂.origin.lng ∧
        normalDegree r₁.destination.lat = normalDegree r₂.destination.lat ∧
        normalDegree r₁.destination.lng = normalDegree r₂.destination.lng ∧
        r₁.travelMode = r₂.travelMode ∧ r₁.traffic = r₂.traffic ∧ r₁.units = r₂.units ∧
        t₁.seconds / 300 = t₂.seconds / 300) ∧
    ∀ t ∈ [t₁, t₂], (bucketStart t).le t ∧ t.lt ((bucketStart t).addMillis 300000) ∧
      bucketStart (bucketStart t) = bucketStart t := by
  have hkey (r : DistanceRequest) (t now : Instant) (hd : r.departureTime = some t) :
      r.cacheKey now = Hash.sha256Hex (r.keyText (bucketStart t)) := by
    simp only [cacheKey, hd, Option.getD_some]
  -- two windows agree exactly when their floors do
  have hwindow : bucketStart t₁ = bucketStart t₂ ↔ t₁.seconds / 300 = t₂.seconds / 300 := by
    rw [bucketStart_eq hb₁, bucketStart_eq hb₂, Instant.mk.injEq]
    omega
  have hkeyText := @keyText_eq_iff r₁ r₂ _ _ (congrArg Instant.nanos (bucketStart_eq hb₁))
    (congrArg Instant.nanos (bucketStart_eq hb₂))
  refine ⟨?_, ?_⟩
  · -- equal texts give equal keys; the hypothesis on SHA-256 gives the converse
    rw [hkey r₁ t₁ now₁ hd₁, hkey r₂ t₂ now₂ hd₂]
    calc Hash.sha256Hex (r₁.keyText (bucketStart t₁)) = Hash.sha256Hex (r₂.keyText (bucketStart t₂))
        ↔ r₁.keyText (bucketStart t₁) = r₂.keyText (bucketStart t₂) := ⟨hsha, congrArg _⟩
      _ ↔ _ := by
        rw [hkeyText, normalPoint_eq_iff, normalPoint_eq_iff, hwindow]
        constructor
        · rintro ⟨⟨hol, hog⟩, ⟨hdl, hdg⟩, hm, hw, ht, hu⟩
          exact ⟨hol, hog, hdl, hdg, hm, ht, hu, hw⟩
        · rintro ⟨hol, hog, hdl, hdg, hm, ht, hu, hw⟩
          exact ⟨⟨hol, hog⟩, ⟨hdl, hdg⟩, hm, hw, ht, hu⟩
  · simp only [List.mem_cons, List.not_mem_nil, or_false]
    rintro t (rfl | rfl)
    · exact bucketStart_window hb₁
    · exact bucketStart_window hb₂

/-- A trip looked up for 10:32:00 and for 10:34:59 on 13 November 2026 has one key: both
departures lie in the window from 10:30. -/
theorem cacheKey_within_window :
    (⟨⟨35.681236, 139.767125⟩, ⟨35.658581, 139.745433⟩, none, some ⟨1794565920, 0⟩, none⟩ :
        DistanceRequest).cacheKey ⟨0, 0⟩ =
      (⟨⟨35.681236, 139.767125⟩, ⟨35.658581, 139.745433⟩, none, some ⟨1794566099, 0⟩, none⟩ :
        DistanceRequest).cacheKey ⟨0, 0⟩ := by
  have hwindow : bucketStart ⟨1794565920, 0⟩ = bucketStart ⟨1794566099, 0⟩ := by decide
  refine (cacheKey_eq_iff rfl rfl (by decide) (by decide) fun _ => ?_).1.mpr
    ⟨rfl, rfl, rfl, rfl, rfl, rfl, rfl, by decide⟩
  -- the key's text does not read the departure, only its window
  rw [hwindow]
  rfl

end DistanceRequest

end RoutePlanner
