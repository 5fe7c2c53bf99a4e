import RoutePlanner.Time.Instant
import Mathlib.Tactic.IntervalCases

/-!
# The text of an instant determines it

An instant with no fraction of a second is written as `YYYY-MM-DDTHH:MM:SS.000Z` with
milliseconds shown (`Instant.millisText`), and no two such instants share a text
(`Instant.millisText_injective`). Two facts carry this.

* **The calendar is a bijection.** `civilFromDays` splits a day count into 400-year eras, a year
  of the era and a day of that year counted from the 1st of March; `daysFromCivil` undoes it
  for every integer (`daysFromCivil_civilFromDays`). The one arithmetic fact behind it is that
  the day of the year stays within `0 … 365` (`era_bounds`).
* **The text can be cut back into its fields.** Every field after the year is two digits (three
  for the milliseconds), so the part after the year has a fixed length and the year is what
  stands before it; each field is read back as the number its digits spell.

Such texts also hold no `|` (`Instant.bar_not_mem_millisText`), which the cache keys of
distance lookups rely on when they join their parts with it.
-/

namespace RoutePlanner

/-! ### The civil calendar -/

/-- **The year of the era and the day of the year are within range** for every day of a
400-year era. Fixing the century and the century of the year leaves linear arithmetic. -/
theorem era_bounds (doe : Int) (h0 : 0 ≤ doe) (h1 : doe ≤ 146096) :
    let yoe := (doe - doe / 1460 + doe / 36524 - doe / 146096) / 365
    let doy := doe - (365 * yoe + yoe / 4 - yoe / 100)
    0 ≤ yoe ∧ yoe ≤ 399 ∧ 0 ≤ doy ∧ doy ≤ 365 := by
  intro yoe doy
  have hy0 : 0 ≤ yoe := by omega
  have hy1 : yoe ≤ 399 := by omega
  obtain ⟨c, hc⟩ : ∃ c, c = doe / 36524 := ⟨_, rfl⟩
  obtain ⟨e, he⟩ : ∃ e, e = yoe / 100 := ⟨_, rfl⟩
  have hc4 : 0 ≤ c ∧ c ≤ 4 := by omega
  have he4 : 0 ≤ e ∧ e ≤ 3 := by omega
  obtain ⟨hc0, hc1⟩ := hc4
  obtain ⟨he0, he1⟩ := he4
  refine ⟨hy0, hy1, ?_⟩
  -- the floors nest too deeply for omega alone; with both centuries fixed each case is linear
  interval_cases c <;> interval_cases e <;> omega

/-- The month, counted from March, and the day of the month of a day of the year. -/
theorem month_day_bounds (doy : Int) (hd0 : 0 ≤ doy) (hd1 : doy ≤ 365) :
    let mp := (5 * doy + 2) / 153
    let d := doy - (153 * mp + 2) / 5 + 1
    0 ≤ mp ∧ mp ≤ 11 ∧ 1 ≤ d ∧ d ≤ 31 := by
  intro mp d
  have hmp0 : 0 ≤ mp := by omega
  have hmp1 : mp ≤ 11 := by omega
  exact ⟨hmp0, hmp1, by omega, by omega⟩

/-- **`daysFromCivil` undoes the date of a day of an era.** A month from March to December
stays in the year of the era; January and February belong to the next calendar year, and
`daysFromCivil` takes them back. -/
theorem daysFromCivil_ofEra (era yoe doy : Int) (hy0 : 0 ≤ yoe) (hy1 : yoe ≤ 399)
    (hd0 : 0 ≤ doy) (hd1 : doy ≤ 365) :
    let mp := (5 * doy + 2) / 153
    let d := doy - (153 * mp + 2) / 5 + 1
    let m := if mp < 10 then mp + 3 else mp - 9
    let y := yoe + era * 400
    daysFromCivil ⟨if m ≤ 2 then y + 1 else y, m.toNat, d.toNat⟩ =
      era * 146097 + (365 * yoe + yoe / 4 - yoe / 100 + doy) - 719468 := by
  intro mp d m y
  obtain ⟨hmp0, hmp1, hd, -⟩ := month_day_bounds doy hd0 hd1
  have hddef : d = doy - (153 * mp + 2) / 5 + 1 := rfl
  have hdn : ((d.toNat : Nat) : Int) = d := by omega
  by_cases hlow : mp < 10
  · -- March to December
    have hm : m = mp + 3 := if_pos hlow
    have hm2 : ¬ m ≤ 2 := by omega
    have hmn : ((m.toNat : Nat) : Int) = mp + 3 := by omega
    have hgt : ¬ (m.toNat ≤ 2) := by omega
    have hgt' : m.toNat > 2 := by omega
    have hera : y / 400 = era := by omega
    simp only [daysFromCivil, hm2, if_false, hgt, hmn, hdn, hgt', if_true, hera]
    omega
  · -- January and February, in the next calendar year
    have hm : m = mp - 9 := if_neg hlow
    have hm2 : m ≤ 2 := by omega
    have hmn : ((m.toNat : Nat) : Int) = mp - 9 := by omega
    have hle : m.toNat ≤ 2 := by omega
    have hng : ¬ m.toNat > 2 := by omega
    have hera : (y + 1 - 1) / 400 = era := by omega
    simp only [daysFromCivil, hm2, if_true, hle, hmn, hdn, hng, if_false, hera]
    omega

/-- The day of the era of a day count, within `0 … 146096`. -/
theorem dayOfEra_bounds (z : Int) :
    0 ≤ (z + 719468) - (z + 719468) / 146097 * 146097 ∧
      (z + 719468) - (z + 719468) / 146097 * 146097 ≤ 146096 := by
  omega

/-- **The calendar round trip**: the date of any day count gives the day count back. -/
theorem daysFromCivil_civilFromDays (z : Int) : daysFromCivil (civilFromDays z) = z := by
  obtain ⟨hdoe0, hdoe1⟩ := dayOfEra_bounds z
  obtain ⟨hy0, hy1, hd0, hd1⟩ := era_bounds _ hdoe0 hdoe1
  -- the era's days before the date, plus the day of the era, are the day count shifted
  exact (daysFromCivil_ofEra ((z + 719468) / 146097) _ _ hy0 hy1 hd0 hd1).trans (by omega)

/-- A date's month is within `1 … 12` and its day within `1 … 31`. -/
theorem civilFromDays_bounds (z : Int) :
    1 ≤ (civilFromDays z).month ∧ (civilFromDays z).month ≤ 12 ∧
      1 ≤ (civilFromDays z).day ∧ (civilFromDays z).day ≤ 31 := by
  obtain ⟨hdoe0, hdoe1⟩ := dayOfEra_bounds z
  obtain ⟨-, -, hd0, hd1⟩ := era_bounds _ hdoe0 hdoe1
  obtain ⟨hmp0, hmp1, hd, hd'⟩ := month_day_bounds _ hd0 hd1
  simp only [civilFromDays]
  split <;> omega

theorem CivilDate.eq_of_fields {a b : CivilDate} (hy : a.year = b.year) (hm : a.month = b.month)
    (hd : a.day = b.day) : a = b := by
  cases a
  cases b
  simp_all

/-- Two day counts with the same date are the same. -/
theorem civilFromDays_injective {z₁ z₂ : Int} (h : civilFromDays z₁ = civilFromDays z₂) :
    z₁ = z₂ := by
  rw [← daysFromCivil_civilFromDays z₁, h, daysFromCivil_civilFromDays]

/-! ### Padded numbers -/

namespace Instant

theorem padded_toList (w n : Nat) :
    (padded w n).toList = List.replicate (w - (Nat.toDigits 10 n).length) '0' ++ Nat.toDigits 10 n := by
  simp [padded, String.toList_append, ← String.length_toList, Nat.toList_repr]

/-- A padded number reads back as the number: leading zeros add nothing. -/
theorem ofDigitChars_padded (w n : Nat) : Nat.ofDigitChars 10 (padded w n).toList 0 = n := by
  rw [padded_toList, Nat.ofDigitChars_append, Nat.ofDigitChars_replicate_zero]
  simp

theorem padded_injective {w a b : Nat} (h : padded w a = padded w b) : a = b := by
  rw [← ofDigitChars_padded w a, h, ofDigitChars_padded]

theorem isDigit_of_mem_padded {w n : Nat} {c : Char} (h : c ∈ (padded w n).toList) :
    c.isDigit := by
  rw [padded_toList, List.mem_append, List.mem_replicate] at h
  rcases h with ⟨-, rfl⟩ | h
  · rfl
  · exact Nat.isDigit_of_mem_toDigits (by decide) (by decide) h

/-- A number below `100` padded to two places has two digits. -/
theorem length_padded_two {n : Nat} (h : n < 100) : (padded 2 n).toList.length = 2 := by
  have hlen : (Nat.toDigits 10 n).length ≤ 2 :=
    (Nat.length_toDigits_le_iff (by decide) (by decide)).mpr h
  rw [padded_toList, List.length_append, List.length_replicate]
  omega

/-- A padded number has at least as many digits as it is padded to. -/
theorem le_length_padded (w n : Nat) : w ≤ (padded w n).toList.length := by
  rw [padded_toList, List.length_append, List.length_replicate]
  omega

/-! ### Years -/

theorem yearText_toList (y : Int) :
    (yearText y).toList =
      if 0 ≤ y ∧ y ≤ 9999 then (padded 4 y.toNat).toList
      else (if y < 0 then '-' else '+') :: (padded 4 y.natAbs).toList := by
  unfold yearText
  split
  · rfl
  · split <;> simp [String.toList_append]

/-- Every character of a year is a digit or a sign. -/
theorem mem_yearText {y : Int} {c : Char} (h : c ∈ (yearText y).toList) :
    c.isDigit ∨ c = '-' ∨ c = '+' := by
  rw [yearText_toList] at h
  split at h
  · exact .inl (isDigit_of_mem_padded h)
  · rcases List.mem_cons.mp h with rfl | h
    · split <;> simp
    · exact .inl (isDigit_of_mem_padded h)

/-- A year within `0 … 9999` starts with a digit, any other with its sign. -/
theorem yearText_head (y : Int) :
    ∃ c rest, (yearText y).toList = c :: rest ∧ (c.isDigit ↔ 0 ≤ y ∧ y ≤ 9999) := by
  rw [yearText_toList]
  split
  · rename_i hin
    have hlen := le_length_padded 4 y.toNat
    obtain ⟨c, rest, hcr⟩ : ∃ c rest, (padded 4 y.toNat).toList = c :: rest :=
      List.exists_cons_of_length_pos (by omega)
    have hc : c.isDigit := isDigit_of_mem_padded (by rw [hcr]; exact List.mem_cons_self)
    exact ⟨c, rest, hcr, by simp [hc, hin]⟩
  · rename_i hout
    refine ⟨_, _, rfl, ?_⟩
    split <;> simp [hout]

/-- **No two years are written alike.** -/
theorem yearText_injective {y₁ y₂ : Int} (h : yearText y₁ = yearText y₂) : y₁ = y₂ := by
  obtain ⟨c₁, r₁, h₁, hc₁⟩ := yearText_head y₁
  obtain ⟨c₂, r₂, h₂, hc₂⟩ := yearText_head y₂
  have hl := congrArg String.toList h
  have hc : c₁ = c₂ := by rw [h₁, h₂] at hl; exact (List.cons.inj hl).1
  subst hc
  rw [yearText_toList, yearText_toList] at hl
  by_cases hin₁ : 0 ≤ y₁ ∧ y₁ ≤ 9999
  · -- both within `0 … 9999`: four digits each
    have hin₂ : 0 ≤ y₂ ∧ y₂ ≤ 9999 := hc₂.mp (hc₁.mpr hin₁)
    rw [if_pos hin₁, if_pos hin₂] at hl
    have := padded_injective (String.toList_injective hl)
    omega
  · -- both outside: the same sign, then the same magnitude
    have hin₂ : ¬(0 ≤ y₂ ∧ y₂ ≤ 9999) := fun h' => hin₁ (hc₁.mp (hc₂.mpr h'))
    rw [if_neg hin₁, if_neg hin₂] at hl
    obtain ⟨hsign, hrest⟩ := List.cons.inj hl
    have habs := padded_injective (String.toList_injective hrest)
    by_cases hneg₁ : y₁ < 0 <;> by_cases hneg₂ : y₂ < 0 <;> simp [hneg₁, hneg₂] at hsign <;> omega

/-! ### The whole text -/

/-- The text after the year of a whole second: month, day and time of day, two digits each,
and zero milliseconds. -/
def clockText (month day hour minute second : Nat) : String :=
  "-" ++ padded 2 month ++ "-" ++ padded 2 day ++ "T" ++ padded 2 hour ++ ":" ++
    padded 2 minute ++ ":" ++ padded 2 second ++ ("." ++ padded 3 0) ++ "Z"

theorem clockText_toList (month day hour minute second : Nat) :
    (clockText month day hour minute second).toList =
      '-' :: ((padded 2 month).toList ++ '-' :: ((padded 2 day).toList ++ 'T' ::
        ((padded 2 hour).toList ++ ':' :: ((padded 2 minute).toList ++ ':' ::
          ((padded 2 second).toList ++ ['.', '0', '0', '0', 'Z']))))) := by
  simp [clockText, String.toList_append]
  rfl

/-- Two clock texts of fields below `100` agree exactly when their fields do. -/
theorem clockText_injective {a₁ b₁ c₁ d₁ e₁ a₂ b₂ c₂ d₂ e₂ : Nat}
    (h₁ : a₁ < 100 ∧ b₁ < 100 ∧ c₁ < 100 ∧ d₁ < 100 ∧ e₁ < 100)
    (h₂ : a₂ < 100 ∧ b₂ < 100 ∧ c₂ < 100 ∧ d₂ < 100 ∧ e₂ < 100)
    (h : clockText a₁ b₁ c₁ d₁ e₁ = clockText a₂ b₂ c₂ d₂ e₂) :
    a₁ = a₂ ∧ b₁ = b₂ ∧ c₁ = c₂ ∧ d₁ = d₂ ∧ e₁ = e₂ := by
  obtain ⟨ha₁, hb₁, hc₁, hd₁, he₁⟩ := h₁
  obtain ⟨ha₂, hb₂, hc₂, hd₂, he₂⟩ := h₂
  have hl := congrArg String.toList h
  rw [clockText_toList, clockText_toList] at hl
  -- peel one two-digit field and its separator at a time
  have field : ∀ {x y : Nat} {s t : List Char}, x < 100 → y < 100 →
      (padded 2 x).toList ++ s = (padded 2 y).toList ++ t → x = y ∧ s = t := by
    intro x y s t hx hy hxy
    obtain ⟨hp, hst⟩ := List.append_inj hxy (by rw [length_padded_two hx, length_padded_two hy])
    exact ⟨padded_injective (String.toList_injective hp), hst⟩
  obtain ⟨ea, hl⟩ := field ha₁ ha₂ (List.cons.inj hl).2
  obtain ⟨eb, hl⟩ := field hb₁ hb₂ (List.cons.inj hl).2
  obtain ⟨ec, hl⟩ := field hc₁ hc₂ (List.cons.inj hl).2
  obtain ⟨ed, hl⟩ := field hd₁ hd₂ (List.cons.inj hl).2
  obtain ⟨ee, -⟩ := field he₁ he₂ (List.cons.inj hl).2
  exact ⟨ea, eb, ec, ed, ee⟩

theorem length_clockText {a b c d e : Nat} (h : a < 100 ∧ b < 100 ∧ c < 100 ∧ d < 100 ∧ e < 100) :
    (clockText a b c d e).toList.length = 20 := by
  obtain ⟨ha, hb, hc, hd, he⟩ := h
  simp [clockText_toList, length_padded_two ha, length_padded_two hb, length_padded_two hc,
    length_padded_two hd, length_padded_two he]

/-- The seconds of the day of a whole number of seconds. -/
def secondOfDay (t : Instant) : Nat := (t.seconds % 86400).toNat

/-- **The text of a whole second**: its year, then its clock text. -/
theorem millisText_whole (t : Instant) (h : t.nanos = 0) :
    t.millisText =
      yearText (civilFromDays (t.seconds / 86400)).year ++
        clockText (civilFromDays (t.seconds / 86400)).month (civilFromDays (t.seconds / 86400)).day
          (secondOfDay t / 3600) (secondOfDay t / 60 % 60) (secondOfDay t % 60) := by
  simp [millisText, textWith, h, clockText, secondOfDay, String.append_assoc]

/-- The fields of the clock text of a whole second are all below `100`. -/
theorem clockFields_lt (t : Instant) :
    (civilFromDays (t.seconds / 86400)).month < 100 ∧ (civilFromDays (t.seconds / 86400)).day < 100 ∧
      secondOfDay t / 3600 < 100 ∧ secondOfDay t / 60 % 60 < 100 ∧ secondOfDay t % 60 < 100 := by
  obtain ⟨-, hm, -, hd⟩ := civilFromDays_bounds (t.seconds / 86400)
  have hs : secondOfDay t < 86400 := by unfold secondOfDay; omega
  omega

/-- **No two whole seconds are written alike.** The clock text has a fixed length, so the
year is what stands before it; the date gives the day by the calendar round trip, and the
clock gives the second of the day. -/
theorem millisText_injective {t₁ t₂ : Instant} (h₁ : t₁.nanos = 0) (h₂ : t₂.nanos = 0)
    (h : t₁.millisText = t₂.millisText) : t₁ = t₂ := by
  rw [millisText_whole t₁ h₁, millisText_whole t₂ h₂] at h
  have hl := congrArg String.toList h
  rw [String.toList_append, String.toList_append] at hl
  obtain ⟨hy, hc⟩ := List.append_inj' hl
    (by rw [length_clockText (clockFields_lt t₁), length_clockText (clockFields_lt t₂)])
  have hyear := yearText_injective (String.toList_injective hy)
  obtain ⟨hm, hd, hh, hmi, hs⟩ :=
    clockText_injective (clockFields_lt t₁) (clockFields_lt t₂) (String.toList_injective hc)
  -- the same date is the same day
  have hdate : civilFromDays (t₁.seconds / 86400) = civilFromDays (t₂.seconds / 86400) :=
    CivilDate.eq_of_fields hyear hm hd
  have hdays := civilFromDays_injective hdate
  -- the same clock is the same second of the day
  have hsec : secondOfDay t₁ = secondOfDay t₂ := by
    have hs₁ : secondOfDay t₁ < 86400 := by unfold secondOfDay; omega
    have hs₂ : secondOfDay t₂ < 86400 := by unfold secondOfDay; omega
    omega
  unfold secondOfDay at hsec
  have hseconds : t₁.seconds = t₂.seconds := by omega
  cases t₁
  cases t₂
  simp_all

/-! ### No bar in the text -/

theorem bar_not_mem_padded (w n : Nat) : '|' ∉ (padded w n).toList :=
  fun h => absurd (isDigit_of_mem_padded h) (by decide)

theorem bar_not_mem_yearText (y : Int) : '|' ∉ (yearText y).toList := by
  intro h
  rcases mem_yearText h with h | h | h <;> revert h <;> decide

/-- **A whole second is written without a `|`.** -/
theorem bar_not_mem_millisText (t : Instant) (h : t.nanos = 0) : '|' ∉ t.millisText.toList := by
  rw [millisText_whole t h, String.toList_append, clockText_toList]
  simp [bar_not_mem_padded, bar_not_mem_yearText]

end Instant

end RoutePlanner
