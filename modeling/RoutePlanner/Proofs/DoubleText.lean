import RoutePlanner.Proofs.ShortestDecimal
import RoutePlanner.Number.Text
import RoutePlanner.Number.Read
import RoutePlanner.Number.Arith

/-!
# The text of a double determines the double

Under every layout, the shortest text of a finite double tells which double it is
(`Layout.render_injective`). The text is a sign, then either a zero or the shortest decimal
placed positionally or with an exponent. Read as the number reader splits a number's text
(digits, a fraction after a point, an exponent), the text gives back the exact value of the
decimal it places (`decimalValue_place`): whatever the layout decides, it moves the point and
adds zeros, never changing the value. The shortest decimal of a double is admitted by its
magnitude and by no other one (`Binary.admits_shortest`, `Binary.eq_of_admits`), and a double is
its sign and magnitude (`Float.eq_of_classify`).

The module also says which characters such a text has (`numberChar`): a number in JSON text ends
where its characters end.
-/

namespace RoutePlanner.Number

/-! ### Doubles as sign and magnitude -/

/-- **What `classify` reads off a finite double**: the biased exponent `E` and the fraction `F` of
its bits, and the magnitude they give, subnormal for `E = 0`. -/
theorem classify_eq_finite {x : Float} {neg : Bool} {b : Binary}
    (h : classify x = .finite neg b) :
    ∃ E F : Nat, E < 2047 ∧ F < 2 ^ 52 ∧
      x.toBits.toNat = (if neg then 2 ^ 63 else 0) + E * 2 ^ 52 + F ∧
      (E = 0 ∧ b = ⟨F, -1074, false⟩ ∨
        0 < E ∧ b = ⟨2 ^ 52 + F, (E : Int) - 1075, F == 0 && decide (E > 1)⟩) := by
  rw [classify, classifyBits_eq_fields] at h
  have hn := x.toBits.toNat_lt
  -- the bits are the sign bit, the exponent field and the fraction field
  have hbits : x.toBits.toNat =
      (if (x.toBits.toNat / 2 ^ 63 == 1) then 2 ^ 63 else 0) +
        x.toBits.toNat / 2 ^ 52 % 2048 * 2 ^ 52 + x.toBits.toNat % 2 ^ 52 := by
    split <;> rename_i hs <;> simp only [beq_iff_eq] at hs <;> omega
  unfold classifyFields at h
  split at h
  · split at h <;> cases h
  · rename_i hE
    refine ⟨x.toBits.toNat / 2 ^ 52 % 2048, x.toBits.toNat % 2 ^ 52,
      by simp only [beq_iff_eq] at hE; omega, Nat.mod_lt _ (by norm_num), ?_⟩
    split at h
    · rename_i hE0
      cases h
      exact ⟨hbits, .inl ⟨by simpa using hE0, rfl⟩⟩
    · rename_i hE0
      cases h
      refine ⟨hbits, .inr ⟨by simp only [beq_iff_eq] at hE0; omega, ?_⟩⟩
      rw [Nat.pow_eq]

/-- A double is its bits. -/
theorem Float.toBits_injective : Function.Injective Float.toBits := by
  rintro ⟨⟨a, ha⟩⟩ ⟨⟨c, hc⟩⟩ h
  change a = c at h
  subst h
  rfl

/-- **A finite double is its sign and magnitude.** -/
theorem Float.eq_of_classify {x y : Float} {neg : Bool} {b : Binary}
    (hx : classify x = .finite neg b) (hy : classify y = .finite neg b) : x = y := by
  obtain ⟨E₁, F₁, -, hF₁, hx', hb₁⟩ := classify_eq_finite hx
  obtain ⟨E₂, F₂, -, hF₂, hy', hb₂⟩ := classify_eq_finite hy
  -- the magnitude gives back both fields
  have hfields : E₁ = E₂ ∧ F₁ = F₂ := by
    rcases hb₁ with ⟨h₁, rfl⟩ | ⟨h₁, rfl⟩ <;> rcases hb₂ with ⟨h₂, hb⟩ | ⟨h₂, hb⟩ <;>
      simp only [Binary.mk.injEq] at hb <;> omega
  apply Float.toBits_injective
  rw [← UInt64.toNat_inj, hx', hy', hfields.1, hfields.2]

/-- **The magnitude of a double is in the range of doubles.** -/
theorem classify_inRange {x : Float} {neg : Bool} {b : Binary}
    (h : classify x = .finite neg b) : b.InRange := by
  have hnormal := classify_normal h
  obtain ⟨E, F, hE, hF, -, hb⟩ := classify_eq_finite h
  rcases hb with ⟨-, rfl⟩ | ⟨hE0, rfl⟩
  · exact ⟨hnormal, show (-1074 : Int) ≤ 971 by decide,
      by simp only [Bool.false_eq_true, false_iff]; omega⟩
  · refine ⟨hnormal, show (E : Int) - 1075 ≤ 971 by omega, ?_⟩
    simp only [Bool.and_eq_true, beq_iff_eq, decide_eq_true_eq]
    omega

/-- A zero magnitude is the subnormal one with mantissa zero. -/
theorem classify_zero {x : Float} {neg : Bool} {b : Binary} (h : classify x = .finite neg b)
    (hm : b.mantissa = 0) : b = ⟨0, -1074, false⟩ := by
  obtain ⟨E, F, -, -, -, hb⟩ := classify_eq_finite h
  rcases hb with ⟨-, rfl⟩ | ⟨-, rfl⟩
  · simp_all
  · simp at hm

/-! ### Reading a number's text back as a value -/

/-- **The exact value of a number's text**, split as `readFloat` splits it: digits, then a
fraction after a point, then an exponent; none when the exponent does not read. -/
def decimalValue (cs : List Char) : Option ℚ :=
  let (whole, rest) := spanDigits cs
  let (frac, rest) := match rest with
    | '.' :: tail => spanDigits tail
    | _ => ([], rest)
  (readExponent rest).map fun e : Int =>
    (digitsValue (whole ++ frac) : ℚ) * 10 ^ (e - (frac.length : Int))

theorem digitsValue_eq (cs : List Char) : digitsValue cs = Nat.ofDigitChars 10 cs 0 := rfl

theorem digitsValue_toDigits (n : Nat) : digitsValue (Nat.toDigits 10 n) = n :=
  Nat.ofDigitChars_toDigits (by norm_num) (by norm_num)

/-- Zeros in front add nothing. -/
theorem digitsValue_zeros_append (z : Nat) (cs : List Char) :
    digitsValue (List.replicate z '0' ++ cs) = digitsValue cs := by
  rw [digitsValue_eq, Nat.ofDigitChars_append, Nat.ofDigitChars_replicate_zero, mul_zero]
  rfl

/-- Zeros behind multiply by ten each. -/
theorem digitsValue_append_zeros (cs : List Char) (z : Nat) :
    digitsValue (cs ++ List.replicate z '0') = digitsValue cs * 10 ^ z := by
  rw [digitsValue_eq, Nat.ofDigitChars_append, Nat.ofDigitChars_replicate_zero, mul_comm]
  rfl

/-- A run of digits stops at the first character that is not one. -/
theorem spanDigits_append {ds rest : List Char} (hds : ∀ c ∈ ds, c.isDigit = true)
    (hrest : ∀ c ∈ rest.head?, c.isDigit = false) : spanDigits (ds ++ rest) = (ds, rest) := by
  unfold spanDigits
  rw [List.takeWhile_append_of_pos hds, List.dropWhile_append_of_pos hds]
  cases rest with
  | nil => simp
  | cons c t =>
    have hc : c.isDigit = false := hrest c rfl
    simp [hc]

/-- The text of a number with a point: digits, a point, digits, then nothing or an exponent. -/
theorem decimalValue_point {whole frac rest : List Char} (hw : ∀ c ∈ whole, c.isDigit = true)
    (hf : ∀ c ∈ frac, c.isDigit = true) (hr : ∀ c ∈ rest.head?, c = 'e') {e : Int}
    (he : readExponent rest = some e) :
    decimalValue (whole ++ '.' :: (frac ++ rest)) =
      some ((digitsValue (whole ++ frac) : ℚ) * 10 ^ (e - (frac.length : Int))) := by
  have hrest : ∀ c ∈ rest.head?, c.isDigit = false := fun c hc => by rw [hr c hc]; rfl
  unfold decimalValue
  rw [spanDigits_append hw (by simp)]
  simp [spanDigits_append hf hrest, he]

/-- The text of a number without a point: digits, then nothing or an exponent. -/
theorem decimalValue_whole {whole rest : List Char} (hw : ∀ c ∈ whole, c.isDigit = true)
    (hr : ∀ c ∈ rest.head?, c = 'e') {e : Int} (he : readExponent rest = some e) :
    decimalValue (whole ++ rest) = some ((digitsValue whole : ℚ) * 10 ^ e) := by
  have hrest : ∀ c ∈ rest.head?, c.isDigit = false := fun c hc => by rw [hr c hc]; rfl
  unfold decimalValue
  rw [spanDigits_append hw hrest]
  cases rest with
  | nil => simp_all
  | cons c t =>
    obtain rfl : c = 'e' := hr c rfl
    simp_all

theorem isDigit_of_mem_toDigits {n : Nat} {c : Char} (h : c ∈ Nat.toDigits 10 n) :
    c.isDigit = true :=
  Nat.isDigit_of_mem_toDigits (by norm_num) (by norm_num) h

theorem spanDigits_toDigits (n : Nat) :
    spanDigits (Nat.toDigits 10 n) = (Nat.toDigits 10 n, []) := by
  simpa using @spanDigits_append _ [] (fun c hc => isDigit_of_mem_toDigits hc) (by simp)

/-- Digits carry no sign. -/
theorem takeSign_toDigits (n : Nat) : takeSign (Nat.toDigits 10 n) = (false, Nat.toDigits 10 n) := by
  obtain ⟨c, t, hct⟩ := List.exists_cons_of_ne_nil (Nat.toDigits_ne_nil (n := n) (b := 10))
  have hc : c.isDigit = true := isDigit_of_mem_toDigits (hct ▸ List.mem_cons_self)
  have h₁ : c ≠ '-' := by rintro rfl; exact absurd hc (by decide)
  have h₂ : c ≠ '+' := by rintro rfl; exact absurd hc (by decide)
  rw [hct]
  simp [takeSign, h₁, h₂]

/-- The digits of a natural, after `e` and a sign, read as the exponent. -/
theorem readExponent_digits (sign : List Char) (neg : Bool) (n : Nat)
    (hsign : takeSign (sign ++ Nat.toDigits 10 n) = (neg, Nat.toDigits 10 n)) :
    readExponent ('e' :: (sign ++ Nat.toDigits 10 n)) =
      some (if neg then -(n : Int) else n) := by
  simp [readExponent, hsign, spanDigits_toDigits, digitsValue_toDigits, Nat.toDigits_ne_nil]

/-- An exponent as the layouts write it: `e`, a `+` when asked for and the exponent is not
negative, and the exponent in decimal. -/
theorem readExponent_text (plus : Bool) (i : Int) (hplus : plus = true → 0 ≤ i) :
    readExponent ('e' :: ((if plus then "+" else "") ++ toString i).toList) = some i := by
  rcases le_or_gt 0 i with hi | hi
  · obtain ⟨n, rfl⟩ := Int.eq_ofNat_of_zero_le hi
    have hstr : toString (n : Int) = Nat.repr n := rfl
    cases plus
    · simpa [String.toList_append, hstr, Nat.toList_repr] using
        readExponent_digits [] false n (by simpa using takeSign_toDigits n)
    · simpa [String.toList_append, hstr, Nat.toList_repr] using
        readExponent_digits ['+'] false n rfl
  · obtain ⟨n, hn⟩ : ∃ n : Nat, i = -((n + 1 : Nat) : Int) := ⟨(-i).toNat - 1, by omega⟩
    have hplus' : plus = false := by
      cases plus
      · rfl
      · exact absurd (hplus rfl) (by omega)
    subst hplus' hn
    have hstr : toString (-((n + 1 : Nat) : Int)) = "-" ++ Nat.repr (n + 1) := rfl
    rw [hstr]
    simpa [String.toList_append, Nat.toList_repr] using
      readExponent_digits ['-'] true (n + 1) rfl

theorem zeros_toList (n : Nat) : (zeros n).toList = List.replicate n '0' := by
  simp [zeros]

theorem isDigit_of_mem_digits_zeros {ds : List Char} (hds : ∀ c ∈ ds, c.isDigit = true)
    (z : Nat) : ∀ c ∈ ds ++ List.replicate z '0', c.isDigit = true := by
  intro c hc
  rcases List.mem_append.1 hc with h | h
  · exact hds c h
  · rw [List.eq_of_mem_replicate h]
    rfl

/-- **A placed decimal reads back as its value**, under every layout: positional text moves the
point or pads with zeros, scientific text moves the point by the exponent it writes. -/
theorem decimalValue_place (l : Layout) (d : Decimal) :
    decimalValue (l.place d).toList = some d.toRat := by
  have hds : ∀ c ∈ Nat.toDigits 10 d.digits, c.isDigit = true := fun c => isDigit_of_mem_toDigits
  have hval := digitsValue_toDigits d.digits
  have hlen : (Nat.repr d.digits).length = (Nat.toDigits 10 d.digits).length := by
    rw [← String.length_toList, Nat.toList_repr]
  unfold Layout.place
  simp only [hlen]
  generalize hL : (Nat.toDigits 10 d.digits).length = L
  have hpos : 0 < L := hL ▸ List.length_pos_iff.2 Nat.toDigits_ne_nil
  have hdrop : ∀ k, ((Nat.toDigits 10 d.digits).drop k).length = L - k := by
    intro k
    rw [List.length_drop, hL]
  by_cases hplain :
      (l.alwaysPlain || (decide (l.plainAbove < (L : Int) + d.exponent) &&
        decide ((L : Int) + d.exponent ≤ l.plainUpTo))) = true
  · rw [if_pos hplain]
    by_cases hexp : 0 ≤ d.exponent
    · -- positional, a whole number: the digits and the zeros of the exponent
      rw [if_pos hexp]
      obtain ⟨z, hz⟩ := Int.eq_ofNat_of_zero_le hexp
      cases hpz : l.pointZero
      · have htext : (Nat.repr d.digits ++ zeros d.exponent.toNat ++ (if false = true then ".0"
              else "")).toList = (Nat.toDigits 10 d.digits ++ List.replicate z '0') ++ [] := by
          simp [String.toList_append, Nat.toList_repr, zeros_toList, hz]
        rw [htext, decimalValue_whole (isDigit_of_mem_digits_zeros hds z) (by simp) rfl,
          digitsValue_append_zeros, hval, Decimal.toRat, hz]
        simp
      · have htext : (Nat.repr d.digits ++ zeros d.exponent.toNat ++ (if true = true then ".0"
              else "")).toList =
            (Nat.toDigits 10 d.digits ++ List.replicate z '0') ++ '.' :: (['0'] ++ []) := by
          simp [String.toList_append, Nat.toList_repr, zeros_toList, hz]
        rw [htext, decimalValue_point (isDigit_of_mem_digits_zeros hds z) (by simp) (by simp) rfl,
          List.append_assoc, ← List.replicate_succ', digitsValue_append_zeros, hval,
          Decimal.toRat, hz]
        simp only [Nat.cast_mul, Nat.cast_pow, Nat.cast_ofNat, zpow_natCast, pow_succ,
          Option.some.injEq]
        norm_num
        field_simp
    · rw [if_neg hexp]
      by_cases hkk : 0 < (L : Int) + d.exponent
      · -- positional, the point inside the digits
        rw [if_pos hkk]
        have htext : (String.ofList ((Nat.repr d.digits).toList.take ((L : Int) + d.exponent).toNat)
              ++ "." ++ String.ofList ((Nat.repr d.digits).toList.drop
                ((L : Int) + d.exponent).toNat)).toList =
            (Nat.toDigits 10 d.digits).take ((L : Int) + d.exponent).toNat ++
              '.' :: ((Nat.toDigits 10 d.digits).drop ((L : Int) + d.exponent).toNat ++ []) := by
          simp [String.toList_append, Nat.toList_repr]
        rw [htext, decimalValue_point (fun c hc => hds c (List.mem_of_mem_take hc))
          (fun c hc => hds c (List.mem_of_mem_drop hc)) (by simp) rfl, List.take_append_drop,
          hval, hdrop, Decimal.toRat]
        exact congrArg (fun e : Int => some ((d.digits : ℚ) * 10 ^ e)) (by omega)
      · -- positional, below one: a zero, the point, then zeros before the digits
        rw [if_neg hkk]
        have htext : ("0." ++ zeros (-((L : Int) + d.exponent)).toNat ++
              Nat.repr d.digits).toList =
            ['0'] ++ '.' :: ((List.replicate (-((L : Int) + d.exponent)).toNat '0' ++
              Nat.toDigits 10 d.digits) ++ []) := by
          simp [String.toList_append, Nat.toList_repr, zeros_toList]
        rw [htext, decimalValue_point (by simp)
          (fun c hc => by
            rcases List.mem_append.1 hc with h | h
            · rw [List.eq_of_mem_replicate h]; rfl
            · exact hds c h) (by simp) rfl,
          ← List.append_assoc, List.singleton_append, ← List.replicate_succ,
          digitsValue_zeros_append, hval,
          Decimal.toRat, List.length_append, List.length_replicate, hL]
        exact congrArg (fun e : Int => some ((d.digits : ℚ) * 10 ^ e)) (by omega)
  · -- scientific: the first digit, the others after a point, then the exponent
    rw [if_neg hplain]
    have hplus : (l.exponentPlus && decide (0 ≤ (L : Int) + d.exponent - 1)) = true →
        0 ≤ (L : Int) + d.exponent - 1 := by
      simp only [Bool.and_eq_true, decide_eq_true_eq]
      exact And.right
    have hexpo := readExponent_text _ _ hplus
    by_cases hone : L = 1
    · rw [if_pos hone]
      have htext : (Nat.repr d.digits ++ "e" ++
            ((if (l.exponentPlus && decide (0 ≤ (L : Int) + d.exponent - 1)) = true then "+"
              else "") ++ toString ((L : Int) + d.exponent - 1))).toList =
          Nat.toDigits 10 d.digits ++ 'e' :: ((if (l.exponentPlus &&
            decide (0 ≤ (L : Int) + d.exponent - 1)) = true then "+" else "") ++
              toString ((L : Int) + d.exponent - 1)).toList := by
        simp [String.toList_append, Nat.toList_repr]
      rw [htext, decimalValue_whole hds (by simp) hexpo, hval, Decimal.toRat]
      exact congrArg (fun e : Int => some ((d.digits : ℚ) * 10 ^ e)) (by omega)
    · rw [if_neg hone]
      have htext : (String.ofList ((Nat.repr d.digits).toList.take 1) ++ "." ++
            String.ofList ((Nat.repr d.digits).toList.drop 1) ++ "e" ++
            ((if (l.exponentPlus && decide (0 ≤ (L : Int) + d.exponent - 1)) = true then "+"
              else "") ++ toString ((L : Int) + d.exponent - 1))).toList =
          (Nat.toDigits 10 d.digits).take 1 ++ '.' :: ((Nat.toDigits 10 d.digits).drop 1 ++
            'e' :: ((if (l.exponentPlus && decide (0 ≤ (L : Int) + d.exponent - 1)) = true then
              "+" else "") ++ toString ((L : Int) + d.exponent - 1)).toList) := by
        simp [String.toList_append, Nat.toList_repr]
      have hw : ∀ c ∈ (Nat.toDigits 10 d.digits).take 1, c.isDigit = true :=
        fun c hc => hds c (List.mem_of_mem_take hc)
      have hf : ∀ c ∈ (Nat.toDigits 10 d.digits).drop 1, c.isDigit = true :=
        fun c hc => hds c (List.mem_of_mem_drop hc)
      rw [htext, decimalValue_point hw hf (by simp) hexpo, List.take_append_drop, hval, hdrop,
        Decimal.toRat, show (L : Int) + d.exponent - 1 - ((L - 1 : Nat) : Int) = d.exponent by
          omega]

/-! ### The text of a double -/

theorem exists_finite_of_isFinite {x : Float} (h : isFinite x = true) :
    ∃ neg b, classify x = .finite neg b := by
  unfold isFinite at h
  split at h
  · exact ⟨_, _, ‹_›⟩
  · cases h

/-- The text of a finite double: its sign, then a zero or its shortest decimal placed. -/
theorem Layout.render_finite (l : Layout) {x : Float} {neg : Bool} {b : Binary}
    (h : classify x = .finite neg b) :
    l.render x = (if neg then "-" else "") ++
      (if b.mantissa = 0 then (if l.pointZero then "0.0" else "0")
       else l.place (b.shortest l.tie)) := by
  simp [Layout.render, h]

/-- A text that starts with a sign has no value: the reader's sign is not part of it. -/
theorem decimalValue_minus (t : List Char) : decimalValue ('-' :: t) = none := by
  unfold decimalValue
  rw [show '-' :: t = [] ++ '-' :: t from rfl, spanDigits_append (by simp) (by simp)]
  simp [readExponent]

/-- The text after the sign reads back as the magnitude's value: zero, or the value of its
shortest decimal. -/
theorem decimalValue_magnitude (l : Layout) (b : Binary) :
    decimalValue (if b.mantissa = 0 then (if l.pointZero then "0.0" else "0")
       else l.place (b.shortest l.tie)).toList =
      some (if b.mantissa = 0 then 0 else (b.shortest l.tie).toRat) := by
  by_cases hm : b.mantissa = 0
  · rw [if_pos hm, if_pos hm]
    cases l.pointZero
    · have h := @decimalValue_whole ['0'] [] (by simp) (by simp) 0 rfl
      simpa [show digitsValue ['0'] = 0 from rfl] using h
    · have h := @decimalValue_point ['0'] ['0'] [] (by simp) (by simp) (by simp) 0 rfl
      simpa [show digitsValue ['0', '0'] = 0 from rfl] using h
  · rw [if_neg hm, if_neg hm, decimalValue_place]

/-- **The shortest text of a finite double determines the double**, under every layout. -/
theorem Layout.render_injective (l : Layout) {x y : Float} (hx : isFinite x = true)
    (hy : isFinite y = true) (h : l.render x = l.render y) : x = y := by
  obtain ⟨n₁, b₁, hx'⟩ := exists_finite_of_isFinite hx
  obtain ⟨n₂, b₂, hy'⟩ := exists_finite_of_isFinite hy
  rw [l.render_finite hx', l.render_finite hy'] at h
  have hv₁ := decimalValue_magnitude l b₁
  have hv₂ := decimalValue_magnitude l b₂
  generalize (if b₁.mantissa = 0 then (if l.pointZero then "0.0" else "0")
    else l.place (b₁.shortest l.tie)) = T₁ at h hv₁
  generalize (if b₂.mantissa = 0 then (if l.pointZero then "0.0" else "0")
    else l.place (b₂.shortest l.tie)) = T₂ at h hv₂
  -- a sign is no part of a magnitude's text, so the signs agree and so do the magnitudes' texts
  have hsame : n₁ = n₂ ∧ T₁ = T₂ := by
    have h' := congrArg String.toList h
    cases n₁ <;> cases n₂ <;> simp only [String.toList_append, if_true, Bool.false_eq_true,
      if_false] at h'
    · exact ⟨rfl, String.toList_inj.1 (by simpa using h')⟩
    · rw [show "-".toList = ['-'] by simp] at h'
      simp only [String.toList_empty, List.nil_append, List.cons_append] at h'
      rw [h', decimalValue_minus] at hv₁
      cases hv₁
    · rw [show "-".toList = ['-'] by simp] at h'
      simp only [String.toList_empty, List.nil_append, List.cons_append] at h'
      rw [← h', decimalValue_minus] at hv₂
      cases hv₂
    · exact ⟨rfl, String.toList_inj.1 (List.append_cancel_left h')⟩
  obtain ⟨rfl, rfl⟩ := hsame
  have hval := Option.some.inj (hv₁.symm.trans hv₂)
  -- equal values: two zeros, or one decimal admitted by both magnitudes
  have hb : b₁ = b₂ := by
    have hr₁ := classify_inRange hx'
    have hr₂ := classify_inRange hy'
    by_cases hz₁ : b₁.mantissa = 0 <;> by_cases hz₂ : b₂.mantissa = 0
    · rw [classify_zero hx' hz₁, classify_zero hy' hz₂]
    · rw [if_pos hz₁, if_neg hz₂] at hval
      exact absurd hval ((Binary.admits_shortest hr₂ (Nat.pos_of_ne_zero hz₂) l.tie).pos
        (Nat.pos_of_ne_zero hz₂)).ne
    · rw [if_neg hz₁, if_pos hz₂] at hval
      exact absurd hval ((Binary.admits_shortest hr₁ (Nat.pos_of_ne_zero hz₁) l.tie).pos
        (Nat.pos_of_ne_zero hz₁)).ne'
    · rw [if_neg hz₁, if_neg hz₂] at hval
      have a₂ := Binary.admits_shortest hr₂ (Nat.pos_of_ne_zero hz₂) l.tie
      rw [← hval] at a₂
      exact Binary.eq_of_admits hr₁ hr₂
        (Binary.admits_shortest hr₁ (Nat.pos_of_ne_zero hz₁) l.tie) a₂
  rw [hb] at hx'
  exact Float.eq_of_classify hx' hy'

/-! ### The characters of a number's text -/

/-- The characters a number's text is made of: digits, signs, the point and the exponent mark. -/
def numberChar (c : Char) : Bool :=
  c.isDigit || c == '-' || c == '+' || c == '.' || c == 'e'

theorem numberChar_of_isDigit {c : Char} (h : c.isDigit = true) : numberChar c = true := by
  simp [numberChar, h]

theorem numberChar_of_mem_toDigits {n : Nat} {c : Char} (h : c ∈ Nat.toDigits 10 n) :
    numberChar c = true :=
  numberChar_of_isDigit (isDigit_of_mem_toDigits h)

theorem numberChar_of_mem_toString_int {i : Int} {c : Char} (h : c ∈ (toString i).toList) :
    numberChar c = true := by
  rcases le_or_gt 0 i with hi | hi
  · obtain ⟨n, rfl⟩ := Int.eq_ofNat_of_zero_le hi
    rw [show toString (n : Int) = Nat.repr n from rfl, Nat.toList_repr] at h
    exact numberChar_of_mem_toDigits h
  · obtain ⟨n, rfl⟩ : ∃ n : Nat, i = -((n + 1 : Nat) : Int) := ⟨(-i).toNat - 1, by omega⟩
    rw [show toString (-((n + 1 : Nat) : Int)) = "-" ++ Nat.repr (n + 1) from rfl,
      String.toList_append, Nat.toList_repr] at h
    rcases List.mem_append.1 h with h | h
    · rw [show "-".toList = ['-'] by simp, List.mem_singleton] at h
      rw [h]
      rfl
    · exact numberChar_of_mem_toDigits h

/-- A placed decimal is made of number characters. -/
theorem numberChar_of_mem_place (l : Layout) (d : Decimal) :
    ∀ c ∈ (l.place d).toList, numberChar c = true := by
  have hds : ∀ c ∈ Nat.toDigits 10 d.digits, numberChar c = true :=
    fun c => numberChar_of_mem_toDigits
  -- the slices of the digits, stated whole so that `simp` closes them where they occur
  have htake : ∀ k, (∀ c ∈ (Nat.toDigits 10 d.digits).take k, numberChar c = true) = True :=
    fun k => eq_true fun c hc => hds c (List.mem_of_mem_take hc)
  have hdrop : ∀ k, (∀ c ∈ (Nat.toDigits 10 d.digits).drop k, numberChar c = true) = True :=
    fun k => eq_true fun c hc => hds c (List.mem_of_mem_drop hc)
  have htail : (∀ c ∈ (Nat.toDigits 10 d.digits).tail, numberChar c = true) = True :=
    eq_true fun c hc => hds c (List.mem_of_mem_tail hc)
  have hexp : ∀ i : Int, (∀ c ∈ i.repr.toList, numberChar c = true) = True :=
    fun i => eq_true fun c => numberChar_of_mem_toString_int
  have hchars : numberChar '0' = true ∧ numberChar '.' = true ∧ numberChar 'e' = true ∧
      numberChar '+' = true := by decide
  unfold Layout.place
  dsimp only
  -- each piece is digits, a slice of them, zeros, the exponent or a literal
  split_ifs <;>
    simp +contextual [String.toList_append, Nat.toList_repr, zeros_toList, or_imp, forall_and,
      hds, hchars, htake, hdrop, htail, hexp]

/-- The text of a finite double is made of number characters. -/
theorem Layout.numberChar_of_mem_render (l : Layout) {x : Float} (hx : isFinite x = true) :
    ∀ c ∈ (l.render x).toList, numberChar c = true := by
  obtain ⟨neg, b, hb⟩ := exists_finite_of_isFinite hx
  have hchars : numberChar '-' = true ∧ numberChar '0' = true ∧ numberChar '.' = true := by
    decide
  rw [l.render_finite hb]
  split_ifs <;> simp [String.toList_append, or_imp, forall_and, hchars] <;>
    exact numberChar_of_mem_place _ _

/-- Under a layout that keeps `.0` on whole numbers, the text of a placed decimal has a point or
an exponent. -/
theorem Layout.point_or_exponent_of_place (l : Layout) (hl : l.pointZero = true) (d : Decimal) :
    '.' ∈ (l.place d).toList ∨ 'e' ∈ (l.place d).toList := by
  unfold Layout.place
  dsimp only
  split_ifs <;> simp_all [String.toList_append]

/-- Under a layout that keeps `.0` on whole numbers, the text of a finite double has a point or
an exponent. -/
theorem Layout.point_or_exponent_of_render (l : Layout) (hl : l.pointZero = true) {x : Float}
    (hx : isFinite x = true) : '.' ∈ (l.render x).toList ∨ 'e' ∈ (l.render x).toList := by
  obtain ⟨neg, b, hb⟩ := exists_finite_of_isFinite hx
  rw [l.render_finite hb]
  by_cases hm : b.mantissa = 0
  · simp [hm, hl, String.toList_append]
  · have h := l.point_or_exponent_of_place hl (b.shortest l.tie)
    simp only [hm, if_false, String.toList_append, List.mem_append]
    tauto

end RoutePlanner.Number
