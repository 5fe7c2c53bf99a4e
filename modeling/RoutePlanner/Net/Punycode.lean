/-!
# Punycode

The bootstring encoding of RFC 3492, by which a domain label with non-ASCII characters is
written in ASCII (`ü` becomes `tda`, and the label `xn--tda`). The ASCII characters of the
label come first, then a hyphen when there are any, then each other code point, in increasing
order of value, as a variable-length base-36 number of the steps from the last one inserted.
The digit thresholds follow an adaptive bias.

`punycodeDecode` reads such a label back: the basic characters before the last hyphen, then
each delta inserts one code point at the position it names. It fails on a character that is
no digit, a delta cut short, a number past 32 bits, or a value that is no character.

Every loop ends by a measure: `adaptSteps` on the delta, `deltaDigits` on the remaining
quantity, the encoder's main loop on the list of code points still to insert, and the
decoder's on the characters still to read (`readDelta_shorter`).
-/

namespace RoutePlanner.Net

/-- The character of a base-36 digit: `a` to `z`, then `0` to `9`. -/
def punyDigit (d : Nat) : Char :=
  if d < 26 then Char.ofNat (0x61 + d) else Char.ofNat (0x30 + d - 26)

/-- The threshold of the digit at position `k` under a bias. -/
def punyThreshold (k bias : Nat) : Nat :=
  if k ≤ bias then 1 else if bias + 26 ≤ k then 26 else k - bias

/-- Every threshold is at least one. -/
theorem punyThreshold_pos (k bias : Nat) : 1 ≤ punyThreshold k bias := by
  unfold punyThreshold
  split
  · omega
  · split <;> omega

/-- Every threshold is at most 26. -/
theorem punyThreshold_le (k bias : Nat) : punyThreshold k bias ≤ 26 := by
  unfold punyThreshold
  split
  · omega
  · split <;> omega

/-- Divides the delta by 35 until it is at most 455, counting steps of 36. -/
def adaptSteps (delta k : Nat) : Nat × Nat :=
  if 455 < delta then adaptSteps (delta / 35) (k + 36) else (delta, k)
termination_by delta
decreasing_by exact Nat.div_lt_self (by omega) (by omega)

/-- The bias after a code point has been inserted. -/
def adaptBias (delta points : Nat) (first : Bool) : Nat :=
  let d := if first then delta / 700 else delta / 2
  let (d, k) := adaptSteps (d + d / points) 0
  k + 36 * d / (d + 38)

/-- A delta as variable-length base-36 digits. -/
def deltaDigits (bias k q : Nat) : List Char :=
  let t := punyThreshold k bias
  if q < t then [punyDigit q]
  else punyDigit (t + (q - t) % (36 - t)) :: deltaDigits bias (k + 36) ((q - t) / (36 - t))
termination_by q
decreasing_by
  have := punyThreshold_pos k bias
  have := punyThreshold_le k bias
  have : (q - punyThreshold k bias) / (36 - punyThreshold k bias) ≤ q - punyThreshold k bias :=
    Nat.div_le_self _ _
  omega

/-- The state of the encoder: output so far, delta, bias, and how many code points are
placed. -/
structure PunyState where
  out : List Char
  delta : Nat
  bias : Nat
  placed : Nat

/-- Passes one character of the label at the current code point `m`. -/
def punyScan (basic m : Nat) (st : PunyState) (c : Char) : PunyState :=
  if c.toNat < m then { st with delta := st.delta + 1 }
  else if c.toNat = m then
    { out := st.out ++ deltaDigits st.bias 36 st.delta, delta := 0,
      bias := adaptBias st.delta (st.placed + 1) (st.placed == basic), placed := st.placed + 1 }
  else st

/-- Inserts the code points `ms` (increasing), starting from code point `n`. -/
def punyLoop (label : List Char) (basic : Nat) : List Nat → Nat → PunyState → PunyState
  | [], _, st => st
  | m :: ms, n, st =>
    let st := { st with delta := st.delta + (m - n) * (st.placed + 1) }
    let st := label.foldl (punyScan basic m) st
    punyLoop label basic ms (m + 1) { st with delta := st.delta + 1 }

/-- The distinct values of a list, in increasing order. -/
def sortedDistinct (xs : List Nat) : List Nat :=
  (xs.mergeSort (· ≤ ·)).eraseDups

/-- **Punycode of a label** (without the `xn--` prefix). -/
def punycode (label : List Char) : List Char :=
  let basic := label.filter (·.toNat < 0x80)
  let others := sortedDistinct ((label.filter (0x80 ≤ ·.toNat)).map Char.toNat)
  let st := punyLoop label basic.length others 128 ⟨[], 0, 72, basic.length⟩
  basic ++ (if basic.isEmpty then [] else ['-']) ++ st.out

/-- The value of a base-36 digit: `a` to `z` in either case are 0 to 25, `0` to `9` are 26
to 35. -/
def punyValue (c : Char) : Option Nat :=
  if 0x61 ≤ c.toNat ∧ c.toNat ≤ 0x7A then some (c.toNat - 0x61)
  else if 0x41 ≤ c.toNat ∧ c.toNat ≤ 0x5A then some (c.toNat - 0x41)
  else if 0x30 ≤ c.toNat ∧ c.toNat ≤ 0x39 then some (c.toNat - 0x30 + 26)
  else none

/-- The largest number the decoder carries (32 bits). -/
def punyLimit : Nat := Nat.pow 2 32 - 1

/-- **One delta**, read from its digit at position `k` on and added to `acc` with weight
`w`: the sum, and the characters after the delta. -/
def readDelta (bias k w acc : Nat) : List Char → Option (Nat × List Char)
  | [] => none
  | c :: rest =>
    match punyValue c with
    | none => none
    | some d =>
      let acc := acc + d * w
      let t := punyThreshold k bias
      if punyLimit < acc then none
      else if d < t then some (acc, rest)
      else if punyLimit < w * (36 - t) then none
      else readDelta bias (k + 36) (w * (36 - t)) acc rest

/-- A delta takes at least one character. -/
theorem readDelta_shorter {bias k w acc a : Nat} {cs rest : List Char}
    (h : readDelta bias k w acc cs = some (a, rest)) : rest.length < cs.length := by
  induction cs generalizing k w acc with
  | nil => simp [readDelta] at h
  | cons c cs ih =>
    simp only [readDelta] at h
    split at h
    · simp at h
    · split at h
      · simp at h
      · split at h
        · simp only [Option.some.injEq, Prod.mk.injEq] at h
          rw [← h.2]
          exact Nat.lt_succ_self _
        · split at h
          · simp at h
          · exact Nat.lt_trans (ih h) (Nat.lt_succ_self _)

/-- Inserts the code points that the deltas of `input` describe into `out`, from code point
`n`, position `i` and `bias` on. -/
def insertDeltas (n i bias : Nat) (out : List Nat) (input : List Char) : Option (List Nat) :=
  match input with
  | [] => some out
  | c :: cs =>
    match _hd : readDelta bias 36 1 i (c :: cs) with
    | none => none
    | some (i', rest) =>
      let len := out.length + 1
      let n' := n + i' / len
      let pos := i' % len
      if 0x10FFFF < n' ∨ (0xD800 ≤ n' ∧ n' ≤ 0xDFFF) then none
      else insertDeltas n' (pos + 1) (adaptBias (i' - i) len (i == 0)) (out.insertIdx pos n') rest
termination_by input.length
decreasing_by exact readDelta_shorter _hd

/-- **A label read back from Punycode** (without the `xn--` prefix). -/
def punycodeDecode (body : List Char) : Option (List Char) :=
  let tail := (body.reverse.takeWhile (· ≠ '-')).reverse
  let hasDelimiter := body.contains '-'
  let basic := if hasDelimiter then body.take (body.length - tail.length - 1) else []
  let deltas := if hasDelimiter then tail else body
  if basic.any (0x80 ≤ ·.toNat) then none
  else (insertDeltas 128 0 72 (basic.map Char.toNat) deltas).map (·.map Char.ofNat)

end RoutePlanner.Net
