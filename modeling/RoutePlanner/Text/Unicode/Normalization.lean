import RoutePlanner.Text.Unicode.Combining
import RoutePlanner.Text.Unicode.Decomposition

/-!
# Normalization to composed form

Text is brought to Normalization Form C in three steps:

* every character is replaced by its full canonical decomposition (`decomposeFully`);
  a Hangul syllable splits arithmetically into its leading consonant, vowel and trailing
  consonant;
* every run of characters of nonzero combining class is sorted by class, characters of equal
  class keeping their order (`canonicalOrder`);
* each character is composed with the last starter before it when it is not blocked from it
  (no character between them has class 0 or a class at least its own) and the pair has a
  primary composite (`compose`), Hangul syllables again by arithmetic.

`nfc` does all three. The tables cover the characters that may stand in a domain name, which
is what normalization is used for here.
-/

namespace RoutePlanner.Unicode

/-- The first Hangul syllable. -/
def hangulFirst : Nat := 0xAC00

/-- The number of Hangul syllables. -/
def hangulCount : Nat := 11172

/-- The first leading consonant of Hangul. -/
def leadFirst : Nat := 0x1100

/-- The first vowel of Hangul. -/
def vowelFirst : Nat := 0x1161

/-- The code point before the first trailing consonant of Hangul, which stands for none. -/
def trailBase : Nat := 0x11A7

/-- How many syllables share a leading consonant. -/
def syllablesPerLead : Nat := 588

/-- How many syllables share a leading consonant and a vowel. -/
def syllablesPerVowel : Nat := 28

/-- **The full canonical decomposition** of a character: its one-step decomposition with each
piece decomposed in turn, at most `depth` levels deep. -/
def decomposeFully : Nat → Char → List Char
  | 0, c => [c]
  | depth + 1, c =>
    let n := c.toNat
    if hangulFirst ≤ n ∧ n < hangulFirst + hangulCount then
      let s := n - hangulFirst
      let lead := Char.ofNat (leadFirst + s / syllablesPerLead)
      let vowel := Char.ofNat (vowelFirst + s % syllablesPerLead / syllablesPerVowel)
      let trail := s % syllablesPerVowel
      if trail = 0 then [lead, vowel] else [lead, vowel, Char.ofNat (trailBase + trail)]
    else
      match decompositionOf? c with
      | some pieces => pieces.flatMap (decomposeFully depth)
      | none => [c]

/-- A run of marks sorted by combining class, equal classes keeping their order. -/
def sortMarks (run : List Char) : List Char :=
  run.mergeSort fun a b => combiningClass a ≤ combiningClass b

/-- **Characters in canonical order**: each run of characters of nonzero class sorted by class;
`run` holds the run read so far. -/
def canonicalOrder : List Char → List Char → List Char
  | [], run => sortMarks run
  | c :: rest, run =>
    if combiningClass c = 0 then sortMarks run ++ c :: canonicalOrder rest []
    else canonicalOrder rest (run ++ [c])

/-- **The composite of a starter and a following character**, if they compose: Hangul
syllables by arithmetic, other pairs by the table of primary composites. -/
def composePair (a b : Char) : Option Char :=
  let x := a.toNat
  let y := b.toNat
  if leadFirst ≤ x ∧ x < leadFirst + 19 ∧ vowelFirst ≤ y ∧ y < vowelFirst + 21 then
    some (Char.ofNat (hangulFirst + ((x - leadFirst) * 21 + (y - vowelFirst)) * syllablesPerVowel))
  else if hangulFirst ≤ x ∧ x < hangulFirst + hangulCount ∧ (x - hangulFirst) % syllablesPerVowel = 0 ∧
      trailBase < y ∧ y < trailBase + syllablesPerVowel then
    some (Char.ofNat (x + (y - trailBase)))
  else compositeOf? a b

/-- Where composition stands: the text before the last starter (reversed), that starter, the
characters after it (reversed), and the class of the last character kept after it, 0 when
none was. -/
structure Composer where
  before : List Char
  starter : Option Char
  after : List Char
  lastClass : Nat

/-- **One character composed**: with the last starter if it is not blocked from it and the pair
composes, else kept, a starter becoming the new last starter. -/
def Composer.push (st : Composer) (c : Char) : Composer :=
  let cc := combiningClass c
  match st.starter with
  | some s =>
    let reachable := st.lastClass = 0 ∨ st.lastClass < cc
    match (if reachable then composePair s c else none) with
    | some p => { st with starter := some p }
    | none =>
      if cc = 0 then ⟨st.after ++ s :: st.before, some c, [], 0⟩
      else { st with after := c :: st.after, lastClass := cc }
  | none =>
    if cc = 0 then { st with starter := some c, lastClass := 0 }
    else { st with before := c :: st.before }

/-- The composed text. -/
def Composer.result (st : Composer) : List Char :=
  match st.starter with
  | some s => (st.after ++ s :: st.before).reverse
  | none => st.before.reverse

/-- **Composition** of text in canonical order. -/
def compose (cs : List Char) : List Char :=
  (cs.foldl Composer.push ⟨[], none, [], 0⟩).result

/-- **Normalization Form C** of a text. Canonical decompositions are at most four levels deep,
so eight levels decompose every character fully. -/
def nfc (cs : List Char) : List Char :=
  compose (canonicalOrder (cs.flatMap (decomposeFully 8)) [])

end RoutePlanner.Unicode
