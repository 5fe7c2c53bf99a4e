import RoutePlanner.Text.Unicode.RangeTable

/-!
# Bidirectional classes

The bidirectional class of a character says how it behaves in right-to-left text, and decides
whether a label of a domain name reads one way. The table (from the Unicode Character
Database) covers the characters that may stand in a domain name, with one tag per class:
`L`, `R`, `A` (Arabic letter), `N` (Arabic number), `E` (European number), `S` (European
separator), `C` (common separator), `T` (European terminator), `O` (other neutral), `B`
(boundary neutral), `M` (non-spacing mark), and `X` for the classes of explicit formatting and
separators, which no label may hold.
-/

namespace RoutePlanner.Unicode

/-- The bidirectional classes a label of a domain name can hold. -/
inductive BidiClass where
  | leftToRight
  | rightToLeft
  | arabicLetter
  | arabicNumber
  | europeanNumber
  | europeanSeparator
  | commonSeparator
  | europeanTerminator
  | otherNeutral
  | boundaryNeutral
  | nonspacingMark
  /-- any other class -/
  | other
  deriving DecidableEq, Repr

/-- The bidirectional classes, as the text of a range table. -/
def bidiClassText : String := String.join [
  "B9X5BeX5O2T3O5S1C1S1C2EaC1O26L1aO4B22O1T4OaT6O29L18O1L1c1O2L7OeL2O1cL1O11M71L4O2L7fO2L8bM8Lf",
  "fO5T2M2dR1M1R1M2R1M2R1M9R36O2A1T2A1C1A1O2MbA30M15NaT1N2A3M1A65M8O1M6A2M2O1M4A2EaA17M1A1eM1dA",
  "59MbAfR2bM9R2O4R3M1R18M4R1M9R1M3R1M7R29M5R2A38M8A2aM39L37M1L1M1L4M8L4M1L3MfL2M2L1dM1L3aM1L4M",
  "6L6M1L14M4LcT2L7T1L2M5L39M2L3M1bL14M2L3M1LbM2L39M1L4M8L4M3L12M4LbT8L1M8L3aM1L2M1L1M6L6MaLbM4",
  "L1cM1L3dM1LcM3L23O6T1O6M1L3M1L37M1L1M3L5M12LaM4L12O7L2M1L3aM1LfM9LdM4L1aM2L39M2L4M5L7M1L14M4",
  "L1bM1L48M5L3M6L59M1L2MbT1L7M8L62M1L2M9LbM8L48M2L1bM1L1M1L1M1O4L33MeL1M5L1M2L5M31L8M1L66M4L1M",
  "6L1M2L2M2L19M2L4M3L10M4LdM1L2M2L6M1LfM1L2bfM3L30O10L60O1L29aO5L72M3L1dM2L1eMeL12MeL37M7L8M1L",
  "2MbL7T1L1M3L10O20L75M2L22M1L76M3L4M2L9M1L6M7O6L98O22L17M2L2M3L38M1L1M9L1M1L2M8L6MdL30M54L30M",
  "1L1M5L1M1L5M1L28M9LcM2L20M4L2M2L1M3L38M1L1M2L3M1L1M3L3aM8L2M5L95M3L1MdL1M7L4M1L6M1L3M2Lc6M41",
  "L20bB4O20T5OfC1O5bT30M34O2aTcO14L3cO88S1T1O122L45O1aL1O316L1O153L100O330Lb5O7L3M4L6O7L7fM1L6",
  "0M20O205L3O19L9M4L2O1L6O4L2O4L58M4L3O1L5aO1Lc4O30L1bd0O40L5690O40L13dO3L5fM4O1MaO3L1dM2L50M2",
  "LeO23L65O1L79M1L3M1L4M1L19M2L1O4M4L8T8L34OcL44MaL12M12LdM1L26M8L19MbL2eM3L30M1L2M4L2M2L27M1L",
  "43M6L2M2L2MbL3M1L8M1L2fM1L33M1L1M3L2M2L5M2L1M1L2aM2L8MbL69O56L25M1L2M1L4M3L4f2eM94A18cOe2M25",
  "O2eA18dL101O1L3eO4dL3O40L2dM83L60M1E1fL76MaL480R11fO1Re1MfR28M8Ra5M6R4eO7R1c0A24McN150R2bM2R",
  "83A16MbA1fR12M4R7aL1M1L36MfLbO14LaM1L2M2LaM3L31M4L2M2L7MeL30M3L24M5L1M9L3dM1LcM2L34M9LaM4L2M",
  "1L5fM3L2M1L1M2L6M42L5fM1L3MdL10M2L39M2L3M1L25M9aL38M8L2M3L1M1L17M1L54M6L1M1L4M2L1M2LeeM6L4M2",
  "L1M2L1bM24L33M8L2M1L1M2L1fO20L2bM1L1M1L2M6L1M1L65M3L2M4L1M9LffM9L1M2L100M2L1M1L4M1L90M8L4M1L",
  "20M6L2M2L28M6L2M4L8M9L1M6L2M3L2eMdL1M2L196MeL54M17L1M7L1M2L1M4bL31M15L1M9L40M3L2M1L1M1L15bM2",
  "Le0O8T4O1eL4af1M5L3bM7L418M1L3fM4L4fO1L1McL4cadM2L1261M50L217M3L11M8L2M7L1eM4L3bO59M3O9bL20O",
  "60L6a0M37L4M32L8M1LeM1L16M465L100M100L30M7L177M12L2cM4LfT4e1L20Rd0M52R22M7R326A27fO260L1dO3L",
  "3dO39L7aOda0L"]

/-- The bidirectional classes, as a range table. -/
def bidiClasses : RangeTable := RangeTable.decode bidiClassText

/-- The class a tag stands for. -/
def BidiClass.ofTag (tag : Char) : BidiClass :=
  match tag with
  | 'L' => .leftToRight
  | 'R' => .rightToLeft
  | 'A' => .arabicLetter
  | 'N' => .arabicNumber
  | 'E' => .europeanNumber
  | 'S' => .europeanSeparator
  | 'C' => .commonSeparator
  | 'T' => .europeanTerminator
  | 'O' => .otherNeutral
  | 'B' => .boundaryNeutral
  | 'M' => .nonspacingMark
  | _ => .other

/-- **The bidirectional class of a character.** -/
def bidiClass (c : Char) : BidiClass := BidiClass.ofTag (bidiClasses.tagAt c.toNat 'L')

end RoutePlanner.Unicode
