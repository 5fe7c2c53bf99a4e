/-!
# Blank characters

The characters with the Unicode property White_Space, as ranges of code points, and trimming
by them. Every character core's `Char.isWhitespace` accepts is among them
(`isBlank_of_isWhitespace`); the table adds the other line and paragraph separators, the
no-break spaces and the typographic spaces.
-/

namespace RoutePlanner

/-- The ranges of code points with the property White_Space, both ends included. -/
def blankRanges : List (Nat × Nat) :=
  [(0x09, 0x0D), (0x20, 0x20), (0x85, 0x85), (0xA0, 0xA0), (0x1680, 0x1680),
    (0x2000, 0x200A), (0x2028, 0x2029), (0x202F, 0x202F), (0x205F, 0x205F),
    (0x3000, 0x3000)]

/-- **Whether a character is blank** in the Unicode sense. -/
def isBlank (c : Char) : Bool :=
  blankRanges.any fun r => r.1 ≤ c.toNat && c.toNat ≤ r.2

/-- The text after its leading blanks. -/
def trimStart (cs : List Char) : List Char := cs.dropWhile isBlank

/-- A text without its leading and trailing blanks. -/
def trimBlanks (s : String) : String :=
  String.ofList (trimStart (trimStart s.toList).reverse).reverse

/-- Every character that core counts as whitespace is blank. -/
theorem isBlank_of_isWhitespace (c : Char) (h : c.isWhitespace = true) : isBlank c = true := by
  simp only [Char.isWhitespace, Bool.or_eq_true, decide_eq_true_eq] at h
  simp only [isBlank, blankRanges, List.any_cons, List.any_nil, Bool.or_eq_true,
    Bool.and_eq_true, decide_eq_true_eq, Bool.or_false]
  rcases h with ((h | h) | h) | h <;> subst h <;> decide

example : isBlank (Char.ofNat 0x3000) = true ∧ isBlank 'a' = false := by decide

end RoutePlanner
