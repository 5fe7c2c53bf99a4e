import RoutePlanner.Text.Unicode.RangeTable

/-!
# Combining marks

A combining mark (general category `M`: non-spacing, spacing and enclosing marks) attaches to
the character before it, so no label of a domain name may start with one. The table (from the
Unicode Character Database) covers the characters that may stand in a domain name: tag `M` for
marks, `Z` for others.
-/

namespace RoutePlanner.Unicode

/-- The combining marks, as the text of a range table. -/
def markText : String := String.join [
  "Z300M71Z112M8Z106M2dZ1M1Z1M2Z1M2Z1M9Z40MbZ30M15Z10M1Z65M8Z1M6Z2M2Z1M4Z23M1Z1eM1dZ59MbZ3aM9Z9",
  "M1Z18M4Z1M9Z1M3Z1M7Z29M5Z3aM8Z2aM3aZ36M3Z1M12Z1MfZ2M2Z1dM4Z37M1Z1M10Z9M9Z2M4Z18M7Z37M20Z14M2",
  "Z3M1ZbM4Z37M1Z1M12Z12M4Z14MbZ37M1Z1M21Z3M4Z1cM1Z3bM12Z7MfZ1aM5Z37M1Z1M1aZaM4Z1bM3Z38M1Z1M1fZ",
  "5M4Z1aM4Z37M2Z1M10Z9M1ZaM4Z1bM4Z45M1cZcM2Z3dM1Z2MbZ8M8Z62M1Z2M9ZbM8Z48M2Z1bM1Z1M1Z1M1Z4M2Z31",
  "M14Z1M2Z5M31Z8M1Z64M14Z17M4Z4M3Z1M3Z2M7Z3M4ZdMcZ1M1ZaM4Z2bfM3Z3b2MdZ13M3Z1dMeZ12MeZ36M1eZ9M3",
  "Za5M2Z22M1Z76M20Zd7M7Z37M2bZ30M55Z2fM11Z26M9ZcM3Z1eMdZ38M16Z28M17Z95M3Z1M15Z4M1Z6M1Z2M3Zc6M4",
  "1Z2cfM34ZbebM4Z8cM1Z60M20Z22aM6Z69M4Z75d2M4Z1MaZ20M2Z50M2Z110M1Z3M1Z4M1Z17M5Z4M4Z50M2Z32M1aZ",
  "12M12ZdM1Z26M8Z19M18Z21M4Z2fMeZ24M1Z43M17Z3M1Z8M4Z2bM3Z32M1Z1M3Z2M2Z5M2Z1M1Z29M5Z5McZe2M8Z1M",
  "4Z4f2eM94Z26eM25Z3b8M83Z60M1Z95MaZ681MfZ28M8Za5M6Z239McZ17bM2Z99MbZ31M4Z7aM3Z35MfZ29M1Z2M2Za",
  "M4Z2dMbZ7MeZ30M3Z24MfZfM2Z2cM1ZcM3Z30MeZ8M4Z1M2Z5cMcZ6M42Z5fM11Z10M5Z36M2Z1M12Z7M6Z5M9eZ35M1",
  "2Z17M1Z51M14ZebM12Z1bM24Z30M11Z6aMdZ65M13ZfcMfZf5MfZ1M1Z1M2Z8dM10Z3M1cZ1MaZ28M7Z1M4Z8M9Z1MbZ",
  "2eM10Z195M11Z52M6eZ31M15Z1M9Z3aMeZ15bM4Z4bf9M5Z3bM7Z418M1Z1M42Z51M1cZ4c9dM2Z1261M50Z215M5Z3M",
  "16Z2M7Z1eM4Z94M3Z7bbM37Z4M32Z8M1ZeM1Z16M465Z100M100Z30M7Z177M12Z2cM4Z5e0M52Z22M7Z"]

/-- The combining marks, as a range table. -/
def marks : RangeTable := RangeTable.decode markText

/-- **Whether a character is a combining mark.** -/
def isMark (c : Char) : Bool := marks.tagAt c.toNat 'Z' = 'M'

end RoutePlanner.Unicode
