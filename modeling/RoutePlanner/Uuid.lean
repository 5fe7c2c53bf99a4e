import RoutePlanner.Json.Decode

/-!
# Universally unique identifiers

A UUID is 128 bits. It is read from text in four forms: 32 hexadecimal digits; the hyphenated
form `8-4-4-4-12`; the hyphenated form in braces; and the hyphenated form after `urn:uuid:`.
Digits may be of either case. It is always written hyphenated in lower case.

Fresh identifiers (`Uuid.ofSeed`) are version-4 identifiers whose random bits are drawn from
a seed by a fixed mixing function, so that a run of the library is a function of its inputs.
-/

namespace RoutePlanner

open RoutePlanner.Json

/-- A 128-bit identifier. -/
structure Uuid where
  bits : Nat
  deriving DecidableEq, Repr

namespace Uuid

/-- The value of a hexadecimal digit of either case. -/
def hexDigitValue (c : Char) : Option Nat :=
  if c.isDigit then some (c.toNat - '0'.toNat)
  else if 'a' ≤ c ∧ c ≤ 'f' then some (c.toNat - 'a'.toNat + 10)
  else if 'A' ≤ c ∧ c ≤ 'F' then some (c.toNat - 'A'.toNat + 10)
  else none

/-- The number written by a list of hexadecimal digits. -/
def hexValue (cs : List Char) : Option Nat :=
  cs.foldlM (fun acc c => (acc * 16 + ·) <$> hexDigitValue c) 0

/-- The digits of the hyphenated form, when the hyphens stand where they must. -/
def hyphenatedDigits (cs : List Char) : Option (List Char) :=
  if cs.length = 36 ∧ cs[8]? = some '-' ∧ cs[13]? = some '-' ∧ cs[18]? = some '-' ∧
      cs[23]? = some '-' then
    some (cs.take 8 ++ (cs.drop 9).take 4 ++ (cs.drop 14).take 4 ++ (cs.drop 19).take 4 ++
      cs.drop 24)
  else none

/-- **Reads a UUID** in any of its four text forms. -/
def parse? (s : String) : Option Uuid :=
  let cs := s.toList
  let digits : Option (List Char) :=
    if s.utf8ByteSize = 32 then some cs
    else if s.utf8ByteSize = 36 then hyphenatedDigits cs
    else if s.utf8ByteSize = 38 ∧ cs.head? = some '{' ∧ cs.getLast? = some '}' then
      hyphenatedDigits ((cs.drop 1).dropLast)
    else if s.utf8ByteSize = 45 ∧ cs.take 9 = "urn:uuid:".toList then hyphenatedDigits (cs.drop 9)
    else none
  match digits with
  | some ds => if ds.length = 32 then (hexValue ds).map Uuid.mk else none
  | none => none

/-- `n` as `width` lower-case hexadecimal digits. -/
def hexDigits (width n : Nat) : String :=
  String.ofList ((List.range width).reverse.map fun i =>
    "0123456789abcdef".toList.getD ((n / Nat.pow 16 i) % 16) '0')

/-- **The hyphenated lower-case text** of a UUID. -/
def toText (u : Uuid) : String :=
  let h := hexDigits 32 u.bits
  let cs := h.toList
  String.ofList (cs.take 8) ++ "-" ++ String.ofList ((cs.drop 8).take 4) ++ "-" ++
    String.ofList ((cs.drop 12).take 4) ++ "-" ++ String.ofList ((cs.drop 16).take 4) ++ "-" ++
    String.ofList (cs.drop 20)

/-- A UUID as JSON text. -/
def toJson (u : Uuid) : Value := .string u.toText

/-- A UUID from JSON text. -/
def ofJson : Value → Decoded Uuid
  | .string s =>
    match parse? s with
    | some u => .ok u
    | none => .error "invalid UUID"
  | _ => .error "expected a string"

/-- One step of a 64-bit mixing function. -/
def mix64 (x : Nat) : Nat :=
  let m := Nat.pow 2 64
  let z := (x + 0x9E3779B97F4A7C15) % m
  let z := ((z ^^^ (z >>> 30)) * 0xBF58476D1CE4E5B9) % m
  let z := ((z ^^^ (z >>> 27)) * 0x94D049BB133111EB) % m
  z ^^^ (z >>> 31)

/-- **A version-4 identifier** of 128 random bits: the version and variant bits are set, the
other 122 bits are those of `random`. -/
def version4 (random : Nat) : Uuid :=
  let hi := (random / Nat.pow 2 64) % Nat.pow 2 64
  let lo := random % Nat.pow 2 64
  -- version 4 in bits 76..79, variant 10 in bits 62..63
  let hi := (hi &&& 0xFFFFFFFFFFFF0FFF) ||| 0x4000
  let lo := (lo &&& 0x3FFFFFFFFFFFFFFF) ||| 0x8000000000000000
  ⟨hi * Nat.pow 2 64 + lo⟩

/-- **A fresh version-4 identifier** drawn from a seed. -/
def ofSeed (seed : Nat) : Uuid :=
  version4 (mix64 (2 * seed) * Nat.pow 2 64 + mix64 (2 * seed + 1))

end Uuid

end RoutePlanner
