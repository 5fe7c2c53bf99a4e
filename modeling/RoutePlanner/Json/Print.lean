import RoutePlanner.Json.Value
import RoutePlanner.Number.Text
import RoutePlanner.Number.Arith

/-!
# Writing JSON

Compact JSON text: no blanks, fields in their stored order (`Value.render`) or in ascending
order of key (`Value.canonical`). Strings escape the quote, the
backslash and the control characters (`\b \f \n \r \t` by name, the rest as `\u00xx`), and
nothing else; other characters are written as they are. Whole numbers are written as integers;
doubles in their shortest form with a point or an exponent (`Json.numberLayout`), and a
double that is NaN or infinite is written `null`.
-/

namespace RoutePlanner.Json

open RoutePlanner.Number

/-- Doubles in JSON text: the shortest digits, positional from `1e-5` up to below `1e16`
(`0.00001`, `12876.0`, `1000000000000000.0`), otherwise `1e-6`, `1.5e+16`, `7.2e+306`; a
whole number keeps `.0`; a tie between two shortest candidates goes to the even one. -/
def numberLayout : Layout where
  alwaysPlain := false
  plainAbove := -5
  plainUpTo := 16
  pointZero := true
  exponentPlus := true
  tie := .toEven
  nan := "null"
  infinity := "null"

/-- Lower-case hexadecimal digit. -/
def hexDigit (n : Nat) : Char :=
  if n < 10 then Char.ofNat ('0'.toNat + n) else Char.ofNat ('a'.toNat + n - 10)

/-- One character of a string body, escaped. -/
def escapeChar (c : Char) : List Char :=
  if c = '"' then ['\\', '"']
  else if c = '\\' then ['\\', '\\']
  else if c = '\n' then ['\\', 'n']
  else if c = '\r' then ['\\', 'r']
  else if c = '\t' then ['\\', 't']
  else if c.toNat = 8 then ['\\', 'b']
  else if c.toNat = 12 then ['\\', 'f']
  else if c.toNat < 0x20 then
    ['\\', 'u', '0', '0', hexDigit (c.toNat / 16), hexDigit (c.toNat % 16)]
  else [c]

/-- A string as a quoted JSON string. -/
def quote (s : String) : String :=
  String.ofList ('"' :: (s.toList.flatMap escapeChar ++ ['"']))

/-- A number as JSON text. -/
def Number.render : Number → String
  | .natural n => Nat.repr n
  | .negative i => toString i
  | .double x => if isFinite x then numberLayout.render x else "null"

mutual

/-- **Compact JSON text** of a value. -/
def Value.render : Value → String
  | .null => "null"
  | .bool b => if b then "true" else "false"
  | .number n => n.render
  | .string s => quote s
  | .array items => "[" ++ ",".intercalate (renderItems items) ++ "]"
  | .object fields => "\x7b" ++ ",".intercalate (renderFields fields) ++ "\x7d"

/-- The texts of the items of an array. -/
def renderItems : List Value → List String
  | [] => []
  | v :: rest => v.render :: renderItems rest

/-- The texts `"key":value` of the fields of an object. -/
def renderFields : List (String × Value) → List String
  | [] => []
  | (k, v) :: rest => (quote k ++ ":" ++ v.render) :: renderFields rest

end

mutual

/-- **Canonical JSON text**: compact, with the fields of every object in ascending order of
key, so that equal values in any field order give equal texts. -/
def Value.canonical : Value → String
  | .array items => "[" ++ ",".intercalate (canonicalItems items) ++ "]"
  | .object fields =>
    "\x7b" ++ ",".intercalate (((canonicalFields fields).mergeSort fun a b => a.1 ≤ b.1).map
      (·.2)) ++ "\x7d"
  | v => v.render

/-- The canonical texts of the items of an array. -/
def canonicalItems : List Value → List String
  | [] => []
  | v :: rest => v.canonical :: canonicalItems rest

/-- The keys of the fields of an object, each with its canonical text `"key":value`. -/
def canonicalFields : List (String × Value) → List (String × String)
  | [] => []
  | (k, v) :: rest => (k, quote k ++ ":" ++ v.canonical) :: canonicalFields rest

end

end RoutePlanner.Json
