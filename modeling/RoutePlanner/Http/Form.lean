import RoutePlanner.Net.Host
import RoutePlanner.Text.Utf8
import RoutePlanner.Time.Read

/-!
# Query strings

A query string is read as form data: it is cut at `&` into parts, empty parts are skipped, and
each part splits at its first `=` into a name and a value (an empty value when there is no
`=`). In names and values `+` stands for a space and `%XX` for a byte; the bytes are read as
UTF-8 with replacement.

Typed fields follow the reading of records: a field named twice is an error even when both
values agree, unknown names are ignored, whole numbers are signed 64-bit decimals with an
optional sign, and instants are timestamps with an offset.
-/

namespace RoutePlanner.Http

/-- A form text decoded: `+` as a space, then `%XX` escapes, then UTF-8 with replacement. -/
def decodeFormText (s : String) : String :=
  let bytes := s.toUTF8.toList.map fun b => if b = 0x2B then 0x20 else b
  String.ofList (Text.decodeLossy (Net.percentDecodeBytes bytes))

/-- **The pairs of a query string**, in order. -/
def formPairs (query : String) : List (String × String) :=
  (query.splitOn "&").filterMap fun part =>
    if part.isEmpty then none
    else
      let name := part.toList.takeWhile (· ≠ '=')
      let value := part.toList.drop (name.length + 1)
      some (decodeFormText (String.ofList name), decodeFormText (String.ofList value))

/-- A field of a query given at most once. -/
def formField (pairs : List (String × String)) (name : String) : Except String (Option String) :=
  match pairs.filter (·.1 == name) with
  | [] => .ok none
  | [(_, v)] => .ok (some v)
  | _ => .error ("duplicate field " ++ name)

/-- A field of a query that must be given once. -/
def requiredField (pairs : List (String × String)) (name : String) : Except String String := do
  match ← formField pairs name with
  | some v => pure v
  | none => throw ("missing field " ++ name)

/-- A signed 64-bit decimal: an optional `+` or `-`, then at least one digit. -/
def parseInt64 (s : String) : Option Int :=
  let (negative, digits) := match s.toList with
    | '-' :: ds => (true, ds)
    | '+' :: ds => (false, ds)
    | ds => (false, ds)
  if digits.isEmpty || !digits.all Char.isDigit then none
  else
    let n : Int := digits.foldl (fun acc c => acc * 10 + (c.toNat - '0'.toNat)) 0
    let v := if negative then -n else n
    if -(Int.pow 2 63) ≤ v ∧ v < Int.pow 2 63 then some v else none

/-- An optional whole-number field. -/
def intField (pairs : List (String × String)) (name : String) : Except String (Option Int) := do
  match ← formField pairs name with
  | some v => match parseInt64 v with
    | some i => pure (some i)
    | none => throw ("invalid number for " ++ name)
  | none => pure none

/-- An optional instant field. -/
def instantField (pairs : List (String × String)) (name : String) :
    Except String (Option Instant) := do
  match ← formField pairs name with
  | some v => match Instant.parse? v with
    | some t => pure (some t)
    | none => throw ("invalid instant for " ++ name)
  | none => pure none

end RoutePlanner.Http
