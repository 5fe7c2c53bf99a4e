import RoutePlanner.Json.Value
import RoutePlanner.Number.Read
import RoutePlanner.Number.Arith

/-!
# Reading JSON

A strict reader of JSON text, as the services of the library meet it on the wire:

* blanks are space, tab, line feed and carriage return;
* a number has no leading zeros, no lone point and no leading `+`; a whole number becomes a
  count or a negative integer when it fits 64 bits, and a double otherwise (`-0` is the double
  `-0.0`); a number too large for a double is an error. Up to twenty significant digits are
  kept and the rest dropped, and the kept significand is scaled by a rounded power of ten, so
  a long decimal can read as a neighbour of its nearest double;
* a string may not hold a raw control character; escapes are the JSON ones, and a `\u`
  escape of half of a surrogate pair must be followed by the other half;
* no trailing commas, no text after the value, and at most 127 nested arrays and objects;
* of two fields with one key the later value wins, at the place of the first (`parse`), or
  both are kept, in order, for a reader that refuses a repeated field itself
  (`readDocument`).

The reader works on the characters of the text with an explicit budget of steps, which the
entry point sets to more than the text can use.
-/

namespace RoutePlanner.Json

open RoutePlanner.Number

/-- Blanks between JSON tokens. -/
def isBlank (c : Char) : Bool := c = ' ' || c = '\t' || c = '\n' || c = '\r'

/-- The text after leading blanks. -/
def skipBlanks (cs : List Char) : List Char := cs.dropWhile isBlank

/-- The value of a hexadecimal digit. -/
def hexValue (c : Char) : Option Nat :=
  if c.isDigit then some (c.toNat - '0'.toNat)
  else if 'a' ≤ c ∧ c ≤ 'f' then some (c.toNat - 'a'.toNat + 10)
  else if 'A' ≤ c ∧ c ≤ 'F' then some (c.toNat - 'A'.toNat + 10)
  else none

/-- Four hexadecimal digits. -/
def readHex4 : List Char → Option (Nat × List Char)
  | a :: b :: c :: d :: rest => do
    let a ← hexValue a
    let b ← hexValue b
    let c ← hexValue c
    let d ← hexValue d
    pure (((a * 16 + b) * 16 + c) * 16 + d, rest)
  | _ => none

/-- The character of a `\u` escape after its four digits, with the low half of a surrogate
pair when the first half is a high one. -/
def readUnicodeEscape (u : Nat) (rest : List Char) : Except String (Char × List Char) :=
  if 0xDC00 ≤ u ∧ u < 0xE000 then .error "lone trailing surrogate in hex escape"
  else if 0xD800 ≤ u ∧ u < 0xDC00 then
    match rest with
    | '\\' :: 'u' :: r =>
      match readHex4 r with
      | some (l, r) =>
        if 0xDC00 ≤ l ∧ l < 0xE000 then
          .ok (Char.ofNat (0x10000 + (u - 0xD800) * 0x400 + (l - 0xDC00)), r)
        else .error "lone leading surrogate in hex escape"
      | none => .error "invalid escape"
    | _ => .error "unexpected end of hex escape"
  else .ok (Char.ofNat u, rest)

/-- The body of a string after its opening quote; `acc` holds the characters read so far,
last first. -/
def readStringBody (acc : List Char) : Nat → List Char → Except String (String × List Char)
  | 0, _ => .error "EOF while parsing a string"
  | _, [] => .error "EOF while parsing a string"
  | _ + 1, '"' :: rest => .ok (String.ofList acc.reverse, rest)
  | fuel + 1, '\\' :: rest =>
    match rest with
    | '"' :: r => readStringBody ('"' :: acc) fuel r
    | '\\' :: r => readStringBody ('\\' :: acc) fuel r
    | '/' :: r => readStringBody ('/' :: acc) fuel r
    | 'b' :: r => readStringBody (Char.ofNat 8 :: acc) fuel r
    | 'f' :: r => readStringBody (Char.ofNat 12 :: acc) fuel r
    | 'n' :: r => readStringBody ('\n' :: acc) fuel r
    | 'r' :: r => readStringBody ('\r' :: acc) fuel r
    | 't' :: r => readStringBody ('\t' :: acc) fuel r
    | 'u' :: r =>
      match readHex4 r with
      | none => .error "invalid escape"
      | some (u, r) =>
        match readUnicodeEscape u r with
        | .ok (c, r) => readStringBody (c :: acc) fuel r
        | .error e => .error e
    | _ => .error "invalid escape"
  | fuel + 1, c :: rest =>
    if c.toNat < 0x20 then .error "control character while parsing a string"
    else readStringBody (c :: acc) fuel rest

/-- The largest significand a number token accumulates. -/
def maxSignificand : Nat := Nat.pow 2 64 - 1

/-- Takes decimal digits into `acc` while `acc * 10 + d ≤ bound`; returns the new value, how
many digits were taken, and how many were left from the first one that did not fit. -/
def takeDigits (bound acc : Nat) : List Char → Nat × Nat × Nat
  | [] => (acc, 0, 0)
  | c :: cs =>
    let d := c.toNat - '0'.toNat
    if acc * 10 + d ≤ bound then
      let (v, taken, left) := takeDigits bound (acc * 10 + d) cs
      (v, taken + 1, left)
    else (acc, 0, cs.length + 1)

/-- `10 ^ e` as the nearest double. -/
def powerOfTen (e : Nat) : Float := nearestFloat false (Nat.pow 10 e) 1

/-- **Scaling by a power of ten** the way the reader does it: one multiplication or division
by the nearest double of `10 ^ |e|` when `|e| ≤ 308`; below that, repeated division by
`1e308`. A result that overflows is an error, and so is a positive exponent beyond 308 on a
non-zero value. Each step rounds, so the result need not be the double nearest the decimal. -/
def scaleByTen (f : Float) (e : Int) : Except String Float :=
  if e.natAbs ≤ 308 then
    if 0 ≤ e then
      let g := f * powerOfTen e.toNat
      if isFinite g then .ok g else .error "number out of range"
    else .ok (f / powerOfTen e.natAbs)
  else if f == 0.0 then .ok f
  else if 0 ≤ e then .error "number out of range"
  else scaleByTen (f / powerOfTen 308) (e + 308)
termination_by e.natAbs
decreasing_by omega

/-- The double of a significand and a decimal exponent, with its sign. -/
def fromParts (negative : Bool) (sig : Nat) (e : Int) : Except String Float := do
  let f ← scaleByTen (nearestFloat false sig 1) e
  pure (if negative then -f else f)

/-- A whole number token whose digits fit a 64-bit significand: a count, a negative 64-bit
integer, or else a double (`-0` is the double `-0.0`). -/
def wholeNumber (negative : Bool) (n : Nat) : Number :=
  if !negative then .natural n
  else if n = 0 ∨ Nat.pow 2 63 < n then .double (nearestFloat true n 1)
  else .negative (-(n : Int))

/-- The least and largest exponent a number token can carry. -/
def clampExponent (e : Int) : Int := max (-Int.pow 2 31) (min e (Int.pow 2 31 - 1))

/-- The exponent part of a number token after its `e`, applied to `sig · 10 ^ start`. An
exponent too large for 32 bits makes the number zero, or an error when it is positive and the
significand is not zero. -/
def readExponentPart (negative : Bool) (sig : Nat) (start : Int) (cs : List Char) :
    Except String (Number × List Char) := do
  let (eneg, cs) := match cs with
    | '-' :: r => (true, r)
    | '+' :: r => (false, r)
    | _ => (false, cs)
  let (ds, rest) := spanDigits cs
  if ds.isEmpty then throw "invalid number"
  let (e, _, left) := takeDigits (Nat.pow 2 31 - 1) 0 ds
  if left > 0 then
    if sig ≠ 0 && !eneg then throw "number out of range"
    else pure (.double (nearestFloat negative 0 1), rest)
  else
    let f ← fromParts negative sig (clampExponent (if eneg then start - e else start + e))
    pure (.double f, rest)

/-- **A number token.** Digits go into a 64-bit significand while they fit: later digits
before the point raise the exponent, later digits after it are dropped. The double is then
the significand scaled by `scaleByTen`. -/
def readNumber (cs : List Char) : Except String (Number × List Char) := do
  let (negative, cs) := match cs with
    | '-' :: r => (true, r)
    | _ => (false, cs)
  let (whole, rest) ← match cs with
    | '0' :: r =>
      match r with
      | c :: _ => if c.isDigit then .error "invalid number" else .ok (['0'], r)
      | [] => .ok (['0'], r)
    | c :: _ => if c.isDigit then .ok (spanDigits cs) else .error "invalid number"
    | [] => .error "EOF while parsing a value"
  let (sig, _, dropped) := takeDigits maxSignificand 0 whole
  match rest with
  | '.' :: r =>
    let (frac, rest) := spanDigits r
    if frac.isEmpty then throw "invalid number"
    let (sig, taken, _) := takeDigits maxSignificand sig frac
    let e : Int := (dropped : Int) - taken
    match rest with
    | c :: r =>
      if c = 'e' ∨ c = 'E' then readExponentPart negative sig e r
      else pure (.double (← fromParts negative sig e), rest)
    | [] => pure (.double (← fromParts negative sig e), rest)
  | c :: r =>
    if c = 'e' ∨ c = 'E' then readExponentPart negative sig dropped r
    else if dropped > 0 then pure (.double (← fromParts negative sig dropped), rest)
    else pure (wholeNumber negative sig, rest)
  | [] =>
    if dropped > 0 then pure (.double (← fromParts negative sig dropped), rest)
    else pure (wholeNumber negative sig, rest)

/-- Puts a field into an object's list: a repeated key keeps its place and takes the new
value. -/
def putField (fields : List (String × Value)) (k : String) (v : Value) :
    List (String × Value) :=
  if fields.any (fun p => p.1 == k) then fields.map fun p => if p.1 == k then (k, v) else p
  else fields ++ [(k, v)]

mutual

/-- A value, after optional blanks. `depth` is how many more arrays or objects may open;
`merge` says whether a repeated key replaces the earlier field or is kept beside it. -/
def readValue (merge : Bool) (depth : Nat) : Nat → List Char → Except String (Value × List Char)
  | 0, _ => .error "recursion limit exceeded"
  | fuel + 1, cs =>
    match skipBlanks cs with
    | [] => .error "EOF while parsing a value"
    | 'n' :: 'u' :: 'l' :: 'l' :: r => .ok (.null, r)
    | 't' :: 'r' :: 'u' :: 'e' :: r => .ok (.bool true, r)
    | 'f' :: 'a' :: 'l' :: 's' :: 'e' :: r => .ok (.bool false, r)
    | '"' :: r =>
      match readStringBody [] (r.length + 1) r with
      | .ok (s, r) => .ok (.string s, r)
      | .error e => .error e
    | '[' :: r =>
      if depth ≤ 1 then .error "recursion limit exceeded"
      else
        match skipBlanks r with
        | ']' :: r => .ok (.array [], r)
        | _ => readItems merge (depth - 1) fuel [] r
    | '{' :: r =>
      if depth ≤ 1 then .error "recursion limit exceeded"
      else
        match skipBlanks r with
        | '}' :: r => .ok (.object [], r)
        | _ => readFields merge (depth - 1) fuel [] r
    | c :: r =>
      if c = '-' ∨ c.isDigit then
        match readNumber (c :: r) with
        | .ok (n, r) => .ok (.number n, r)
        | .error e => .error e
      else .error "expected value"

/-- The items of an array from the first one on; `acc` holds the items read, last first. -/
def readItems (merge : Bool) (depth : Nat) :
    Nat → List Value → List Char → Except String (Value × List Char)
  | 0, _, _ => .error "recursion limit exceeded"
  | fuel + 1, acc, cs =>
    match readValue merge depth fuel cs with
    | .error e => .error e
    | .ok (v, r) =>
      match skipBlanks r with
      | ',' :: r => readItems merge depth fuel (v :: acc) r
      | ']' :: r => .ok (.array (v :: acc).reverse, r)
      | [] => .error "EOF while parsing a list"
      | _ => .error "expected a comma or a closing bracket"

/-- The fields of an object from the first one on. -/
def readFields (merge : Bool) (depth : Nat) : Nat → List (String × Value) → List Char →
    Except String (Value × List Char)
  | 0, _, _ => .error "recursion limit exceeded"
  | fuel + 1, acc, cs =>
    match skipBlanks cs with
    | '"' :: r =>
      match readStringBody [] (r.length + 1) r with
      | .error e => .error e
      | .ok (k, r) =>
        match skipBlanks r with
        | ':' :: r =>
          match readValue merge depth fuel r with
          | .error e => .error e
          | .ok (v, r) =>
            let acc := if merge then putField acc k v else acc ++ [(k, v)]
            match skipBlanks r with
            | ',' :: r => readFields merge depth fuel acc r
            | '}' :: r => .ok (.object acc, r)
            | [] => .error "EOF while parsing an object"
            | _ => .error "expected a comma or a closing brace"
        | [] => .error "EOF while parsing an object"
        | _ => .error "expected a colon"
    | [] => .error "EOF while parsing an object"
    | _ => .error "key must be a string"

end

/-- **Reads JSON text**: one value, with only blanks around it. -/
def parse (text : String) : Except String Value :=
  let cs := text.toList
  match readValue true 128 (2 * cs.length + 2) cs with
  | .error e => .error e
  | .ok (v, rest) => if (skipBlanks rest).isEmpty then .ok v else .error "trailing characters"

/-- **The first value of a document**, with every field as written (repeated keys kept), and
the text after it. A reader that takes a typed record straight from text reads this value
first and looks at the rest only once the record is read. -/
def readDocument (text : String) : Except String (Value × List Char) :=
  let cs := text.toList
  readValue false 128 (2 * cs.length + 2) cs

end RoutePlanner.Json
