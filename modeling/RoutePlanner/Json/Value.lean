import RoutePlanner.Number.Binary

/-!
# JSON values

The value type that every wire format of the library goes through: request and response
bodies, the optimiser's contract, the map services' answers and the HTTP surface.

A number keeps the distinction a JSON reader makes between whole numbers that fit a 64-bit
count, negative whole numbers that fit a signed 64-bit integer, and everything else, which is a
double. Fields whose type is a count accept only the first kind, and whole numbers print without
a point while doubles always show one.

Objects are lists of fields in the order they are written; the reader keeps one field per key.
-/

namespace RoutePlanner.Json

open RoutePlanner.Number

/-- A JSON number as a reader keeps it. -/
inductive Number where
  /-- a whole number in `0 … 2 ^ 64 - 1` -/
  | natural (n : Nat)
  /-- a whole number in `-2 ^ 63 … -1` -/
  | negative (i : Int)
  /-- any other number, as the nearest double -/
  | double (x : Float)

/-- The number as a floating field reads it: whole numbers go to the nearest double. -/
def Number.toFloat : Number → Float
  | .natural n => nearestFloat false n 1
  | .negative i => nearestFloat true i.natAbs 1
  | .double x => x

/-- A JSON value. -/
inductive Value where
  | null
  | bool (b : Bool)
  | number (n : Number)
  | string (s : String)
  | array (items : List Value)
  | object (fields : List (String × Value))

namespace Value

/-- A whole number as a JSON count. -/
def ofNat (n : Nat) : Value := .number (.natural n)

/-- A whole number as a JSON integer. -/
def ofInt (i : Int) : Value := if 0 ≤ i then .number (.natural i.toNat) else .number (.negative i)

/-- A double as a JSON number. -/
def ofFloat (x : Float) : Value := .number (.double x)

/-- An optional value, `null` when absent. -/
def ofOption {α : Type} (f : α → Value) : Option α → Value
  | some a => f a
  | none => .null

/-- The value of a field of an object; `none` for a missing field or a non-object. -/
def field? (v : Value) (key : String) : Option Value :=
  match v with
  | .object fields => (fields.find? (fun p => p.1 == key)).map Prod.snd
  | _ => none

/-- Whether the value is `null`. -/
def isNull : Value → Bool
  | .null => true
  | _ => false

mutual

/-- How deeply arrays and objects nest in a value; a scalar has depth zero. -/
def depth : Value → Nat
  | .array items => depthItems items + 1
  | .object fields => depthFields fields + 1
  | _ => 0

/-- The greatest depth of a list of values. -/
def depthItems : List Value → Nat
  | [] => 0
  | v :: vs => max (depth v) (depthItems vs)

/-- The greatest depth of the values of a list of fields. -/
def depthFields : List (String × Value) → Nat
  | [] => 0
  | (_, v) :: fs => max (depth v) (depthFields fs)

end

end Value

/-- An object from fields, leaving out those whose value is absent. -/
def objectOf (fields : List (String × Option Value)) : Value :=
  .object (fields.filterMap fun (k, v) => v.map (k, ·))

end RoutePlanner.Json
