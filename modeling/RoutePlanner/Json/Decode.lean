import RoutePlanner.Json.Value
import RoutePlanner.Json.Parse

/-!
# Reading typed values out of JSON

The rules by which a JSON value becomes a typed record of the library:

* a floating field takes any number, whole numbers going to the nearest double;
* a count field (`Nat` with a width) takes only a whole number in its range, never `1.0`;
* an optional field reads `null` and a missing field as absent;
* a field with a default reads a missing field as the default;
* a record takes an object, ignores fields it does not know, and reports the first field
  that does not fit;
* a record also takes an array of its field values in the order the record declares them
  (`Value.asRecord`); the array may stop early only where every field left out has a
  default, and may not hold more values than the record has fields;
* a record refuses an object that gives one of its fields twice (text read with
  `readDocument` keeps such repeats; other readers have merged them already);
* a choice among names takes the name as a string, or an object of one field named for it
  that holds `null` (`Value.toChoice`).

Every reader returns `Decoded α`, whose error says what did not fit. A typed value read
straight from text (`decodeDocument`) is read from the document's first value with its fields
as written, so a repeated field reaches the record's reader, and text after the value is
refused only once the value is read.
-/

namespace RoutePlanner.Json

/-- The outcome of reading a typed value out of JSON. -/
abbrev Decoded (α : Type) := Except String α

namespace Value

/-- A floating field. -/
def toFloat : Value → Decoded Float
  | .number n => .ok n.toFloat
  | _ => .error "expected a number"

/-- A whole number below `2 ^ bits`. -/
def toCount (bits : Nat) : Value → Decoded Nat
  | .number (.natural n) => if n < Nat.pow 2 bits then .ok n else .error "number out of range"
  | _ => .error "expected a whole number"

/-- A signed whole number of 64 bits. -/
def toInt64 : Value → Decoded Int
  | .number (.natural n) => if n < Nat.pow 2 63 then .ok n else .error "number out of range"
  | .number (.negative i) => .ok i
  | _ => .error "expected a whole number"

/-- A text field. -/
def toStr : Value → Decoded String
  | .string s => .ok s
  | _ => .error "expected a string"

/-- A truth value. -/
def toBool : Value → Decoded Bool
  | .bool b => .ok b
  | _ => .error "expected a boolean"

/-- A list, each item read by `f`. -/
def toList {α : Type} (f : Value → Decoded α) : Value → Decoded (List α)
  | .array items => items.mapM f
  | _ => .error "expected an array"

/-- An optional value: `null` is absent. -/
def toOption {α : Type} (f : Value → Decoded α) : Value → Decoded (Option α)
  | .null => .ok none
  | v => some <$> f v

/-- The choice named `s` among `names`. -/
def pickChoice {α : Type} (names : List (String × α)) (s : String) : Decoded α :=
  match names.find? (fun p => p.1 == s) with
  | some (_, a) => .ok a
  | none => .error ("unknown variant " ++ s)

/-- One of a fixed set of names: the name as a string, or an object whose one field is named
for it and holds `null`. -/
def toChoice {α : Type} (names : List (String × α)) : Value → Decoded α
  | .string s => pickChoice names s
  | .object [(s, .null)] => pickChoice names s
  | _ => .error "expected a string"

/-- Succeeds on an object, the shape of every record. -/
def expectObject : Value → Decoded Unit
  | .object _ => .ok ()
  | _ => .error "expected an object"

/-- Whether an object gives one of `keys` more than once. -/
def repeatsKey (keys : List String) : Value → Bool
  | .object fs => keys.any fun k => 1 < fs.countP (·.1 == k)
  | _ => false

/-- A record written only as an object, with the keys it reads itself. -/
def asObjectRecord (keys : List String) (v : Value) : Decoded Value :=
  match v with
  | .object _ => if v.repeatsKey keys then .error "duplicate field" else .ok v
  | _ => .error "expected an object"

/-- **A record's fields.** An object as it is; an array as the object that pairs the keys of
`fields`, in order, with its items. Each field is given with whether it has a default, which
alone lets an array leave it out. -/
def asRecord (fields : List (String × Bool)) : Value → Decoded Value
  | v@(.object _) => asObjectRecord (fields.map (·.1)) v
  | .array items =>
    if fields.length < items.length then .error "too many values for the record"
    else if (fields.drop items.length).all (·.2) then
      .ok (.object ((fields.map (·.1)).zip items))
    else .error "too few values for the record"
  | _ => .error "expected an object"

/-- A field that must be present. -/
def required {α : Type} (v : Value) (key : String) (f : Value → Decoded α) : Decoded α :=
  match v.field? key with
  | some x => f x
  | none => .error ("missing field " ++ key)

/-- A field that may be missing or `null`. -/
def optional {α : Type} (v : Value) (key : String) (f : Value → Decoded α) :
    Decoded (Option α) :=
  match v.field? key with
  | none => .ok none
  | some x => x.toOption f

/-- A field that reads as `d` when missing. -/
def withDefault {α : Type} (v : Value) (key : String) (d : α) (f : Value → Decoded α) :
    Decoded α :=
  match v.field? key with
  | none => .ok d
  | some x => f x

end Value

/-- **A typed value read straight from text**: the document's first value with every field as
written (`readDocument`), read by `decode`, and then nothing but blanks. -/
def decodeDocument {α : Type} (decode : Value → Decoded α) (text : String) : Decoded α := do
  let (v, rest) ← readDocument text
  let a ← decode v
  if (skipBlanks rest).isEmpty then pure a else throw "trailing characters"

end RoutePlanner.Json
