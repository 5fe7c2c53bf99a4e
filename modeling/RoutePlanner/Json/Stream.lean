import RoutePlanner.Json.Parse

/-!
# Reading typed values straight from text

A reader that builds a typed value straight from JSON text, without first reading the whole
value, stops at the first fault in the order of the text. A fault is of one of two kinds: the
text is not JSON (`Fault.malformed`: a bad token, a missing comma, an early end), or it is JSON
of the wrong shape so far (`Fault.misshapen`: a value of the wrong type, a name that is no
choice, a repeated or a missing field). Which kind comes first decides how a body is refused.

A `Schema` says what such a reader expects at a point of the text:

* `anything`: a value of any shape, read whole (a field the record ignores or keeps for later);
* `number`, `text accepts`, `choice names`: a number; a string whose text `accepts` takes; one
  of `names`, as a string or as an object of one field named for it that holds `null`;
* `optional inner`: `null`, or what `inner` expects;
* `list item`: an array of items;
* `record fields asArray`: an object, and an array of the fields in order when `asArray`; each
  field is given with its schema and whether it has a default.

`readShaped` keeps these rules of the reader:

* A value of the wrong type is misshapen once its first character shows an array or an
  object; a scalar of the wrong type is read to its end first, so a broken one is malformed. A
  choice must start as a string or an object; anything else there is malformed.
* In an object, a repeated field is misshapen as soon as its name is read, and a missing one
  once the closing brace is seen; a field may be missing when it has a default or is optional.
  Fields the record does not know are read whole and skipped.
* A record written as an array may leave out only fields with a default, at its end, and more
  items than fields are malformed.
* Opening an array or an object takes one level of nesting from `depth`, as in `readValue`.
-/

namespace RoutePlanner.Json

/-- The kind of fault that ends the reading of a typed value from text. -/
inductive Fault where
  /-- the text is not JSON, or ends too early -/
  | malformed
  /-- the text is JSON so far, but not of the expected shape -/
  | misshapen
  deriving DecidableEq, Repr

/-- What a reader that reads straight from text expects at a point of it. -/
inductive Schema where
  /-- any value, read whole -/
  | anything
  /-- a number -/
  | number
  /-- a string whose text `accepts` takes -/
  | text (accepts : String → Bool)
  /-- one of `names` -/
  | choice (names : List String)
  /-- `null`, or what `inner` expects -/
  | optional (inner : Schema)
  /-- an array of items -/
  | list (item : Schema)
  /-- a record: its fields with their schemas and whether each has a default, and whether it
  may be written as an array -/
  | record (fields : List (String × Schema × Bool)) (asArray : Bool)

/-- Whether a schema takes `null` for a missing value. -/
def Schema.isOptional : Schema → Bool
  | .optional _ => true
  | _ => false

/-- The text after a scalar at the front of `cs`, or the fault of a broken one. -/
def readScalar (cs : List Char) : Except Fault (List Char) :=
  match readValue false 1 1 cs with
  | .ok (_, r) => .ok r
  | .error _ => .error .malformed

/-- **The fault of a value of the wrong type** at the front of `cs`: misshapen when an array
or an object starts there, or a scalar that is read to its end; malformed otherwise. -/
def wrongType (cs : List Char) : Fault :=
  match cs with
  | [] => .malformed
  | c :: _ =>
    if c = '[' ∨ c = '{' then .misshapen
    else if c = 'n' ∨ c = 't' ∨ c = 'f' ∨ c = '"' ∨ c = '-' ∨ c.isDigit then
      match readScalar cs with
      | .ok _ => .misshapen
      | .error f => f
    else .malformed

/-- Where the next item of an array starts: `none` when the array closes there (the bracket
is left in place). `first` says whether no item has been read yet. -/
def nextItem (first : Bool) (cs : List Char) : Except Fault (Option (List Char)) :=
  match skipBlanks cs with
  | ']' :: _ => .ok none
  | ',' :: r =>
    if first then .error .malformed
    else
      match skipBlanks r with
      | ']' :: _ => .error .malformed
      | [] => .error .malformed
      | r => .ok (some r)
  | [] => .error .malformed
  | r => if first then .ok (some r) else .error .malformed

/-- The text after the closing bracket of an array whose items have all been read. -/
def closeItems (cs : List Char) : Except Fault (List Char) :=
  match skipBlanks cs with
  | ']' :: r => .ok r
  | _ => .error .malformed

/-- Where the next key of an object starts, after its opening quote: `none` when the object
closes there (the brace is left in place). -/
def nextKey (first : Bool) (cs : List Char) : Except Fault (Option (List Char)) :=
  match skipBlanks cs with
  | '}' :: _ => .ok none
  | ',' :: r =>
    if first then .error .malformed
    else
      match skipBlanks r with
      | '"' :: r => .ok (some r)
      | _ => .error .malformed
  | '"' :: r => if first then .ok (some r) else .error .malformed
  | _ => .error .malformed

/-- The text after the colon that follows a key. -/
def afterColon (cs : List Char) : Except Fault (List Char) :=
  match skipBlanks cs with
  | ':' :: r => .ok r
  | _ => .error .malformed

/-- The text after the closing brace of an object whose fields have all been read. -/
def closeFields (cs : List Char) : Except Fault (List Char) :=
  match skipBlanks cs with
  | '}' :: r => .ok r
  | _ => .error .malformed

/-- A choice written as an object, after its opening brace: the name of a choice as the one
key, `null` as its value, then the closing brace. -/
def readTagged (names : List String) (cs : List Char) : Except Fault (List Char) :=
  match skipBlanks cs with
  | '"' :: r =>
    match readStringBody [] (r.length + 1) r with
    | .error _ => .error .malformed
    | .ok (name, r) =>
      if !names.contains name then .error .misshapen
      else do
        let r ← afterColon r
        match skipBlanks r with
        | 'n' :: rest =>
          let r ← readScalar ('n' :: rest)
          match skipBlanks r with
          | '}' :: r => .ok r
          | _ => .error .malformed
        | r => .error (wrongType r)
  | r => .error (wrongType r)

mutual

/-- **A value of a schema** at the front of `cs`, after optional blanks: the text after it, or
the first fault. `depth` is how many more arrays or objects may open. -/
def readShaped (depth : Nat) : Nat → Schema → List Char → Except Fault (List Char)
  | 0, _, _ => .error .malformed
  | fuel + 1, schema, cs =>
    let cs := skipBlanks cs
    match schema with
    | .anything =>
      match readValue false depth (fuel + 1) cs with
      | .ok (_, r) => .ok r
      | .error _ => .error .malformed
    | .number =>
      match cs with
      | c :: _ => if c = '-' ∨ c.isDigit then readScalar cs else .error (wrongType cs)
      | [] => .error .malformed
    | .text accepts =>
      match cs with
      | '"' :: r =>
        match readStringBody [] (r.length + 1) r with
        | .ok (s, r) => if accepts s then .ok r else .error .misshapen
        | .error _ => .error .malformed
      | _ => .error (wrongType cs)
    | .choice names =>
      match cs with
      | '"' :: r =>
        match readStringBody [] (r.length + 1) r with
        | .ok (s, r) => if names.contains s then .ok r else .error .misshapen
        | .error _ => .error .malformed
      | '{' :: r => if depth ≤ 1 then .error .malformed else readTagged names r
      | _ => .error .malformed
    | .optional inner =>
      match cs with
      | 'n' :: _ => readScalar cs
      | _ => readShaped depth fuel inner cs
    | .list item =>
      match cs with
      | '[' :: r => if depth ≤ 1 then .error .malformed else readShapedItems (depth - 1) fuel item true r
      | _ => .error (wrongType cs)
    | .record fields asArray =>
      match cs with
      | '{' :: r =>
        if depth ≤ 1 then .error .malformed else readShapedFields (depth - 1) fuel fields [] true r
      | '[' :: r =>
        if !asArray then .error .misshapen
        else if depth ≤ 1 then .error .malformed
        else readFieldItems (depth - 1) fuel fields true r
      | _ => .error (wrongType cs)

/-- The items of an array from the next one on, each of schema `item`. -/
def readShapedItems (depth : Nat) : Nat → Schema → Bool → List Char → Except Fault (List Char)
  | 0, _, _, _ => .error .malformed
  | fuel + 1, item, first, cs =>
    match nextItem first cs with
    | .error f => .error f
    | .ok none => closeItems cs
    | .ok (some r) =>
      match readShaped depth fuel item r with
      | .error f => .error f
      | .ok r => readShapedItems depth fuel item false r

/-- The fields of a record written as an array, from the next one on. -/
def readFieldItems (depth : Nat) :
    Nat → List (String × Schema × Bool) → Bool → List Char → Except Fault (List Char)
  | 0, _, _, _ => .error .malformed
  | _ + 1, [], _, cs => closeItems cs
  | fuel + 1, (_, schema, hasDefault) :: more, first, cs =>
    match nextItem first cs with
    | .error f => .error f
    | .ok none =>
      if hasDefault && more.all (·.2.2) then closeItems cs else .error .misshapen
    | .ok (some r) =>
      match readShaped depth fuel schema r with
      | .error f => .error f
      | .ok r => readFieldItems depth fuel more false r

/-- The fields of a record written as an object, from the next one on; `seen` are the names
of the known fields read so far. -/
def readShapedFields (depth : Nat) : Nat → List (String × Schema × Bool) → List String → Bool →
    List Char → Except Fault (List Char)
  | 0, _, _, _, _ => .error .malformed
  | fuel + 1, fields, seen, first, cs =>
    match nextKey first cs with
    | .error f => .error f
    | .ok none =>
      if fields.all fun (k, schema, hasDefault) => hasDefault || schema.isOptional || seen.contains k
      then closeFields cs
      else .error .misshapen
    | .ok (some r) =>
      match readStringBody [] (r.length + 1) r with
      | .error _ => .error .malformed
      | .ok (k, r) =>
        let known := fields.find? (·.1 == k)
        if known.isSome && seen.contains k then .error .misshapen
        else
          match afterColon r with
          | .error f => .error f
          | .ok r =>
            match readShaped depth fuel ((known.map (·.2.1)).getD .anything) r with
            | .error f => .error f
            | .ok r =>
              readShapedFields depth fuel fields (if known.isSome then k :: seen else seen) false r

end

/-- **The first fault of reading a value of `schema` from a text**, or the text after the value.
Nesting is limited as in `readDocument`. -/
def readShapedText (schema : Schema) (text : String) : Except Fault (List Char) :=
  let cs := text.toList
  readShaped 128 (4 * cs.length + 4) schema cs

end RoutePlanner.Json
