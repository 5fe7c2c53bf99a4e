import RoutePlanner.Number.Text
import RoutePlanner.Number.Arith
import RoutePlanner.Json.Value

/-!
# Validation issues

Every value that crosses a boundary of the library (a request, an answer of a remote
service, an assembled result) is checked by a function that lists what is wrong with it.
An `Issue` names the place by a path of dotted field names and `[i]` indices, and says what
is wrong there. A checker returns the issues of a value in the order it walks it; the value
is accepted exactly when the list is empty.

The elementary checks are here: `check`, `checkRange`, `checkNonNegative`,
`checkNonEmpty`; the path builders `Path.field` and `Path.index`; and the text of a failed
validation, `Issue.summary`.
-/

namespace RoutePlanner

open RoutePlanner.Number RoutePlanner.Json

/-- **Issue.** What is wrong, and where. -/
structure Issue where
  path : String
  message : String
  deriving DecidableEq, Repr

namespace Issue

/-- `path: message`, or the message alone at the root. -/
def render (i : Issue) : String :=
  if i.path.isEmpty then i.message else i.path ++ ": " ++ i.message

/-- The text of a failed validation: every issue, in order. -/
def summary (issues : List Issue) : String :=
  "validation failed: " ++ "; ".intercalate (issues.map render)

/-- An issue as JSON. -/
def toJson (i : Issue) : Value :=
  .object [("path", .string i.path), ("message", .string i.message)]

end Issue

/-- The path of a field below `path`. -/
def Path.field (path name : String) : String :=
  if path.isEmpty then name else path ++ "." ++ name

/-- The path of the `i`-th item below `path`. -/
def Path.index (path : String) (i : Nat) : String :=
  path ++ "[" ++ toString i ++ "]"

/-- One issue at `path` unless `ok`. -/
def check (ok : Bool) (path message : String) : List Issue :=
  if ok then [] else [⟨path, message⟩]

/-- A finite number within `[lo, hi]`. -/
def checkRange (value lo hi : Float) (path : String) : List Issue :=
  if !isFinite value then [⟨path, "must be a finite number"⟩]
  else if value < lo then [⟨path, "must be >= " ++ plainText lo⟩]
  else if value > hi then [⟨path, "must be <= " ++ plainText hi⟩]
  else []

/-- A finite number that is not negative. -/
def checkNonNegative (value : Float) (path : String) : List Issue :=
  check (isFinite value && !(value < 0.0)) path "must be a finite number >= 0"

/-- A text that is not empty. -/
def checkNonEmpty (value : String) (path : String) : List Issue :=
  check (!value.isEmpty) path "must not be empty"

@[simp] theorem check_true (path message : String) : check true path message = [] := rfl

@[simp] theorem check_eq_nil (ok : Bool) (path message : String) :
    check ok path message = [] ↔ ok = true := by
  cases ok <;> simp [check]

end RoutePlanner
