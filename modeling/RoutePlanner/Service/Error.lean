import RoutePlanner.Validation.Issue
import RoutePlanner.Json.Decode

/-!
# Service errors

The errors the library's services report to callers. Each has a numeric code, a message and
optional details:

* 1 — a configuration value is invalid;
* 2 — the database could not be used;
* 4 — a remote service failed;
* 6 — a result the library assembled broke its own contract;
* 101 — the input is invalid (details: the validation issues);
* 102 — something was not found.

Over HTTP an error becomes a status and a body `{code, error, details}`: code 4 is
`502 Bad Gateway`, codes 1 to 99 are `500 Internal Server Error` with the message hidden,
102 is `404` and every other code `400`, both with the message shown.
-/

namespace RoutePlanner

open RoutePlanner.Json

/-- An error reported by a service of the library. -/
structure ServiceError where
  code : Int
  message : String
  details : Option Value := none

namespace ServiceError

/-- Invalid input, with the issues found. -/
def invalidInput (issues : List Issue) : ServiceError :=
  ⟨101, "invalid input", some (.array (issues.map Issue.toJson))⟩

/-- Invalid input, with no issues to show. -/
def invalid : ServiceError := ⟨101, "invalid input", none⟩

/-- Something was not found. -/
def notFound : ServiceError := ⟨102, "not found", none⟩

/-- A configuration value is invalid. -/
def config (name : String) : ServiceError :=
  ⟨1, "invalid configuration value for " ++ name, none⟩

/-- The database could not be used. -/
def databaseUnavailable : ServiceError := ⟨2, "database error", none⟩

/-- A remote service failed. -/
def remoteFailure : ServiceError := ⟨4, "upstream error", none⟩

/-- An assembled result broke its contract. -/
def invalidResult (issues : List Issue) : ServiceError :=
  ⟨6, "assembled result failed validation", some (.array (issues.map Issue.toJson))⟩

/-- **The HTTP status** of an error. -/
def httpStatus (e : ServiceError) : Nat :=
  if e.code = 4 then 502
  else if 1 ≤ e.code ∧ e.code ≤ 99 then 500
  else if e.code = 102 then 404
  else 400

/-- The body of an error over HTTP. -/
def httpBody (e : ServiceError) : Value :=
  let text := if e.code = 4 then "Bad Gateway"
    else if 1 ≤ e.code ∧ e.code ≤ 99 then "Internal Server Error"
    else e.message
  .object [("code", Value.ofInt e.code), ("error", .string text),
    ("details", e.details.getD .null)]

end ServiceError

end RoutePlanner
