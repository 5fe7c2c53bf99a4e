import RoutePlanner.Validation.Issue
import RoutePlanner.Json.Decode

/-!
# Failures of the optimiser service

A call to the remote optimiser fails in one of five ways, each with a code: it timed out, the
service answered with a 4xx or a 5xx status, the connection failed, or the exchange did not
decode or did not meet the contract. A failure also records its message, the HTTP status and
attempt number when known, and the validation issues when the contract was broken.

A failure is worth retrying (`Failure.retryable`) when it is a timeout, a connection failure,
a 5xx, or the 4xx status 429 (too many requests); never when it is a decoding failure.
-/

namespace RoutePlanner.Optimizer

open RoutePlanner.Json

/-- How a call to the optimiser failed. -/
inductive ErrorCode where
  | timeout
  | http4xx
  | http5xx
  | network
  | decode
  deriving DecidableEq, Repr

namespace ErrorCode

/-- The code's name on the wire. -/
def name : ErrorCode → String
  | .timeout => "TIMEOUT"
  | .http4xx => "HTTP_4XX"
  | .http5xx => "HTTP_5XX"
  | .network => "NETWORK"
  | .decode => "DECODE"

/-- Every code with its name. -/
def table : List (String × ErrorCode) :=
  [.timeout, .http4xx, .http5xx, .network, .decode].map fun c => (c.name, c)

/-- A code as JSON. -/
def toJson (c : ErrorCode) : Value := .string c.name

/-- A code from JSON. -/
def ofJson : Value → Decoded ErrorCode := Value.toChoice table

end ErrorCode

/-- A classified failure of a call to the optimiser. -/
structure Failure where
  code : ErrorCode
  message : String
  status : Option Nat := none
  attempt : Option Nat := none
  details : Option (List Issue) := none

namespace Failure

/-- The failure for an HTTP status other than success: 5xx for `500` and above, 4xx below. -/
def ofStatus (status attempt : Nat) : Failure :=
  { code := if 500 ≤ status then .http5xx else .http4xx
    message := "optimizer service returned HTTP " ++ toString status
    status := some status, attempt := some attempt }

/-- The failure of an attempt that outlived its time limit of `ms` milliseconds. -/
def timedOut (attempt ms : Nat) : Failure :=
  { code := .timeout, message := "optimizer request timed out after " ++ toString ms ++ "ms"
    attempt := some attempt }

/-- The failure of an attempt whose connection failed. -/
def unreachable (attempt : Nat) : Failure :=
  { code := .network, message := "optimizer network request failed: connection failed"
    attempt := some attempt }

/-- A failure to decode, or to meet the contract. -/
def decodeFailure (message : String) (details : Option (List Issue)) : Failure :=
  { code := .decode, message := message, details := details }

/-- **Whether a failure is worth another attempt.** -/
def retryable (f : Failure) : Bool :=
  match f.code with
  | .timeout | .network | .http5xx => true
  | .http4xx => f.status == some 429
  | .decode => false

/-- `CODE: message`. -/
def display (f : Failure) : String := f.code.name ++ ": " ++ f.message

/-- A failure as JSON, with whether it is worth retrying. -/
def toJson (f : Failure) : Value :=
  .object [("code", f.code.toJson), ("message", .string f.message),
    ("status", Value.ofOption Value.ofNat f.status),
    ("attempt", Value.ofOption Value.ofNat f.attempt),
    ("details", Value.ofOption (fun is => .array (is.map Issue.toJson)) f.details),
    ("retryable", .bool f.retryable)]

end Failure

end RoutePlanner.Optimizer
