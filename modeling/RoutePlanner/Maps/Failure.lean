import RoutePlanner.Service.Error

/-!
# Failures of the map services

A call to a map service (distances or geocoding) fails with one of seven codes: the request
was invalid, the rate limit was hit, the service failed, the connection failed, nothing was
found, the call timed out, or the answer did not decode. A failure also records its message
and, when known, the HTTP status and the attempt number.

By the codes' own rule a failure is worth retrying when the service failed, the rate limit
was hit, the connection failed or the call timed out (`Failure.retryable`); the geocoder
narrows this down (see `Maps.Geocoder`). A failure reaches callers as a service error: not
found as 102, an invalid request as 101, both with the message, and anything else as the
remote-service error 4.
-/

namespace RoutePlanner.Maps

open RoutePlanner.Json

/-- How a call to a map service failed. -/
inductive ErrorCode where
  | invalidRequest
  | rateLimit
  | serverError
  | network
  | notFound
  | timeout
  | decode
  deriving DecidableEq, Repr

namespace ErrorCode

/-- The code's name. -/
def name : ErrorCode → String
  | .invalidRequest => "INVALID_REQUEST"
  | .rateLimit => "RATE_LIMIT"
  | .serverError => "SERVER_ERROR"
  | .network => "NETWORK"
  | .notFound => "NOT_FOUND"
  | .timeout => "TIMEOUT"
  | .decode => "DECODE"

/-- A code from JSON. -/
def ofJson : Value → Decoded ErrorCode :=
  Value.toChoice ([.invalidRequest, .rateLimit, .serverError, .network, .notFound, .timeout,
    .decode].map fun c => (c.name, c))

end ErrorCode

/-- A classified failure of a call to a map service. -/
structure Failure where
  code : ErrorCode
  message : String
  status : Option Nat := none
  attempt : Option Nat := none

namespace Failure

/-- The failure of an attempt that outlived its time limit of `ms` milliseconds. -/
def timedOut (attempt ms : Nat) : Failure :=
  { code := .timeout, message := "google maps request timed out after " ++ toString ms ++ "ms"
    attempt := some attempt }

/-- The failure of an attempt whose connection failed. -/
def unreachable (attempt : Nat) : Failure :=
  { code := .network, message := "google maps request failed: connection failed"
    attempt := some attempt }

/-- The failure of an attempt whose answer did not decode. -/
def undecodable (attempt : Nat) : Failure :=
  { code := .decode, message := "google maps request failed: error decoding response body"
    attempt := some attempt }

/-- A failure of a code with a message, at an attempt. -/
def ofCode (code : ErrorCode) (message : String) (attempt : Nat) : Failure :=
  { code := code, message := message, attempt := some attempt }

/-- **Whether a failure is worth another attempt**, by the codes' own rule. -/
def retryable (f : Failure) : Bool :=
  match f.code with
  | .serverError | .rateLimit | .network | .timeout => true
  | _ => false

/-- `CODE: message`. -/
def display (f : Failure) : String := f.code.name ++ ": " ++ f.message

/-- A failure as JSON, with whether it is worth retrying. -/
def toJson (f : Failure) : Value :=
  .object [("code", .string f.code.name), ("message", .string f.message),
    ("status", Value.ofOption Value.ofNat f.status),
    ("attempt", Value.ofOption Value.ofNat f.attempt), ("retryable", .bool f.retryable)]

/-- **The service error** a failure becomes. -/
def toServiceError (f : Failure) : ServiceError :=
  match f.code with
  | .notFound => ⟨102, f.message, none⟩
  | .invalidRequest => ⟨101, f.message, none⟩
  | _ => ServiceError.remoteFailure

end Failure

end RoutePlanner.Maps
