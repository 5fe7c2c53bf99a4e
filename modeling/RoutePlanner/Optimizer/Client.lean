import RoutePlanner.Net.Url
import RoutePlanner.Net.Header
import RoutePlanner.Remote.Exchange
import RoutePlanner.Optimizer.Wire
import RoutePlanner.Service.Error
import RoutePlanner.Json.Parse
import RoutePlanner.Json.Print

/-!
# Calling the optimiser

The optimiser is called with a POST of the request's wire form to an `Endpoint`: the path
(by default `/optimize`) resolved against the base address as a URL, with the content type
and the configured headers. An endpoint whose address does not read as a URL, or whose header
has an invalid name or value, is a configuration error.

`Endpoint.optimize` first checks the request against the contract; a request that breaks it
is a decoding failure and nothing is sent. Otherwise it sends the same body once per attempt,
under the retry policy. An answer with a status other than 2xx is an HTTP failure, retried for
5xx and 429; a missing answer is a timeout or a connection failure, both retried. The body of
a 2xx answer is decoded (`decodeAnswer`): it must be JSON of the wire form, read as derived
records read it (`decodeDocument`: each record an object or an array of its fields, no field
given twice, nothing after the value), meet the wire contract, and after conversion give a
consistent plan. A decoding failure is never retried.
-/

namespace RoutePlanner.Optimizer

open RoutePlanner.Json RoutePlanner.Net RoutePlanner.Remote

/-- The path of the optimiser's endpoint unless configured. -/
def defaultPath : String := "/optimize"

/-- The optimiser's policy unless configured: 30 s per attempt, then waits of 1, 2 and 4 s. -/
def defaultPolicy : RetryPolicy := ⟨30000, [1000, 2000, 4000]⟩

/-- The address and headers of the optimiser. -/
structure Endpoint where
  url : Url
  headers : List (String × String)

/-- **An endpoint from configuration**: the path resolved against the base address, then the
headers in order, each name checked before its value. -/
def Endpoint.make (baseUrl path : String) (headers : List (String × String)) :
    Except ServiceError Endpoint := do
  let url ← match (Url.parse? baseUrl none).bind (·.join path) with
    | some u => pure u
    | none => throw (ServiceError.config "OPTIMIZER_SERVICE_URL")
  let addHeader := fun (acc : List (String × String)) (h : String × String) => do
    if !isHeaderName h.1 then throw (ServiceError.config "optimizer header name")
    if !isHeaderValue h.2 then throw (ServiceError.config "optimizer header value")
    pure (setHeader acc (headerKey h.1) h.2)
  let hs ← List.foldlM addHeader [("content-type", "application/json")] headers
  pure ⟨url, hs⟩

/-- The request sent for a body. -/
def Endpoint.call (e : Endpoint) (body : String) : Call :=
  ⟨"POST", e.url.text, [], e.headers, some body⟩

/-- **One attempt's body**, or its failure: a 2xx answer gives its body. -/
def attemptBody (timeoutMs attempt : Nat) : Response → Except Failure String
  | .unreachable => .error (Failure.unreachable attempt)
  | .silent => .error (Failure.timedOut attempt timeoutMs)
  | .answered status body =>
    if 200 ≤ status ∧ status < 300 then .ok body else .error (Failure.ofStatus status attempt)

/-- **The answer in a body**: JSON of the wire form, meeting the wire contract, whose
converted plan is consistent. -/
def decodeAnswer (raw : String) : Except Failure Answer := do
  let w ← match decodeDocument WireAnswer.ofJson raw with
    | .ok w => pure w
    | .error e => throw (Failure.decodeFailure ("failed to parse optimizer response: " ++ e) none)
  let wireIssues := w.issues ""
  if !wireIssues.isEmpty then
    throw (Failure.decodeFailure "optimizer response did not match the contract" (some wireIssues))
  let a := w.toAnswer
  let planIssues := a.issues ""
  if !planIssues.isEmpty then
    throw (Failure.decodeFailure "optimizer returned an inconsistent plan" (some planIssues))
  pure a

/-- The outcome of a call to a remote service: its result and the requests that reached the
service, in order. -/
structure Outcome (ε α : Type) where
  result : Except ε α
  delivered : List Call

/-- The requests of `attempts` attempts that reached the service. -/
def deliveredCalls (call : Call) (answer : Nat → Response) (attempts : Nat) : List Call :=
  ((List.range attempts).filter fun i => answer (i + 1) ≠ .unreachable).map fun _ => call

/-- **A call to the optimiser**, where `answer n` is what the service does with attempt `n`. -/
def Endpoint.optimize (e : Endpoint) (policy : RetryPolicy) (answer : Nat → Response)
    (r : Request) : Outcome Failure Answer :=
  let requestIssues := r.issues ""
  if !requestIssues.isEmpty then
    ⟨.error (Failure.decodeFailure "optimizer request did not match the contract"
      (some requestIssues)), []⟩
  else
    let call := e.call r.toWire.render
    let run := retry Failure.retryable policy fun n => attemptBody policy.timeoutMs n (answer n)
    ⟨run.result.bind decodeAnswer, deliveredCalls call answer run.attempts⟩

end RoutePlanner.Optimizer
