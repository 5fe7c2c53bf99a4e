/-!
# Exchanges with a remote service

A remote service is called over HTTP, one attempt after another. What a service did with one
attempt is a `Response`: the connection failed, nothing came back within the attempt's time
limit, or it answered with a status and a body. A client classifies each response as a result
or a failure of its own kind.

The attempts follow a `RetryPolicy`: a time limit per attempt and a list of delays, one per
further attempt. `retry` runs attempts `1, 2, …` and stops at the first one that succeeds, at
the first failure not worth retrying, or when the delays are used up; its result is the last
attempt's, never an earlier one. So at most `delays.length + 1` attempts run, and between
attempts `i` and `i + 1` the loop waits the `i`-th delay (`RetryRun.waited`).

Main statements: `retry_count_le` bounds the attempts by the schedule, `retry_result` says
the result is that of the last attempt run, and `retry_stops` says where the loop stops: every
attempt before the last was a failure worth another, and the last is not one or uses up the
delays.
-/

namespace RoutePlanner.Remote

/-- What a remote service did with one attempt. -/
inductive Response where
  /-- The connection failed or broke off before an answer. -/
  | unreachable
  /-- No answer came within the attempt's time limit. -/
  | silent
  /-- The service answered with an HTTP status and a body. -/
  | answered (status : Nat) (body : String)
  deriving DecidableEq, Repr

/-- A request as sent: method, address, query pairs in order, headers and body. -/
structure Call where
  method : String
  url : String
  query : List (String × String)
  headers : List (String × String)
  body : Option String
  deriving DecidableEq, Repr

/-- A time limit per attempt and one delay per further attempt, in milliseconds. -/
structure RetryPolicy where
  timeoutMs : Nat
  delaysMs : List Nat
  deriving DecidableEq, Repr

/-- The outcome of a run of attempts: the last attempt's result and its number. -/
structure RetryRun (ε α : Type) where
  result : Except ε α
  attempts : Nat

/-- **Attempts from number `n` on**, with `delays` left for further attempts. -/
def retryFrom {ε α : Type} (retryable : ε → Bool) (attempt : Nat → Except ε α) (n : Nat) :
    List Nat → RetryRun ε α
  | [] => ⟨attempt n, n⟩
  | _ :: rest =>
    match attempt n with
    | .ok v => ⟨.ok v, n⟩
    | .error e => if retryable e then retryFrom retryable attempt (n + 1) rest else ⟨.error e, n⟩

/-- **The retry loop** of a policy: attempt `1` first. -/
def retry {ε α : Type} (retryable : ε → Bool) (policy : RetryPolicy)
    (attempt : Nat → Except ε α) : RetryRun ε α :=
  retryFrom retryable attempt 1 policy.delaysMs

/-- The delays waited during a run: one before each attempt after the first. -/
def RetryRun.waited {ε α : Type} (run : RetryRun ε α) (policy : RetryPolicy) : List Nat :=
  policy.delaysMs.take (run.attempts - 1)

theorem retryFrom_count {ε α : Type} (retryable : ε → Bool) (attempt : Nat → Except ε α)
    (delays : List Nat) (n : Nat) :
    n ≤ (retryFrom retryable attempt n delays).attempts ∧
      (retryFrom retryable attempt n delays).attempts ≤ n + delays.length := by
  induction delays generalizing n with
  | nil => simp [retryFrom]
  | cons d rest ih =>
    simp only [retryFrom, List.length_cons]
    split
    · simp
    · split
      · have := ih (n + 1); omega
      · simp

/-- **At most one attempt more than there are delays**, and at least one. -/
theorem retry_count_le {ε α : Type} (retryable : ε → Bool) (policy : RetryPolicy)
    (attempt : Nat → Except ε α) :
    1 ≤ (retry retryable policy attempt).attempts ∧
      (retry retryable policy attempt).attempts ≤ policy.delaysMs.length + 1 := by
  have := retryFrom_count retryable attempt policy.delaysMs 1
  unfold retry; omega

theorem retryFrom_result {ε α : Type} (retryable : ε → Bool) (attempt : Nat → Except ε α)
    (delays : List Nat) (n : Nat) :
    (retryFrom retryable attempt n delays).result =
      attempt (retryFrom retryable attempt n delays).attempts := by
  induction delays generalizing n with
  | nil => simp [retryFrom]
  | cons d rest ih =>
    simp only [retryFrom]
    split
    · simp_all
    · split
      · exact ih (n + 1)
      · simp_all

/-- **The result is the last attempt's.** -/
theorem retry_result {ε α : Type} (retryable : ε → Bool) (policy : RetryPolicy)
    (attempt : Nat → Except ε α) :
    (retry retryable policy attempt).result = attempt (retry retryable policy attempt).attempts :=
  retryFrom_result retryable attempt policy.delaysMs 1

/-! ### Where the retry loop stops -/

section Stop

variable {ε α : Type} (retryable : ε → Bool) (attempt : Nat → Except ε α)

/-- Whether an attempt's result is a failure worth another attempt. -/
def retries : Except ε α → Bool
  | .ok _ => false
  | .error e => retryable e

@[simp] theorem retries_ok (a : α) : retries retryable (.ok a : Except ε α) = false := rfl

@[simp] theorem retries_error (e : ε) :
    retries retryable (.error e : Except ε α) = retryable e := rfl

/-- One step of the loop: with a delay left, a failure worth another attempt goes on to the
next attempt, and anything else ends the run there. -/
theorem retryFrom_cons (n d : Nat) (rest : List Nat) :
    retryFrom retryable attempt n (d :: rest) =
      if retries retryable (attempt n) then retryFrom retryable attempt (n + 1) rest
      else ⟨attempt n, n⟩ := by
  cases h : attempt n with
  | ok v => simp [retryFrom, h]
  | error e => cases hr : retryable e <;> simp [retryFrom, h, hr]

/-- **Where a run from attempt `n` stops.** Every attempt before the last is a failure worth
another, and the last is either not one or the last the delays allow. -/
theorem retryFrom_stops (n : Nat) (delays : List Nat) :
    (∀ i, n ≤ i → i < (retryFrom retryable attempt n delays).attempts →
        retries retryable (attempt i) = true) ∧
      ((retryFrom retryable attempt n delays).attempts = n + delays.length ∨
        retries retryable (attempt (retryFrom retryable attempt n delays).attempts) = false) := by
  induction delays generalizing n with
  | nil => exact ⟨fun i h1 h2 => absurd h2 (by simp [retryFrom]; omega), .inl (by simp [retryFrom])⟩
  | cons d rest ih =>
    rw [retryFrom_cons, List.length_cons]
    split
    · -- the run goes on from `n + 1`: attempt `n` is one more retried failure in front
      rename_i hn
      obtain ⟨before, last⟩ := ih (n + 1)
      refine ⟨fun i h1 h2 => ?_, ?_⟩
      · rcases Nat.eq_or_lt_of_le h1 with rfl | h1
        · exact hn
        · exact before i h1 h2
      · rcases last with h | h
        · exact .inl (by omega)
        · exact .inr h
    · -- the run ends at `n` itself
      rename_i hn
      exact ⟨fun i h1 h2 => absurd h2 (by simp only; omega), .inr (by simpa using hn)⟩

/-- **Where the retry loop stops**: at attempt `m`, with `1 ≤ m ≤ k + 1` for `k` delays, every
attempt before `m` a failure worth another, and `m` the last allowed or not worth another. -/
theorem retry_stops (policy : RetryPolicy) :
    let m := (retry retryable policy attempt).attempts
    1 ≤ m ∧ m ≤ policy.delaysMs.length + 1 ∧
      (∀ i, 1 ≤ i → i < m → retries retryable (attempt i) = true) ∧
      (m = policy.delaysMs.length + 1 ∨ retries retryable (attempt m) = false) := by
  have hcount := retry_count_le retryable policy attempt
  obtain ⟨before, last⟩ := retryFrom_stops retryable attempt 1 policy.delaysMs
  refine ⟨hcount.1, hcount.2, before, ?_⟩
  rcases last with h | h
  · exact .inl (by simp only [retry, h]; omega)
  · exact .inr h

end Stop

/-! ### The loop with its effects

`retry` reads the loop as a function of what each attempt resolved to, which is how the clients
use it. The loop itself runs attempts and sleeps one after the other: `retryLoop` is that loop
in any monad. An attempt either finishes within its time limit, with a result, or does not
(`none`); an attempt that does not finish resolves to the failure the failure type gives a
timed-out attempt (`RetryRule.timedOut`), which is then retried or not by the type's own rule.
-/

/-- What the loop needs of a failure type: whether a failure is worth another attempt, and the
failure that attempt `n` becomes when it outlives its time limit of `ms` milliseconds. -/
structure RetryRule (ε : Type) where
  retryable : ε → Bool
  timedOut : (n ms : Nat) → ε

/-- **What attempt `n` resolves to**: its result when it finished within the limit, else the
rule's timeout failure. -/
def RetryRule.finish {ε α : Type} (rule : RetryRule ε) (timeoutMs n : Nat) :
    Option (Except ε α) → Except ε α
  | some r => r
  | none => .error (rule.timedOut n timeoutMs)

/-- **The loop from attempt `n`**, with `delays` left: run the attempt; a success ends the loop,
and a failure ends it too unless it is worth another attempt and a delay is left, in which
case the loop sleeps that delay and runs attempt `n + 1`. -/
def RetryRule.loopFrom {m : Type → Type} [Monad m] {ε α : Type} (rule : RetryRule ε)
    (timeoutMs : Nat) (sleep : Nat → m Unit) (attempt : Nat → m (Option (Except ε α)))
    (n : Nat) : List Nat → m (Except ε α)
  | [] => return rule.finish timeoutMs n (← attempt n)
  | d :: rest => do
    match rule.finish timeoutMs n (← attempt n) with
    | .ok v => return .ok v
    | .error e =>
      if rule.retryable e then
        sleep d
        rule.loopFrom timeoutMs sleep attempt (n + 1) rest
      else return .error e

/-- **The retry loop** of a policy, with its effects: attempt `1` first. -/
def RetryRule.loop {m : Type → Type} [Monad m] {ε α : Type} (rule : RetryRule ε)
    (policy : RetryPolicy) (sleep : Nat → m Unit) (attempt : Nat → m (Option (Except ε α))) :
    m (Except ε α) :=
  rule.loopFrom policy.timeoutMs sleep attempt 1 policy.delaysMs

end RoutePlanner.Remote
