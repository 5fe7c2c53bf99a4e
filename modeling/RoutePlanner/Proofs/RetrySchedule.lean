import RoutePlanner.Remote.Exchange

/-!
# What the retry loop does, attempt by attempt

The retry loop is seen from outside through what it does: it runs attempts, each with its
number, and it sleeps between them. `RetryEvent` names the two, and running the loop in the
state monad that logs them (`logAttempt`, `logSleep`) gives its whole schedule beside its
result. Attempt `n` gives `outcome n`: a result, or `none` when it outlived its time limit.

In the log, the loop with its effects is the pure loop `retryFrom` over what each attempt
resolves to (`loopFrom_logged`), and the log holds the attempts from the first to the last one
run, with the delays between them. With `retry_stops` and `retry_result` that gives the main
statement, `RetryRule.loop_schedule`: the loop runs attempts `1, …, m` for the least `m` whose
attempt succeeds, fails in a way not worth retrying, or is the last the delays allow; it sleeps
the delays `d₁, …, dₘ₋₁` between them, and it returns what attempt `m` resolved to, the
rule's timeout failure for an attempt that did not finish.
-/

namespace RoutePlanner.Remote

/-- What the retry loop does that can be seen from outside. -/
inductive RetryEvent where
  /-- attempt number `n` runs -/
  | attempt (n : Nat)
  /-- the loop sleeps `ms` milliseconds -/
  | sleep (ms : Nat)
  deriving DecidableEq, Repr

/-- The loop watched: every attempt and every sleep is logged as it happens. -/
abbrev Logged := StateM (List RetryEvent)

/-- **The schedule of a run** from attempt `n` with the delays `ds` waited: attempt `n`, then for
each delay the sleep and the next attempt. -/
def RetryEvent.schedule (n : Nat) (ds : List Nat) : List RetryEvent :=
  .attempt n :: (ds.zipIdx (n + 1)).flatMap fun (d, i) => [.sleep d, .attempt i]

theorem RetryEvent.schedule_nil (n : Nat) : RetryEvent.schedule n [] = [.attempt n] := rfl

theorem RetryEvent.schedule_cons (n d : Nat) (ds : List Nat) :
    RetryEvent.schedule n (d :: ds) = .attempt n :: .sleep d :: RetryEvent.schedule (n + 1) ds := by
  simp [RetryEvent.schedule, List.zipIdx_cons]

example : RetryEvent.schedule 1 [10, 20] =
    [.attempt 1, .sleep 10, .attempt 2, .sleep 20, .attempt 3] := rfl

/-- What the loop does once attempt `n` has resolved to `r`, with `d` the delay before the next
attempt and `rest` the delays after it. -/
def RetryRule.afterAttempt {m : Type → Type} [Monad m] {ε α : Type} (rule : RetryRule ε)
    (timeoutMs : Nat) (sleep : Nat → m Unit) (attempt : Nat → m (Option (Except ε α)))
    (n d : Nat) (rest : List Nat) : Except ε α → m (Except ε α)
  | .ok v => return .ok v
  | .error e => do
    if rule.retryable e then
      sleep d
      rule.loopFrom timeoutMs sleep attempt (n + 1) rest
    else return .error e

theorem RetryRule.loopFrom_cons {m : Type → Type} [Monad m] {ε α : Type} (rule : RetryRule ε)
    (timeoutMs : Nat) (sleep : Nat → m Unit) (attempt : Nat → m (Option (Except ε α)))
    (n d : Nat) (rest : List Nat) :
    rule.loopFrom timeoutMs sleep attempt n (d :: rest) =
      attempt n >>= fun r => rule.afterAttempt timeoutMs sleep attempt n d rest
        (rule.finish timeoutMs n r) := rfl

section Logged

variable {ε α : Type} (rule : RetryRule ε) (timeoutMs : Nat)
  (outcome : Nat → Option (Except ε α))

/-- An attempt that logs its number and then gives `outcome n`. -/
def logAttempt (n : Nat) : Logged (Option (Except ε α)) := do
  modify (· ++ [.attempt n])
  return outcome n

/-- A sleep that logs its length. -/
def logSleep (ms : Nat) : Logged Unit := modify (· ++ [.sleep ms])

/-- What attempt `i` resolves to under the time limit. -/
def RetryRule.resolved (i : Nat) : Except ε α := rule.finish timeoutMs i (outcome i)

/-- The last attempt: one logged attempt, and what it resolves to is the result. -/
theorem loopFrom_nil_logged (n : Nat) (log : List RetryEvent) :
    (rule.loopFrom timeoutMs logSleep (logAttempt outcome) n []).run log =
      (rule.resolved timeoutMs outcome n, log ++ [.attempt n]) := rfl

/-- **One step of the loop in the log**: attempt `n` is logged; if it is a failure worth another
attempt, the delay is logged and the loop goes on from `n + 1`, and otherwise it ends with what
attempt `n` resolved to. -/
theorem loopFrom_cons_logged (n d : Nat) (rest : List Nat) (log : List RetryEvent) :
    (rule.loopFrom timeoutMs logSleep (logAttempt outcome) n (d :: rest)).run log =
      if retries rule.retryable (rule.resolved timeoutMs outcome n) then
        (rule.loopFrom timeoutMs logSleep (logAttempt outcome) (n + 1) rest).run
          (log ++ [.attempt n, .sleep d])
      else (rule.resolved timeoutMs outcome n, log ++ [.attempt n]) := by
  rw [RetryRule.loopFrom_cons]
  show (rule.afterAttempt timeoutMs logSleep (logAttempt outcome) n d rest
      (rule.resolved timeoutMs outcome n)).run (log ++ [RetryEvent.attempt n]) = _
  cases rule.resolved timeoutMs outcome n with
  | ok v => rfl
  | error e =>
    cases hr : rule.retryable e
    · simp only [RetryRule.afterAttempt, retries_error, hr, Bool.false_eq_true, if_false]
      rfl
    · simp only [RetryRule.afterAttempt, retries_error, hr, if_true]
      show (rule.loopFrom timeoutMs logSleep (logAttempt outcome) (n + 1) rest).run
          (log ++ [.attempt n] ++ [.sleep d]) = _
      rw [List.append_assoc]
      rfl

/-- **The loop in the log is the pure loop.** From attempt `n` it returns what `retryFrom`
returns over what the attempts resolve to, and it logs the schedule of the attempts from `n` to
the last one run. -/
theorem loopFrom_logged (n : Nat) (ds : List Nat) (log : List RetryEvent) :
    (rule.loopFrom timeoutMs logSleep (logAttempt outcome) n ds).run log =
      ((retryFrom rule.retryable (rule.resolved timeoutMs outcome) n ds).result,
        log ++ RetryEvent.schedule n
          (ds.take
            ((retryFrom rule.retryable (rule.resolved timeoutMs outcome) n ds).attempts - n))) := by
  induction ds generalizing n log with
  | nil => simp [loopFrom_nil_logged, retryFrom, RetryEvent.schedule_nil]
  | cons d rest ih =>
    rw [loopFrom_cons_logged, retryFrom_cons]
    split
    · -- attempt `n` is retried: its entry and the delay stand in front of the rest of the run
      rw [ih]
      have hcount :=
        (retryFrom_count rule.retryable (rule.resolved timeoutMs outcome) rest (n + 1)).1
      generalize (retryFrom rule.retryable (rule.resolved timeoutMs outcome) (n + 1) rest).attempts
        = last at hcount ⊢
      rw [show last - n = (last - (n + 1)) + 1 by omega, List.take_succ_cons,
        RetryEvent.schedule_cons]
      simp
    · simp [RetryEvent.schedule_nil]

/-- **The retry loop, attempt by attempt.** Under any rule and policy, and whatever each attempt
does, the loop runs attempts `1, …, m` and sleeps the delays `d₁, …, dₘ₋₁` between them, for the
`m` with `1 ≤ m ≤ k + 1` (`k` delays) such that every attempt before `m` is a failure worth another
attempt and attempt `m` is not, or is the last one the delays allow: the least attempt that
succeeds, fails for good, or uses up the delays. It returns what attempt `m` resolved to, which
is the rule's timeout failure when that attempt did not finish, never an earlier attempt's. -/
theorem RetryRule.loop_schedule (policy : RetryPolicy) :
    ∃ m, 1 ≤ m ∧ m ≤ policy.delaysMs.length + 1 ∧
      (∀ i, 1 ≤ i → i < m →
        retries rule.retryable (rule.resolved policy.timeoutMs outcome i) = true) ∧
      (m = policy.delaysMs.length + 1 ∨
        retries rule.retryable (rule.resolved policy.timeoutMs outcome m) = false) ∧
      (rule.loop policy logSleep (logAttempt outcome)).run [] =
        (rule.resolved policy.timeoutMs outcome m,
          RetryEvent.schedule 1 (policy.delaysMs.take (m - 1))) := by
  obtain ⟨lo, hi, before, last⟩ :=
    retry_stops rule.retryable (rule.resolved policy.timeoutMs outcome) policy
  refine ⟨_, lo, hi, before, last, ?_⟩
  have hresult := retry_result rule.retryable policy (rule.resolved policy.timeoutMs outcome)
  rw [retry] at hresult
  rw [RetryRule.loop, loopFrom_logged, hresult, List.nil_append]
  rfl

end Logged

end RoutePlanner.Remote
