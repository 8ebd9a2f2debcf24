import Till.Action

/-!
# Trying again

`RetryPolicy.runWhen` repeats an action that is refused for a reason worth another try, until the
retries are used up.  A fault that is not a refusal ends it at once.  `RetryPolicy.run` takes a
reason to be worth another try if `Rejection.isRetryable` says so.

How long to wait between two tries is part of the policy; waiting has no effect on the outcome.
-/

namespace Till

/-- How often to try again. -/
structure RetryPolicy where
  /-- The tries after the first one. -/
  retries : Nat := 3
  /-- The first wait in milliseconds. -/
  initialMillis : Nat := 25
  /-- The longest wait in milliseconds. -/
  maxMillis : Nat := 1000
  deriving DecidableEq, Repr

namespace RetryPolicy

variable {σ α : Type}

/-- Tries an action, and again up to so many times while the reason of its refusal is accepted. -/
def attempt (accept : Rejection → Bool) (op : Action σ α) : Nat → Action σ α
  | 0, s => op s
  | retries + 1, s =>
    match op s with
    | (.error (.rejected e), after) =>
      if accept e then attempt accept op retries after else (.error (.rejected e), after)
    | (.error .overflow, after) => (.error .overflow, after)
    | (.ok a, after) => (.ok a, after)

/-- Tries an action under a policy. -/
def runWhen (p : RetryPolicy) (accept : Rejection → Bool) (op : Action σ α) : Action σ α :=
  attempt accept op p.retries

/-- Tries an action under a policy while it may succeed when it is tried again. -/
def run (p : RetryPolicy) (op : Action σ α) : Action σ α := p.runWhen Rejection.isRetryable op

/-- Whether a request lost to another one that changed the same thing. -/
def isLostRace : Rejection → Bool
  | .modifiedConcurrently _ _ => true
  | _ => false

/-- Nothing changes between the tries of a step that leaves the state alone when it fails, so it
gives what its first try gives. -/
theorem attempt_transact (accept : Rejection → Bool) (f : σ → Result (α × σ)) (retries : Nat)
    (s : σ) : attempt accept (Action.transact f) retries s = Action.transact f s := by
  induction retries with
  | zero => rfl
  | succ retries ih =>
    unfold attempt
    match h : f s with
    | .ok (a, after) => simp [Action.transact, h]
    | .error .overflow => simp [Action.transact, h]
    | .error (.rejected e) => simp [Action.transact_of_error h, ih]

end RetryPolicy

end Till
