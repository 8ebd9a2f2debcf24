import Mathlib.Data.Nat.Find
import Mathlib.Logic.Function.Iterate
import Mathlib.Order.Bounds.Defs
import Till.Retry

/-!
# How often an action is tried

Trying again is a loop with a counter and no bound of its own; `RetryPolicy.turn` is one turn of it.
The counter and the tries that are left together are always the retries of the policy, so what the
loop comes to does not change from turn to turn.  It ends with the first outcome that is not worth
another try, or with the last try that the policy pays for, whatever the outcomes are.

* `RetryPolicy.comesTo_turn`, `RetryPolicy.comesTo_iterate` : a turn, and any number of turns, leave
  alone what the loop comes to;
* `RetryPolicy.iterate_turn` : the loop goes on as long as outcomes invite another try;
* `RetryPolicy.EndsAt`, `RetryPolicy.endsAt_lastTry` : how many tries there are, and which of their
  outcomes is given.
-/

namespace Till

variable {σ α : Type}

namespace Action

/-- The state after so many tries of an action, one after another. -/
def stateAfter (op : Action σ α) (s : σ) : Nat → σ
  | 0 => s
  | n + 1 => (op (stateAfter op s n)).2

/-- The outcomes of the tries of an action, one after another, from 0. -/
def outcomeOf (op : Action σ α) (s : σ) (n : Nat) : Result α := (op (stateAfter op s n)).1

/-- An action that counts its tries. -/
def counted (op : Action σ α) : Action (σ × Nat) α := fun s =>
  ((op s.1).1, (op s.1).2, s.2 + 1)

theorem stateAfter_counted (op : Action σ α) (s : σ) (n : Nat) :
    stateAfter (counted op) (s, 0) n = (stateAfter op s n, n) := by
  induction n with
  | zero => rfl
  | succ n ih =>
    rw [stateAfter, ih]
    rfl

theorem outcomeOf_counted (op : Action σ α) (s : σ) (n : Nat) :
    outcomeOf (counted op) (s, 0) n = outcomeOf op s n := by
  rw [outcomeOf, stateAfter_counted]
  rfl

end Action

theorem Rejection.isRetryable_iff {e : Rejection} :
    e.isRetryable = true ↔
      (∃ message, e = .unavailable message) ∨ ∃ entity id, e = .modifiedConcurrently entity id := by
  cases e <;> simp [isRetryable]

namespace RetryPolicy

open Till.Action (stateAfter outcomeOf counted)

/-- Whether an outcome is a refusal that is worth another try. -/
def invitesRetry (accept : Rejection → Bool) : Result α → Bool
  | .error (.rejected e) => accept e
  | .error .overflow => false
  | .ok _ => false

theorem invitesRetry_iff {accept : Rejection → Bool} {outcome : Result α} :
    invitesRetry accept outcome = true ↔ ∃ e, outcome = Outcome.reject e ∧ accept e = true := by
  rcases outcome with (e | _) | a <;> simp [invitesRetry, Outcome.reject]

/-- The loop that tries again. -/
inductive Trying (σ α : Type) where
  /-- The action is tried, after so many tries. -/
  | after (tries : Nat) (s : σ)
  /-- The loop has ended with an outcome. -/
  | ended (result : Result α) (s : σ)

/-- One turn of the loop: a try, and back to the beginning if its outcome invites another one and
the policy has a retry left. -/
def turn (p : RetryPolicy) (accept : Rejection → Bool) (op : Action σ α) :
    Trying σ α → Trying σ α
  | .after tries s =>
    if invitesRetry accept (op s).1 && decide (tries < p.retries) then .after (tries + 1) (op s).2
    else .ended (op s).1 (op s).2
  | .ended result s => .ended result s

/-- What the loop comes to: what the tries that are left give, or its outcome. -/
def comesTo (p : RetryPolicy) (accept : Rejection → Bool) (op : Action σ α) :
    Trying σ α → Result α × σ
  | .after tries s => attempt accept op (p.retries - tries) s
  | .ended result s => (result, s)

variable {p : RetryPolicy} {accept : Rejection → Bool} {op : Action σ α} {s : σ} {n k : Nat}

/-! ### One turn after another -/

theorem attempt_succ (accept : Rejection → Bool) (op : Action σ α) (n : Nat) (s : σ) :
    attempt accept op (n + 1) s =
      if invitesRetry accept (op s).1 then attempt accept op n (op s).2 else op s := by
  rw [attempt]
  match h : op s with
  | (.ok a, after) => rfl
  | (.error .overflow, after) => rfl
  | (.error (.rejected e), after) => rfl

/-- **A turn leaves alone what the loop comes to.** -/
theorem comesTo_turn (p : RetryPolicy) (accept : Rejection → Bool) (op : Action σ α)
    (loop : Trying σ α) :
    p.comesTo accept op (p.turn accept op loop) = p.comesTo accept op loop := by
  cases loop with
  | ended result s => rfl
  | after tries s =>
    by_cases hleft : tries < p.retries
    · have hsucc : p.retries - tries = p.retries - (tries + 1) + 1 := by omega
      rw [turn, comesTo, hsucc, attempt_succ, decide_eq_true hleft, Bool.and_true]
      by_cases hinvite : invitesRetry accept (op s).1 = true
      · rw [if_pos hinvite, if_pos hinvite, comesTo]
      · rw [if_neg hinvite, if_neg hinvite, comesTo]
    · have hnone : p.retries - tries = 0 := by omega
      simp [turn, comesTo, hleft, hnone, attempt]

/-- **Any number of turns leaves alone what the loop comes to.** -/
theorem comesTo_iterate (p : RetryPolicy) (accept : Rejection → Bool) (op : Action σ α) (n : Nat)
    (loop : Trying σ α) :
    p.comesTo accept op ((p.turn accept op)^[n] loop) = p.comesTo accept op loop := by
  induction n with
  | zero => rfl
  | succ n ih => rw [Function.iterate_succ_apply', comesTo_turn, ih]

/-- **The loop goes on** as long as outcomes invite another try and the policy has retries left. -/
theorem iterate_turn (hn : n ≤ p.retries)
    (hinvite : ∀ i < n, invitesRetry accept (outcomeOf op s i) = true) :
    (p.turn accept op)^[n] (.after 0 s) = .after n (stateAfter op s n) := by
  induction n with
  | zero => rfl
  | succ n ih =>
    have hprevious := ih (by omega) fun i hi => hinvite i (by omega)
    have hhere : invitesRetry accept (op (stateAfter op s n)).1 = true := hinvite n (by omega)
    rw [Function.iterate_succ_apply', hprevious, turn, hhere, decide_eq_true (by omega : n < _)]
    rfl

/-! ### The last try -/

/-- **The last try**, counted from 0: the first one whose outcome does not invite another try, or
else the last retry of the policy. -/
def IsLastTry (p : RetryPolicy) (accept : Rejection → Bool) (op : Action σ α) (s : σ) (k : Nat) :
    Prop :=
  IsLeast {i | i = p.retries ∨ invitesRetry accept (outcomeOf op s i) = false} k

theorem exists_isLastTry (p : RetryPolicy) (accept : Rejection → Bool) (op : Action σ α) (s : σ) :
    ∃ k, p.IsLastTry accept op s k := by
  have hlast : ∃ i, i = p.retries ∨ invitesRetry accept (outcomeOf op s i) = false :=
    ⟨p.retries, .inl rfl⟩
  exact ⟨Nat.find hlast, Nat.find_spec hlast, fun _ hi => Nat.find_min' hlast hi⟩

namespace IsLastTry

theorem le_retries (hk : p.IsLastTry accept op s k) : k ≤ p.retries := hk.2 (.inl rfl)

theorem invitesRetry_of_lt (hk : p.IsLastTry accept op s k) (hn : n < k) :
    invitesRetry accept (outcomeOf op s n) = true := by
  by_contra hnot
  have hle : k ≤ n := hk.2 (.inr (Bool.eq_false_iff.2 hnot))
  omega

theorem goesOn (hk : p.IsLastTry accept op s k) (hn : n ≤ k) :
    (p.turn accept op)^[n] (.after 0 s) = .after n (stateAfter op s n) :=
  iterate_turn (Nat.le_trans hn hk.le_retries) fun _ hi => hk.invitesRetry_of_lt (by omega)

theorem ends (hk : p.IsLastTry accept op s k) :
    (p.turn accept op)^[k + 1] (.after 0 s) =
      .ended (outcomeOf op s k) (stateAfter op s (k + 1)) := by
  rw [Function.iterate_succ_apply', hk.goesOn (Nat.le_refl k), turn]
  -- Either no retry is left, or the outcome does not invite one.
  rcases hk.1 with hlast | hrefused
  · rw [hlast, decide_eq_false (Nat.lt_irrefl _), Bool.and_false]
    rfl
  · rw [outcomeOf] at hrefused
    rw [hrefused, Bool.false_and]
    rfl

/-- What is given is what the loop has ended with. -/
theorem runWhen_eq (hk : p.IsLastTry accept op s k) :
    p.runWhen accept op s = (outcomeOf op s k, stateAfter op s (k + 1)) := by
  have hkept := p.comesTo_iterate accept op (k + 1) (.after 0 s)
  rw [hk.ends] at hkept
  exact hkept.symm

theorem counted (hk : p.IsLastTry accept op s k) : p.IsLastTry accept (counted op) (s, 0) k := by
  simpa only [IsLastTry, Action.outcomeOf_counted] using hk

theorem runWhen_counted (hk : p.IsLastTry accept op s k) :
    p.runWhen accept (Action.counted op) (s, 0) =
      (outcomeOf op s k, stateAfter op s (k + 1), k + 1) := by
  rw [hk.counted.runWhen_eq, Action.outcomeOf_counted, Action.stateAfter_counted]

end IsLastTry

/-- **A loop ends** with its last try, and the outcome of this try is given. -/
structure EndsAt (p : RetryPolicy) (accept : Rejection → Bool) (op : Action σ α) (s : σ)
    (k : Nat) : Prop where
  /-- The last try. -/
  last : p.IsLastTry accept op s k
  /-- Before it the loop has not ended. -/
  goesOn : ∀ n ≤ k, (p.turn accept op)^[n] (.after 0 s) = .after n (stateAfter op s n)
  /-- With it the loop ends. -/
  ends : (p.turn accept op)^[k + 1] (.after 0 s) =
    .ended (outcomeOf op s k) (stateAfter op s (k + 1))
  /-- Its outcome is given, after one more tries than its number. -/
  result : p.runWhen accept (counted op) (s, 0) = (outcomeOf op s k, stateAfter op s (k + 1), k + 1)

theorem IsLastTry.endsAt (hk : p.IsLastTry accept op s k) : p.EndsAt accept op s k where
  last := hk
  goesOn := fun _ => hk.goesOn
  ends := hk.ends
  result := hk.runWhen_counted

/-- **Every loop ends**, at the first try whose outcome does not invite another one or with the last
retry, and gives the outcome of this try.  If it is left to the reason of a refusal whether it is
worth another try, only those are tried again that say that something was unavailable or was
modified concurrently. -/
theorem endsAt_lastTry (p : RetryPolicy) (op : Action σ α) (s : σ) :
    (∀ accept, ∃ k, p.EndsAt accept op s k) ∧
      ∃ k, p.EndsAt Rejection.isRetryable op s k ∧
        p.run (counted op) (s, 0) = (outcomeOf op s k, stateAfter op s (k + 1), k + 1) ∧
        ∀ i < k, ∃ e, outcomeOf op s i = Outcome.reject e ∧
          ((∃ message, e = .unavailable message) ∨
            ∃ entity id, e = .modifiedConcurrently entity id) := by
  have hends : ∀ accept, ∃ k, p.EndsAt accept op s k := fun accept =>
    (p.exists_isLastTry accept op s).imp fun _ => IsLastTry.endsAt
  obtain ⟨k, hk⟩ := hends Rejection.isRetryable
  refine ⟨hends, k, hk, hk.result, ?_⟩
  intro i hi
  obtain ⟨e, he, haccept⟩ := invitesRetry_iff.1 (hk.last.invitesRetry_of_lt hi)
  exact ⟨e, he, Rejection.isRetryable_iff.1 haccept⟩

/-- Two tries that were refused, and a third one. -/
example :
    let busyTwice : Action Nat Nat := fun n =>
      (if n < 2 then Outcome.reject (.unavailable "busy") else .ok n, n + 1)
    run { retries := 3 } busyTwice 0 = (.ok 2, 3) :=
  rfl

end RetryPolicy

end Till
