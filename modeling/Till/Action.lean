import Till.Rejection

/-!
# Actions

An `Action σ α` is a step on a state of type `σ`: its outcome and the state afterwards.

* `Action.query` : a step that only looks at the state;
* `Action.transact` : a step that either gives a new state or fails and leaves the state alone;
* `Action.andThen` : a step, and after it, if it has not failed, another one.
-/

namespace Till

/-- A step on a state: its outcome and the state afterwards. -/
abbrev Action (σ α : Type) := σ → Result α × σ

namespace Action

variable {σ α β : Type}

/-- A step that only looks at the state. -/
def query (f : σ → Result α) : Action σ α := fun s => (f s, s)

/-- A step that either gives a new state or fails and leaves the state alone. -/
def transact (f : σ → Result (α × σ)) : Action σ α := fun s =>
  match f s with
  | .ok (a, after) => (.ok a, after)
  | .error e => (.error e, s)

/-- A step, and after it, if it has not failed, another one. -/
def andThen (first : Action σ α) (second : α → Action σ β) : Action σ β := fun s =>
  match first s with
  | (.ok a, after) => second a after
  | (.error e, after) => (.error e, after)

theorem transact_of_error {f : σ → Result (α × σ)} {s : σ} {e : Fault Rejection}
    (h : f s = .error e) : transact f s = (.error e, s) := by
  simp [transact, h]

end Action

end Till
