import Till.Action
import Till.Store.Failure

/-!
# Successful computations

A computation that checks one thing after another succeeds exactly when every check passes.  The
statements of this file take an equation `x = .ok a` apart, one for each way in which the till puts
computations together:

* `Outcome.bind_eq_ok`, `Outcome.map_eq_ok` : a computation and what follows on it;
* `Outcome.require_eq_ok`, `Outcome.ofOption_eq_ok`, `Outcome.ofCheck_eq_ok` : single checks;
* `Outcome.Answers` : a computation that has a value or a reason against one, and does not overflow;
* `Action.transact_eq_ok`, `Action.transact_eq_error` : a step that either gives a new state or
  leaves the state alone;
* `Action.Atomic` : a step that leaves the state alone when it fails.
-/

namespace Till

namespace Outcome

variable {ε δ α β : Type}

@[simp] theorem bind_eq_ok {x : Except ε α} {f : α → Except ε β} {b : β} :
    (x >>= f) = .ok b ↔ ∃ a, x = .ok a ∧ f a = .ok b := by
  cases x <;> simp [bind, Except.bind]

@[simp] theorem map_eq_ok {x : Except ε α} {f : α → β} {b : β} :
    (f <$> x) = .ok b ↔ ∃ a, x = .ok a ∧ f a = b := by
  cases x <;> simp [Functor.map, Except.map]

@[simp] theorem pure_eq_ok {a b : α} : (pure a : Except ε α) = .ok b ↔ a = b := by
  simp [pure, Except.pure]

@[simp] theorem reject_ne_ok {r : ε} {a : α} : (reject r : Outcome ε α) ≠ .ok a := by
  simp [reject]

@[simp] theorem require_eq_ok {condition : Bool} {r : ε} {u : Unit} :
    require condition r = .ok u ↔ condition = true := by
  cases condition <;> simp [require]

@[simp] theorem ofOption_eq_ok {r : ε} {x : Option α} {a : α} :
    ofOption r x = .ok a ↔ x = some a := by
  cases x <;> simp [ofOption]

@[simp] theorem ofCheck_eq_ok {f : ε → δ} {x : Except ε α} {a : α} :
    ofCheck f x = .ok a ↔ x = .ok a := by
  cases x <;> simp [ofCheck]

theorem exists_of_mapM_eq_ok {f : α → Outcome ε β} {as : List α} {bs : List β}
    (h : as.mapM f = .ok bs) {a : α} (ha : a ∈ as) : ∃ b ∈ bs, f a = .ok b := by
  induction as generalizing bs with
  | nil => simp at ha
  | cons a' as ih =>
    simp only [List.mapM_cons, bind_eq_ok, pure_eq_ok] at h
    obtain ⟨b, hb, bs', hbs, rfl⟩ := h
    rcases List.mem_cons.1 ha with rfl | ha
    · exact ⟨b, List.mem_cons_self, hb⟩
    · obtain ⟨b', hb', hf⟩ := ih hbs ha
      exact ⟨b', List.mem_cons_of_mem _ hb', hf⟩

/-! ### Answers -/

/-- **A computation answers**: it gives a value, or it refuses with a reason. -/
def Answers (x : Outcome ε α) : Prop := (∃ a, x = .ok a) ∨ ∃ reason, x = reject reason

theorem answers_iff {x : Outcome ε α} : Answers x ↔ x ≠ overflow := by
  match x with
  | .ok a => simp [Answers, overflow]
  | .error (.rejected e) => simp [Answers, reject, overflow]
  | .error .overflow => simp [Answers, reject, overflow]

@[simp] theorem answers_ok (a : α) : Answers (.ok a : Outcome ε α) := .inl ⟨a, rfl⟩

@[simp] theorem answers_pure (a : α) : Answers (pure a : Outcome ε α) := .inl ⟨a, rfl⟩

@[simp] theorem answers_reject (r : ε) : Answers (reject r : Outcome ε α) := .inr ⟨r, rfl⟩

@[simp] theorem answers_ofOption (r : ε) (x : Option α) : Answers (ofOption r x) := by
  cases x <;> simp [ofOption]

@[simp] theorem answers_ofCheck (f : ε → δ) (x : Except ε α) : Answers (ofCheck f x) := by
  cases x <;> simp [ofCheck]

@[simp] theorem answers_require (condition : Bool) (r : ε) : Answers (require condition r) := by
  cases condition <;> simp [require]

@[simp] theorem answers_exact {n : Int} :
    Answers (Cents.exact n : Outcome ε Int) ↔ Cents.Fits n := by
  rw [answers_iff, Cents.exact, overflow]
  split <;> simp_all

@[simp] theorem answers_map {f : α → β} {x : Outcome ε α} : Answers (f <$> x) ↔ Answers x := by
  match x with
  | .ok a => simp [Functor.map, Except.map]
  | .error (.rejected e) => simp [answers_iff, overflow, Functor.map, Except.map]
  | .error .overflow => simp [answers_iff, overflow, Functor.map, Except.map]

/-- One computation after another answers if the first does, and the second does on its values. -/
theorem answers_bind {x : Outcome ε α} {f : α → Outcome ε β} :
    Answers (x >>= f) ↔ Answers x ∧ ∀ a, x = .ok a → Answers (f a) := by
  match x with
  | .ok a => simp [bind, Except.bind]
  | .error (.rejected e) => simp [answers_iff, overflow, bind, Except.bind]
  | .error .overflow => simp [answers_iff, overflow, bind, Except.bind]

theorem answers_foldlM {f : β → α → Outcome ε β} (hf : ∀ b a, Answers (f b a)) (as : List α)
    (b : β) : Answers (as.foldlM f b) := by
  induction as generalizing b with
  | nil => exact answers_pure b
  | cons a as ih =>
    rw [List.foldlM_cons, answers_bind]
    exact ⟨hf b a, fun b' _ => ih b'⟩

end Outcome

@[simp] theorem Stored.result_eq_ok {α : Type} {x : Stored α} {a : α} :
    Stored.result x = .ok a ↔ x = .ok a :=
  Outcome.mapRejection_eq_ok

@[simp] theorem Field.Check.run_eq_ok {c : Field.Check} {u : Unit} :
    Field.Check.run c = .ok u ↔ c = .ok u :=
  Outcome.ofCheck_eq_ok

@[simp] theorem Field.Check.answers_run (c : Field.Check) : Outcome.Answers (Field.Check.run c) :=
  Outcome.answers_ofCheck _ _

namespace Action

variable {σ α β : Type}

/-- A step that has succeeded gives the state that it computed. -/
theorem transact_eq_ok {f : σ → Result (α × σ)} {s after : σ} {a : α} :
    transact f s = (.ok a, after) ↔ f s = .ok (a, after) := by
  cases h : f s with
  | ok p => simp [transact, h, Prod.ext_iff]
  | error e => simp [transact, h]

/-- A step that has failed leaves the state alone. -/
theorem transact_eq_error {f : σ → Result (α × σ)} {s after : σ} {e : Fault Rejection}
    (h : transact f s = (.error e, after)) : after = s := by
  cases hf : f s with
  | ok p => simp [transact, hf] at h
  | error e =>
    simp only [transact, hf, Prod.mk.injEq] at h
    exact h.2.symm

/-- **A step is atomic** if it leaves the state alone when it fails. -/
def Atomic (step : Action σ α) : Prop :=
  ∀ ⦃s after e⦄, step s = (.error e, after) → after = s

theorem atomic_transact (f : σ → Result (α × σ)) : Atomic (transact f) := by
  intro s after e h
  exact transact_eq_error h

end Action

end Till
