/-!
# Faults

A computation of the till can stop for two different reasons, and they are kept apart
everywhere:

* `Fault.rejected` : a rule refused the request, with the reason;
* `Fault.overflow` : a number left the range it is kept in, so no answer exists at all.

`Outcome ε α` is a value or a fault.  `Outcome.mapRejection` changes the language of the reasons
and never turns an overflow into anything else.
-/

namespace Till

/-- Why a computation has no value. -/
inductive Fault (ε : Type) where
  /-- A rule refused the request. -/
  | rejected (reason : ε)
  /-- A number left the range it is kept in. -/
  | overflow
  deriving DecidableEq, Repr

/-- A value, or the fault that stopped its computation. -/
abbrev Outcome (ε α : Type) := Except (Fault ε) α

namespace Outcome

variable {ε δ α : Type}

/-- Refuses a request. -/
def reject (reason : ε) : Outcome ε α := .error (.rejected reason)

/-- Stops because a number does not fit. -/
def overflow : Outcome ε α := .error .overflow

/-- The value, or a refusal if there is none. -/
def ofOption (reason : ε) : Option α → Outcome ε α
  | some a => .ok a
  | none => reject reason

/-- Refuses with the given reason when the condition fails. -/
def require (condition : Bool) (reason : ε) : Outcome ε Unit :=
  if condition then .ok () else reject reason

/-- States the reason of a refusal in other words. -/
def mapRejection (f : ε → δ) : Outcome ε α → Outcome δ α
  | .ok a => .ok a
  | .error (.rejected e) => .error (.rejected (f e))
  | .error .overflow => .error .overflow

/-- A check that can only refuse, as an outcome. -/
def ofCheck (f : ε → δ) : Except ε α → Outcome δ α
  | .ok a => .ok a
  | .error e => reject (f e)

@[simp]
theorem mapRejection_ok (f : ε → δ) (a : α) : mapRejection f (.ok a) = .ok a := rfl

@[simp]
theorem mapRejection_eq_ok {f : ε → δ} {x : Outcome ε α} {a : α} :
    mapRejection f x = .ok a ↔ x = .ok a := by
  match x with
  | .ok b => simp [mapRejection]
  | .error (.rejected e) => simp [mapRejection]
  | .error .overflow => simp [mapRejection]

end Outcome

end Till
