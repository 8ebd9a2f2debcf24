import Till.Engine.Basic
import Till.Store.Outcomes

/-!
# At most once

`Engine.once` executes a request under a key unless an outcome is stored for the key; then it
gives that outcome again.  The body stores its own success together with what it does.  A refusal
because the request is wrong in itself is stored here; other refusals are not, so that the request
can be sent again.  A body that finds the key taken gives the outcome of whoever took it.
-/

namespace Till

namespace Engine

variable {α : Type}

/-- The key of a request: at which store, by which cashier, under which key and at what time. -/
structure KeyUse where
  /-- The store. -/
  store : String
  /-- The cashier. -/
  cashier : String
  /-- The key. -/
  key : String
  /-- The time. -/
  now : Instant

/-- The live record under a key. -/
def KeyUse.record? (k : KeyUse) (s : Store) : Option OutcomeRecord :=
  s.outcome? k.store k.cashier k.key k.now

/-- Deals with what came of the body. -/
def settle (k : KeyUse) (claim : Claim) (read : Json → Option α) (done : Result α × Store) :
    Result α × Store :=
  match done with
  | (.error (.rejected (.inFlight key)), s) =>
    match k.record? s with
    | some r => (r.outcome.replay read, s)
    | none => (Outcome.reject (.inFlight key), s)
  | (.error (.rejected reason), s) =>
    if reason.kind = .validation then
      (Outcome.reject reason, (s.addOutcome (claim.record none (.ofRejection reason)) k.now).1)
    else (Outcome.reject reason, s)
  | (result, s) => (result, s)

/-- Executes a body under a key that is claimed for a lifetime, or gives the stored outcome again,
its payload read with `read`. -/
def once (lifetime : Int) (k : KeyUse) (read : Json → Option α) (body : Claim → Action Store α) :
    Action Store α := fun s =>
  match (Field.key k.key).run with
  | .error e => (.error e, s)
  | .ok () =>
    match k.record? s with
    | some r => (r.outcome.replay read, s)
    | none =>
      match Claim.make k.store k.cashier k.key k.now lifetime with
      | .error e => (.error e, s)
      | .ok claim => settle k claim read (body claim s)

end Engine

end Till
