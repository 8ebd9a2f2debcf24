import Till.Engine.Once
import Till.Engine.Sales
import Till.Proofs.Writes

/-!
# What comes of a request under a key

`OnceOutcome` lists what can come of a request under a key whose body either succeeds or leaves the
store alone: the key is malformed, a stored outcome is given again, no expiry can be computed, the
body succeeds, or the body fails.  `Engine.once_outcome` says that nothing else can happen, and
`Engine.sell_eq` that selling is such a body.
-/

namespace Till

/-- A fault that tells that the request is wrong in itself. -/
def Fault.IsValidation : Fault Rejection → Prop
  | .rejected reason => reason.kind = .validation
  | .overflow => False

/-- **A claim on a key** that no live record stands under.  Live is what the store finds.  It
compares instants as they are written (`Instant.keptBefore`), which is what
`OutcomeRecord.isExpired` says in the years 0 to 9999 (`Store.isLive_eq`), but not outside them. -/
structure Claims (lifetime : Int) (k : Engine.KeyUse) (s : Store) (claim : Claim) : Prop where
  /-- The key is well formed. -/
  wellFormed : Field.key k.key = .ok ()
  /-- Nothing is stored under it. -/
  free : k.record? s = none
  /-- The claim ends after the lifetime of keys. -/
  made : Claim.make k.store k.cashier k.key k.now lifetime = .ok claim

theorem Claim.make_eq_ok {store cashier key : String} {now : Instant} {lifetime : Int}
    {claim : Claim} :
    Claim.make store cashier key now lifetime = .ok claim ↔
      (now.shift lifetime).IsRepresentable ∧
        claim = ⟨store, cashier, key, now, now.shift lifetime⟩ := by
  simp only [make, Instant.after, Outcome.bind_eq_ok, Outcome.pure_eq_ok]
  constructor
  · rintro ⟨_, hafter, rfl⟩
    split at hafter
    · next h => cases hafter; exact ⟨h, rfl⟩
    · cases hafter
  · rintro ⟨h, rfl⟩
    exact ⟨_, if_pos h, rfl⟩

/-- **What comes of a request** under a key whose body is `f`: a result and the store afterwards. -/
inductive OnceOutcome {α : Type} (lifetime : Int) (k : Engine.KeyUse) (read : Json → Option α)
    (f : Claim → Store → Result (α × Store)) (s : Store) : Result α × Store → Prop
  /-- The key is malformed. -/
  | malformed {problem : Invalid} (key : Field.key k.key = .error problem) :
      OnceOutcome lifetime k read f s (.error (.rejected (.invalid problem)), s)
  /-- A stored outcome is given again. -/
  | replayed {r : OutcomeRecord} (wellFormed : Field.key k.key = .ok ())
      (found : k.record? s = some r) :
      OnceOutcome lifetime k read f s (r.outcome.replay read, s)
  /-- The end of the lifetime cannot be represented. -/
  | endless (wellFormed : Field.key k.key = .ok ()) (free : k.record? s = none)
      (late : ¬(k.now.shift lifetime).IsRepresentable) :
      OnceOutcome lifetime k read f s (.error .overflow, s)
  /-- The body succeeds. -/
  | done {claim : Claim} {a : α} {after : Store} (claims : Claims lifetime k s claim)
      (body : f claim s = .ok (a, after)) : OnceOutcome lifetime k read f s (.ok a, after)
  /-- The body is refused because the request is wrong in itself. -/
  | refused {claim : Claim} {reason : Rejection} (claims : Claims lifetime k s claim)
      (body : f claim s = .error (.rejected reason)) (kind : reason.kind = .validation) :
      OnceOutcome lifetime k read f s (.error (.rejected reason),
        s.remembered (claim.record none (.ofRejection reason)) k.now)
  /-- The body fails for another reason. -/
  | failed {claim : Claim} {fault : Fault Rejection} (claims : Claims lifetime k s claim)
      (body : f claim s = .error fault) (kind : ¬fault.IsValidation) :
      OnceOutcome lifetime k read f s (.error fault, s)

namespace Engine

variable {α : Type}

theorem settle_rejected {k : KeyUse} {claim : Claim} {read : Json → Option α}
    {reason : Rejection} {s : Store} (h : ∀ key, reason ≠ .inFlight key) :
    settle k claim read (.error (.rejected reason), s) =
      if reason.kind = .validation then
        (.error (.rejected reason),
          (s.addOutcome (claim.record none (.ofRejection reason)) k.now).1)
      else (.error (.rejected reason), s) := by
  cases reason with
  | inFlight key => exact absurd rfl (h key)
  | _ => rfl

/-- Settling a failure that is no validation failure gives the failure and changes nothing. -/
theorem settle_error {k : KeyUse} {claim : Claim} {read : Json → Option α}
    {fault : Fault Rejection} {s : Store} (free : k.record? s = none) (h : ¬fault.IsValidation) :
    settle k claim read (.error fault, s) = (.error fault, s) := by
  cases fault with
  | overflow => rfl
  | rejected reason =>
    by_cases hflight : ∃ key, reason = .inFlight key
    · obtain ⟨key, rfl⟩ := hflight
      simp [settle, free, Outcome.reject]
    · rw [settle_rejected fun key hkey => hflight ⟨key, hkey⟩]
      exact if_neg h

/-- Settling a validation failure remembers it. -/
theorem settle_validation {lifetime : Int} {k : KeyUse} {claim : Claim} {read : Json → Option α}
    {reason : Rejection} {s : Store} (claims : Claims lifetime k s claim)
    (h : reason.kind = .validation) :
    settle k claim read (.error (.rejected reason), s) =
      (.error (.rejected reason),
        s.remembered (claim.record none (.ofRejection reason)) k.now) := by
  rw [settle_rejected fun key hkey => (by rw [hkey] at h; cases h), if_pos h]
  obtain ⟨-, hclaim⟩ := Claim.make_eq_ok.1 claims.made
  have hfree : s.outcome? claim.store claim.cashier claim.key k.now = none := by
    rw [hclaim]
    exact claims.free
  rw [Store.addOutcome_of_free (r := claim.record none (.ofRejection reason)) hfree]

/-- Under a claim, what comes of a request is what comes of its body. -/
theorem once_of_claims {lifetime : Int} {k : KeyUse} {claim : Claim} {read : Json → Option α}
    {body : Claim → Action Store α} {s : Store} (claims : Claims lifetime k s claim) :
    once lifetime k read body s = settle k claim read (body claim s) := by
  simp only [once, claims.wellFormed, Field.Check.run, Outcome.ofCheck, claims.free, claims.made]

/-- **A request under a key** whose body either succeeds or leaves the store alone has one of the
outcomes listed. -/
theorem once_outcome (lifetime : Int) (k : KeyUse) (read : Json → Option α)
    (f : Claim → Store → Result (α × Store)) (s : Store) :
    OnceOutcome lifetime k read f s
      (once lifetime k read (fun claim => Action.transact (f claim)) s) := by
  unfold once
  cases hkey : Field.key k.key with
  | error problem => exact .malformed hkey
  | ok _ =>
    simp only [Field.Check.run, Outcome.ofCheck]
    cases hfound : k.record? s with
    | some r => exact .replayed hkey hfound
    | none =>
      cases hmade : Claim.make k.store k.cashier k.key k.now lifetime with
      | error fault =>
        unfold Claim.make Instant.after at hmade
        split at hmade
        · cases hmade
        · next hlate => cases hmade; exact .endless hkey hfound hlate
      | ok claim =>
        have claims : Claims lifetime k s claim := ⟨hkey, hfound, hmade⟩
        cases hbody : f claim s with
        | ok done =>
          simp only [Action.transact, hbody]
          exact .done claims hbody
        | error fault =>
          simp only [Action.transact, hbody]
          by_cases hkind : fault.IsValidation
          · cases fault with
            | overflow => cases hkind
            | rejected reason =>
              rw [settle_validation claims hkind]
              exact .refused claims hbody hkind
          · rw [settle_error hfound hkind]
            exact .failed claims hbody hkind

/-- A sale under a claim, as a computation on the store. -/
def sale (e : Engine) (ids : Ids) (now : Instant) (actor : Actor) (cart : Cart) (claim : Claim)
    (s : Store) : Result (Transaction × Store) := do
  let u ← e.planSale ids now actor cart claim s
  let after ← (s.commitSale u).result
  pure (u.transaction, after)

theorem sell_eq (e : Engine) (ids : Ids) (now : Instant) (actor : Actor) (cart : Cart)
    (claim : Claim) :
    e.sell ids now actor cart claim = Action.transact (e.sale ids now actor cart claim) := by
  funext s
  simp only [sell, RetryPolicy.run, RetryPolicy.runWhen, book, Action.andThen, Action.query]
  cases hplan : e.planSale ids now actor cart claim s with
  | error fault => simp [Action.transact, sale, hplan, bind, Except.bind]
  | ok u =>
    simp only [RetryPolicy.attempt_transact]
    cases hcommit : (s.commitSale u).result with
    | error fault => simp [Action.transact, sale, hplan, hcommit, bind, Except.bind]
    | ok after => simp [Action.transact, sale, hplan, hcommit, bind, Except.bind, pure, Except.pure]

theorem sellOnce_of_claims {e : Engine} {ids : Ids} {now : Instant} {actor : Actor} {cart : Cart}
    {key : String} {claim : Claim} {s : Store}
    (claims : Claims e.keyLifetime ⟨actor.store, actor.cashier, key, now⟩ s claim) :
    e.sellOnce ids now actor cart key s =
      settle ⟨actor.store, actor.cashier, key, now⟩ claim Transaction.ofJson?
        (Action.transact (e.sale ids now actor cart claim) s) := by
  rw [sellOnce, once_of_claims claims, sell_eq]

/-- Under a claim, a sale that succeeds is what comes of the request. -/
theorem sellOnce_of_sale {e : Engine} {ids : Ids} {now : Instant} {actor : Actor} {cart : Cart}
    {key : String} {claim : Claim} {s after : Store} {t : Transaction}
    (claims : Claims e.keyLifetime ⟨actor.store, actor.cashier, key, now⟩ s claim)
    (body : e.sale ids now actor cart claim s = .ok (t, after)) :
    e.sellOnce ids now actor cart key s = (.ok t, after) := by
  rw [sellOnce_of_claims claims, Action.transact, body]
  rfl

theorem sellOnce_outcome (e : Engine) (ids : Ids) (now : Instant) (actor : Actor) (cart : Cart)
    (key : String) (s : Store) :
    OnceOutcome e.keyLifetime ⟨actor.store, actor.cashier, key, now⟩ Transaction.ofJson?
      (e.sale ids now actor cart) s (e.sellOnce ids now actor cart key s) := by
  have hbody : e.sell ids now actor cart =
      fun claim => Action.transact (e.sale ids now actor cart claim) :=
    funext (e.sell_eq ids now actor cart)
  rw [sellOnce, hbody]
  exact once_outcome ..

end Engine

end Till
