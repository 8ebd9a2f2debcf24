import Till.Proofs.Run

/-!
# Failures leave no trace

A step that is refused leaves the store as it was.  There is one exception: when a cart is refused
because it is wrong in itself, the refusal is remembered under the key of the request, and then the
remembered outcome is all that has changed.

* `Step.RefusedWith` : a step is refused for a reason;
* `Step.RefusesCart` : the exception;
* `Engine.apply_refused` : what a refused step leaves.
-/

namespace Till

/-- The record of a refusal under a key. -/
def OutcomeRecord.ofRefusal (actor : Actor) (key : String) (reason : Rejection)
    (now expiresAt : Instant) : OutcomeRecord :=
  ⟨actor.store, actor.cashier, key, none, .failure reason.kind reason.message, now, expiresAt⟩

/-- **A step is refused** for a reason. -/
def Step.RefusedWith {κ : Type} (e : Engine) (c : CacheAccess κ) (w : World κ)
    (reason : Rejection) : Step κ → Prop
  | .request ids actor r => (e.handle c ids actor r w).1 = .error (.rejected reason)
  | .purge => (Engine.purge w).1 = .error (.rejected reason)
  | .time _ => False
  | .caching _ _ => False

/-- **A refusal to remember**: the step asks to sell a cart under a well-formed key without a live
record, and the sale is refused because the cart is wrong in itself.  The record is live if the
store finds it; outside the years 0 to 9999 one that has not expired may not be found. -/
structure Step.RefusesCart {κ : Type} (e : Engine) (w : World κ) (reason : Rejection)
    (step : Step κ) (actor : Actor) (key : String) : Prop where
  /-- The refusal tells that the request is wrong in itself. -/
  kind : reason.kind = .validation
  /-- The key is claimed, and the sale under the claim is refused. -/
  sale : ∃ ids cart claim, step = .request ids actor (.checkout cart key) ∧
    Claims e.keyLifetime ⟨actor.store, actor.cashier, key, w.now⟩ w.store claim ∧
    e.sale ids w.now actor cart claim w.store = .error (.rejected reason)

/-- The store in which a refusal is the one record under a key of an actor, and nothing else has
changed. -/
def Store.withRefusal (s : Store) (actor : Actor) (key : String) (reason : Rejection)
    (now expiresAt : Instant) : Store :=
  { s with
    outcomes := (s.outcomes.filter fun o => !belongs actor.store actor.cashier key o) ++
      [.ofRefusal actor key reason now expiresAt] }

namespace Engine

variable {κ α : Type} {e : Engine} {c : CacheAccess κ} {w : World κ} {reason : Rejection}

theorem checkout_refused {ids : Ids} {actor : Actor} {cart : Cart} {key : String}
    (h : ((e.checkout c ids actor cart key).mapAnswer Reply.receipt w).1 =
      .error (.rejected reason)) :
    (e.sellOnce ids w.now actor cart key w.store).1 = .error (.rejected reason) := by
  rcases hsold : e.sellOnce ids w.now actor cart key w.store with ⟨fault | t, after⟩
  · simp only [Action.mapAnswer, checkout_of_error e c ids actor cart key hsold] at h
    exact congrArg Except.error (Except.error.inj h)
  · -- Once the cart is sold, suggestions never lead to a refusal.
    have hcases := (e.withSuggestions_cases c t { w with store := after }).1
    simp only [Action.mapAnswer, checkout_eq e c ids actor cart key hsold] at h
    generalize e.withSuggestions c t { w with store := after } = suggested at h hcases
    obtain ⟨result, w'⟩ := suggested
    rcases hcases with ⟨r, rfl⟩ | rfl <;> cases h

/-- A sale that fails changes no more of the till than the store. -/
theorem handle_checkout_error {ids : Ids} {actor : Actor} {cart : Cart} {key : String}
    {fault : Fault Rejection} {s : Store}
    (h : e.sellOnce ids w.now actor cart key w.store = (.error fault, s)) :
    e.handle c ids actor (.checkout cart key) w = (.error fault, { w with store := s }) := by
  simp only [handle, Action.mapAnswer, checkout_of_error e c ids actor cart key h]

theorem sellOnce_refused {ids : Ids} {now : Instant} {actor : Actor} {cart : Cart} {key : String}
    {claim : Claim} {s : Store}
    (claims : Claims e.keyLifetime ⟨actor.store, actor.cashier, key, now⟩ s claim)
    (body : e.sale ids now actor cart claim s = .error (.rejected reason))
    (kind : reason.kind = .validation) :
    e.sellOnce ids now actor cart key s =
      (.error (.rejected reason),
        s.withRefusal actor key reason now (now.shift e.keyLifetime)) := by
  obtain ⟨-, hclaim⟩ := Claim.make_eq_ok.1 claims.made
  rw [sellOnce_of_claims claims, Action.transact, body, settle_validation claims kind, hclaim]
  exact congrArg _ (Store.remembered_of_free (r := .ofRefusal actor key reason now
    (now.shift e.keyLifetime)) claims.free)

theorem sellOnce_keeps {ids : Ids} {actor : Actor} {cart : Cart} {key : String}
    (h : (e.sellOnce ids w.now actor cart key w.store).1 = .error (.rejected reason))
    (hplain : ¬∃ actor' key', (Step.request ids actor (.checkout cart key) : Step κ).RefusesCart e w
      reason actor' key') :
    (e.sellOnce ids w.now actor cart key w.store).2 = w.store := by
  have houtcome := e.sellOnce_outcome ids w.now actor cart key w.store
  generalize e.sellOnce ids w.now actor cart key w.store = done at h houtcome
  cases houtcome with
  | malformed => rfl
  | replayed => rfl
  | endless => rfl
  | done => cases h
  | failed => rfl
  | @refused claim reason' claims body kind =>
    obtain rfl : reason' = reason := by simpa using h
    exact absurd ⟨actor, key, kind, ids, cart, claim, rfl, claims, body⟩ hplain

theorem apply_keeps {step : Step κ} (h : step.RefusedWith e c w reason)
    (hplain : ¬∃ actor key, step.RefusesCart e w reason actor key) :
    (e.apply c w step).store = w.store := by
  cases step with
  | purge => cases h
  | time => cases h
  | caching => cases h
  | request ids actor r =>
    have hrefused : (e.handle c ids actor r w).1 = .error (.rejected reason) := h
    cases hbooks : r.books with
    | true =>
      exact congrArg World.store ((e.handle_booked c ids actor hbooks w).kept hrefused)
    | false =>
      cases r with
      | checkout cart key =>
        -- The one operation that may write although it fails.
        simp only [apply, handle, mapAnswer_snd, checkout_store]
        exact sellOnce_keeps (checkout_refused hrefused) hplain
      | recommend cart => simp only [apply, handle, mapAnswer_snd, recommend_store]
      | currentShift | shiftReport | transaction | refunds | transactions | product | order
      | stockLevel | stockMovements => simp [apply, handle]
      | _ => cases hbooks

/-- **Failures leave no trace**: a refused step leaves the store as it was, except that a checkout
whose cart is wrong in itself leaves its refusal, and nothing else, under its key. -/
theorem apply_refused (e : Engine) (c : CacheAccess κ) (w : World κ) (step : Step κ)
    (reason : Rejection) (h : step.RefusedWith e c w reason) :
    (∀ actor key, step.RefusesCart e w reason actor key →
      (e.apply c w step).store =
        w.store.withRefusal actor key reason w.now (w.now.shift e.keyLifetime)) ∧
      ((¬∃ actor key, step.RefusesCart e w reason actor key) →
        (e.apply c w step).store = w.store) := by
  refine ⟨?_, apply_keeps h⟩
  intro actor key hrefuses
  obtain ⟨kind, ids, cart, claim, rfl, claims, body⟩ := hrefuses
  simp only [apply, handle, mapAnswer_snd, checkout_store, sellOnce_refused claims body kind]

/-! ### A key whose record has expired -/

namespace ExpiredKey

def till : Engine := ⟨"store", ⟨0⟩, 0, 3600000000000, {}, {}⟩

def cashier : Actor := ⟨"cashier", .cashier, "store", none⟩

def shift : Shift := ⟨"shift", "cashier", "store", ⟨0⟩, none, 0, none, none, []⟩

/-- A product without any units, an open shift, and a record that has expired. -/
def world : World Cache where
  store := {
    products := [⟨"product", "store", "A", "A", 5, true, ⟨0⟩⟩]
    shifts := [shift]
    outcomes := [.ofRefusal cashier "key" (.invalid (.required "lines")) ⟨0⟩ ⟨0⟩] }
  now := ⟨0⟩
  uptime := 0
  cache := .absent

def ids : Ids := ⟨"sale", "entry", fun _ => "units"⟩

def empty : Cart := ⟨[], .none, .cash, none⟩

def single : Cart := ⟨[⟨"product", 1, 5, 0⟩], .none, .cash, none⟩

/-- A request to sell as a step. -/
def selling (cart : Cart) : Step Cache := .request ids cashier (.checkout cart "key")

def claim : Claim := ⟨"store", "cashier", "key", ⟨0⟩, Instant.shift ⟨0⟩ 3600000000000⟩

/-- The sale of a single unit. -/
def sold : Transaction :=
  ⟨"sale", "store", "cashier", "shift", "key", [⟨1, "product", 1, 5, 0⟩], 5, 0, 0, 5, 0, .cash,
    .completed, {}, 0, ⟨0⟩, none, none, none⟩

theorem claims : Claims till.keyLifetime ⟨cashier.store, cashier.cashier, "key", world.now⟩
    world.store claim := ⟨by decide +kernel, by decide +kernel, rfl⟩

theorem sale_empty : till.sale ids world.now cashier empty claim world.store =
    .error (.rejected (.invalid (.required "lines"))) := rfl

theorem planSale_single :
    till.planSale ids world.now cashier single claim world.store =
      .ok (saleUnit ids claim sold) := by
  have hsold : Transaction.IsSold single
      ⟨ids.subject, cashier, shift.id, claim.key, till.rate, world.now⟩ {} ⟨5, 0, 0, 5⟩ :=
    ⟨by decide +kernel, rfl, by decide +kernel⟩
  exact planSale_of_isSold rfl hsold

/-- The store looks for the unit after it has claimed the key. -/
theorem commitSale_single : world.store.commitSale (saleUnit ids claim sold) =
    Outcome.reject (.rejected (.outOfStock "product" 0 1)) := by
  have hdemand : Store.demand (saleMovements ids sold) = .ok [("product", 1)] :=
    Store.demand_singleton (m := ⟨"units", "product", "store", -1, .sale, "sale", ⟨0⟩⟩) (by decide)
      (by decide)
  simp only [Store.commitSale, saleUnit, Store.testAvailable, hdemand, bind, Except.bind]
  rfl

theorem sellOnce_single : till.sellOnce ids world.now cashier single "key" world.store =
    (.error (.rejected (.outOfStock "product" 0 1)), world.store) := by
  have hsale : till.sale ids world.now cashier single claim world.store =
      .error (.rejected (.outOfStock "product" 0 1)) := by
    simp only [sale, planSale_single, bind, Except.bind, commitSale_single]
    rfl
  rw [sellOnce_of_claims claims, Action.transact, hsale]
  rfl

/-- The key is claimed by a record of the sale in place of the expired one. -/
theorem exists_claimKey_single : ∃ claimed,
    world.store.claimKey (saleUnit ids claim sold).record world.now = .ok claimed ∧
      claimed ≠ world.store := by
  refine ⟨_, rfl, ?_⟩
  intro hsame
  have htransactions := congrArg (fun s : Store => s.outcomes.map (·.transaction)) hsame
  cases htransactions

end ExpiredKey

open ExpiredKey in
/-- Under a key whose record has expired, a till that refuses an empty cart leaves that refusal in
place of the record.  A till that is out of stock has claimed the key by then, and leaves the record
where it was. -/
theorem apply_refused_expiredKey :
    ((selling empty).RefusedWith till Cache.access world (.invalid (.required "lines")) ∧
      (till.apply Cache.access world (selling empty)).store =
        world.store.withRefusal cashier "key" (.invalid (.required "lines")) ⟨0⟩
          (Instant.shift ⟨0⟩ 3600000000000)) ∧
    (selling single).RefusedWith till Cache.access world (.outOfStock "product" 0 1) ∧
      (∃ u claimed, till.planSale ids world.now cashier single claim world.store = .ok u ∧
        world.store.claimKey u.record world.now = .ok claimed ∧ claimed ≠ world.store) ∧
      (till.apply Cache.access world (selling single)).store = world.store := by
  have hwrong : (selling empty).RefusedWith till Cache.access world
      (.invalid (.required "lines")) :=
    congrArg Prod.fst (handle_checkout_error (sellOnce_refused claims sale_empty rfl))
  have hlacking : (selling single).RefusedWith till Cache.access world
      (.outOfStock "product" 0 1) :=
    congrArg Prod.fst (handle_checkout_error sellOnce_single)
  obtain ⟨claimed, hclaimed, hother⟩ := exists_claimKey_single
  refine ⟨⟨hwrong, ?_⟩, hlacking, ⟨_, claimed, planSale_single, hclaimed, hother⟩, ?_⟩
  · exact (apply_refused till Cache.access world _ _ hwrong).1 cashier "key"
      ⟨rfl, _, _, _, rfl, claims, sale_empty⟩
  · refine (apply_refused till Cache.access world _ _ hlacking).2 ?_
    rintro ⟨_, _, hkind, -⟩
    cases hkind

end Engine

end Till
