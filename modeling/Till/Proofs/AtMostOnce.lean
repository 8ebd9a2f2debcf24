import Till.Proofs.Failures
import Till.Proofs.Keys
import Till.Proofs.Payloads

/-!
# At most once

A till whose clock never goes back sells at most once under a key, for as long as the outcome of the
first sale is remembered.  `Engine.OncePerKey` lists what that means:

* sales under one key are a lifetime apart;
* a sale is given again, and a cart that is wrong in itself is refused again, until the lifetime of
  the key is over, whatever is asked of the till in between;
* another failure leaves the store as it was, so that the request can be sent again.

Instants are kept, and compared, in their written form.  The till keeps what is promised exactly if
the written form orders the instants that its clock shows (`Engine.oncePerKey_iff`), as it does in
the years 0 to 9999 (`Engine.keepsLifetimes_of_plainYears`).  Where it does not, a till sells twice
under one key (`DoubleSale.transactions_run`).
-/

namespace Till

/-! ### A clock that never goes back -/

/-- **A forward list of steps**: the clock never goes back from the given instant on, and all it
shows are the given instants. -/
def Forward {κ : Type} (shown : Instant → Prop) : Instant → List (Step κ) → Prop
  | _, [] => True
  | now, .time later :: steps => now ≤ later ∧ shown later ∧ Forward shown later steps
  | now, .request _ _ _ :: steps => Forward shown now steps
  | now, .purge :: steps => Forward shown now steps
  | now, .caching _ _ :: steps => Forward shown now steps

namespace Engine

variable {κ : Type} {e : Engine} {c : CacheAccess κ} {w : World κ} {shown : Instant → Prop}

theorem change_now {α : Type} (reply : α → Reply) (step : Action Store α) (w : World κ) :
    (change reply step w).2.now = w.now := by
  simp only [change, mapAnswer_snd]
  rfl

theorem withSuggestions_now (e : Engine) (c : CacheAccess κ) (t : Transaction) (w : World κ) :
    (e.withSuggestions c t w).2.now = w.now := by
  have hkeeps := Advisor.recommend_keeps (advisorAccess_keeps c) e.advisor t.store
    (t.lines.map (·.product)) w
  unfold withSuggestions
  split <;> next heq => rw [heq] at hkeeps; exact congrArg Prod.snd hkeeps

theorem checkout_now (e : Engine) (c : CacheAccess κ) (ids : Ids) (actor : Actor) (cart : Cart)
    (key : String) (w : World κ) : (e.checkout c ids actor cart key w).2.now = w.now := by
  rcases hsold : e.sellOnce ids w.now actor cart key w.store with ⟨fault | t, after⟩
  · rw [checkout_of_error e c ids actor cart key hsold]
  · rw [checkout_eq e c ids actor cart key hsold, withSuggestions_now]

theorem handle_now (e : Engine) (c : CacheAccess κ) (ids : Ids) (actor : Actor) (r : Request)
    (w : World κ) : (e.handle c ids actor r w).2.now = w.now := by
  cases r with
  | checkout cart key => simp only [handle, mapAnswer_snd, checkout_now]
  | recommend cart =>
    simp only [handle, mapAnswer_snd]
    exact congrArg Prod.snd (Advisor.recommend_keeps (advisorAccess_keeps c) ..)
  | currentShift | shiftReport | transaction | refunds | transactions | product | order
  | stockLevel | stockMovements => simp only [handle, look_snd]
  | openShift | closeShift | recordEntry | void | refund | registerProduct | registerSupplier
  | createOrder | receiveOrder => simp only [handle, change_now]

theorem apply_forward (e : Engine) (c : CacheAccess κ) {step : Step κ} {steps : List (Step κ)}
    (hnow : shown w.now) (h : Forward shown w.now (step :: steps)) :
    w.now ≤ (e.apply c w step).now ∧ shown (e.apply c w step).now ∧
      Forward shown (e.apply c w step).now steps := by
  cases step with
  | request ids actor r =>
    rw [apply, handle_now]
    exact ⟨Int.le_refl _, hnow, h⟩
  | purge => exact ⟨Int.le_refl _, hnow, h⟩
  | time later => exact h
  | caching uptime cache => exact ⟨Int.le_refl _, hnow, h⟩

theorem run_forward (e : Engine) (c : CacheAccess κ) {steps : List (Step κ)} (hnow : shown w.now)
    (h : Forward shown w.now steps) :
    w.now ≤ (e.run c w steps).now ∧ shown (e.run c w steps).now := by
  induction steps generalizing w with
  | nil => exact ⟨Int.le_refl _, hnow⟩
  | cons step steps ih =>
    obtain ⟨hle, hshown, hrest⟩ := apply_forward e c hnow h
    obtain ⟨hle', hshown'⟩ := ih hshown hrest
    exact ⟨Int.le_trans hle hle', hshown'⟩

/-! ### What a forward run keeps -/

/-- **Every forward run remembers sales.** -/
theorem run_remembers (keeps : KeepsLifetimes e.keyLifetime shown) (c : CacheAccess κ)
    {steps : List (Step κ)} (hnow : shown w.now) (hforward : Forward shown w.now steps)
    (h : w.store.Remembers e.keyLifetime shown w.now) :
    (e.run c w steps).store.Remembers e.keyLifetime shown (e.run c w steps).now := by
  induction steps generalizing w with
  | nil => exact h
  | cons step steps ih =>
    obtain ⟨hle, hshown, hrest⟩ := apply_forward e c hnow hforward
    refine ih hshown hrest (.later hle ?_)
    rcases e.apply_change c w step with hsame | hchange
    · rw [hsame]; exact h
    · exact h.change keeps hnow hchange.keys

/-- **A record remains through every forward run** that ends before its lifetime does. -/
theorem run_holds (keeps : KeepsLifetimes e.keyLifetime shown) (c : CacheAccess κ)
    {steps : List (Step κ)} {k : KeyUse} {r : OutcomeRecord} (hrecord : k.IsRecord e.keyLifetime r)
    (hshown : shown k.now) (hpast : k.now ≤ w.now) (hnow : shown w.now)
    (hforward : Forward shown w.now steps)
    (hlasts : (e.run c w steps).now < k.now.shift e.keyLifetime) (h : w.store.Holds k r) :
    (e.run c w steps).store.Holds k r := by
  induction steps generalizing w with
  | nil => exact h
  | cons step steps ih =>
    obtain ⟨hle, hnow', hrest⟩ := apply_forward e c hnow hforward
    obtain ⟨hle', -⟩ := run_forward e c hnow' hrest
    refine ih (Int.le_trans hpast hle) hnow' hrest hlasts ?_
    rcases e.apply_change c w step with hsame | hchange
    · rw [hsame]; exact h
    · -- The record is live when the change is made.
      refine h.change ?_ hchange.keys
      rw [Store.isLive, hrecord.expiry]
      refine keeps k.now w.now hshown hnow hpast ?_
      exact Int.lt_of_le_of_lt (Int.le_trans hle hle') hlasts

/-! ### Outcomes that are given again -/

variable {ids : Ids} {now : Instant} {actor : Actor} {cart : Cart} {key : String} {s : Store}

theorem sellOnce_of_record {r : OutcomeRecord} (wellFormed : Field.key key = .ok ())
    (h : KeyUse.record? ⟨actor.store, actor.cashier, key, now⟩ s = some r) :
    e.sellOnce ids now actor cart key s = (r.outcome.replay Transaction.ofJson?, s) := by
  simp only [sellOnce, once, wellFormed, Field.Check.run, Outcome.ofCheck, h]

theorem withSuggestions_ok {t : Transaction}
    (h : (e.advisor.recommend (advisorAccess c) t.store (t.lines.map (·.product)) w).1 ≠
      .error .overflow) : ∃ r, (e.withSuggestions c t w).1 = .ok ⟨t, r⟩ := by
  unfold withSuggestions
  split
  · next r w' _ => exact ⟨r, rfl⟩
  · exact ⟨_, rfl⟩
  · next heq => rw [heq] at h; exact absurd rfl h

/-- **The record of a sale** gives its transaction again. -/
theorem replay_saleUnit {c : SaleContext} {pricing : PricingRecord} {totals : Totals}
    (h : Transaction.IsSold cart c pricing totals) (hnow : c.at'.IsRepresentable) (ids : Ids)
    (claim : Claim) :
    (saleUnit ids claim (Transaction.sold cart c pricing totals)).record.kept.outcome.replay
      Transaction.ofJson? = .ok (Transaction.sold cart c pricing totals) := by
  simp only [saleUnit, Claim.record, OutcomeRecord.kept, StoredOutcome.kept, StoredOutcome.replay,
    Transaction.kept_toJson]
  rw [Transaction.ofJson?_toJson h.priced (by decide : Cents.Fits 0) hnow (by rintro _ ⟨⟩)]
  rfl

/-- What a sale returns and leaves under its key. -/
theorem sellOnce_sold {t : Transaction} (hnow : now.IsRepresentable)
    (free : KeyUse.record? ⟨actor.store, actor.cashier, key, now⟩ s = none)
    (h : (e.sellOnce ids now actor cart key s).1 = .ok t) :
    Field.key key = .ok () ∧
      ∃ r, KeyUse.IsRecord e.keyLifetime ⟨actor.store, actor.cashier, key, now⟩ r ∧
        (e.sellOnce ids now actor cart key s).2.Holds ⟨actor.store, actor.cashier, key, now⟩ r ∧
        r.outcome.replay Transaction.ofJson? = .ok t := by
  have houtcome := e.sellOnce_outcome ids now actor cart key s
  generalize e.sellOnce ids now actor cart key s = done at h houtcome
  cases houtcome with
  | malformed => cases h
  | endless => cases h
  | refused => cases h
  | failed => cases h
  | replayed wellFormed found => cases free.symm.trans found
  | @done claim t' after claims body =>
    obtain rfl : t' = t := by simpa using h
    simp only [sale, Outcome.bind_eq_ok, Stored.result_eq_ok, Outcome.pure_eq_ok,
      Prod.mk.injEq] at body
    obtain ⟨u, hplan, _, hcommit, rfl, rfl⟩ := body
    obtain ⟨sh, ev, -, rfl⟩ := Store.commitSale_eq_ok hcommit
    obtain ⟨sh', pricing, totals, -, hsold, rfl⟩ := planSale_eq_ok hplan
    obtain ⟨hrecord, houtcomes⟩ := claims.remembered _ _
    refine ⟨claims.wellFormed, _, hrecord, .of_outcomes hrecord.owned houtcomes, ?_⟩
    exact replay_saleUnit hsold hnow ids claim

/-! ### What is promised of keys -/

/-- **A transaction is given again** to a request to sell, and nothing happens to the store.  The
receipt is that of the transaction unless a number of the suggestions leaves its range. -/
structure SellsAgain (e : Engine) (c : CacheAccess κ) (w : World κ) (ids : Ids) (actor : Actor)
    (cart : Cart) (key : String) (t : Transaction) : Prop where
  /-- The sale is the transaction. -/
  sale : e.sellOnce ids w.now actor cart key w.store = (.ok t, w.store)
  /-- The receipt is that of the transaction. -/
  receipt : (e.advisor.recommend (advisorAccess c) t.store (t.lines.map (·.product)) w).1 ≠
    .error .overflow → ∃ r, (e.checkout c ids actor cart key w).1 = .ok ⟨t, r⟩
  /-- The store stays as it is. -/
  store : (e.checkout c ids actor cart key w).2.store = w.store

/-- **A refusal is given again** to a request to sell, and nothing happens at all. -/
structure RefusesAgain (e : Engine) (c : CacheAccess κ) (w : World κ) (ids : Ids) (actor : Actor)
    (cart : Cart) (key : String) (reason again : Rejection) : Prop where
  /-- The request is refused. -/
  refusal : e.checkout c ids actor cart key w = (.error (.rejected again), w)
  /-- The refusal is of the same kind. -/
  kind : again.kind = reason.kind
  /-- It has the same wording. -/
  message : again.message = reason.message

/-- **At most once**: what a till promises of requests to sell under a key, as long as its clock
never goes back and shows only the given instants. -/
structure OncePerKey (e : Engine) (c : CacheAccess κ) (shown : Instant → Prop) : Prop where
  /-- Sales under one key are a lifetime apart. -/
  apart : ∀ {start steps} (cache : κ), shown start → Forward shown start steps →
    (e.run c (World.empty start cache) steps).store.transactions.Pairwise fun t t' =>
      t.use.Same t'.use → t.createdAt.shift e.keyLifetime ≤ t'.createdAt
  /-- A sale is given again until the lifetime of its key is over. -/
  sold : ∀ {w ids actor cart key t steps}, shown w.now →
    KeyUse.record? ⟨actor.store, actor.cashier, key, w.now⟩ w.store = none →
    (e.sellOnce ids w.now actor cart key w.store).1 = .ok t → Forward shown w.now steps →
    ∀ {later}, later = e.run c w (.request ids actor (.checkout cart key) :: steps) →
    later.now < w.now.shift e.keyLifetime →
    ∀ {ids' actor' cart'}, actor'.store = actor.store → actor'.cashier = actor.cashier →
      e.SellsAgain c later ids' actor' cart' key t
  /-- So is the refusal of a cart that is wrong in itself. -/
  refused : ∀ {w ids actor cart key claim reason steps}, shown w.now →
    Claims e.keyLifetime ⟨actor.store, actor.cashier, key, w.now⟩ w.store claim →
    e.sale ids w.now actor cart claim w.store = .error (.rejected reason) →
    reason.kind = .validation → Forward shown w.now steps →
    ∀ {later}, later = e.run c w (.request ids actor (.checkout cart key) :: steps) →
    later.now < w.now.shift e.keyLifetime →
    ∀ {ids' actor' cart'}, actor'.store = actor.store → actor'.cashier = actor.cashier →
      ∃ again, e.RefusesAgain c later ids' actor' cart' key reason again
  /-- Another failure leaves the store, and with it the claim on the key, as it was. -/
  failed : ∀ {w : World κ} {ids actor cart key claim fault},
    Claims e.keyLifetime ⟨actor.store, actor.cashier, key, w.now⟩ w.store claim →
    e.sale ids w.now actor cart claim w.store = .error fault → ¬fault.IsValidation →
    e.sellOnce ids w.now actor cart key w.store = (.error fault, w.store) ∧
      ∀ {ids' actor' cart' t after}, actor'.store = actor.store → actor'.cashier = actor.cashier →
        e.sale ids' w.now actor' cart' claim w.store = .ok (t, after) →
        e.sellOnce ids' w.now actor' cart' key w.store = (.ok t, after)

/-- A record that is stored by a request to sell is what later requests under the key find. -/
theorem run_record? (keeps : KeepsLifetimes e.keyLifetime shown) (c : CacheAccess κ)
    {steps : List (Step κ)} {r : OutcomeRecord} (hnow : shown w.now)
    (hrecord : KeyUse.IsRecord e.keyLifetime ⟨actor.store, actor.cashier, key, w.now⟩ r)
    (hholds : (e.sellOnce ids w.now actor cart key w.store).2.Holds
      ⟨actor.store, actor.cashier, key, w.now⟩ r)
    (hforward : Forward shown w.now steps) {later : World κ}
    (hlater : later = e.run c w (.request ids actor (.checkout cart key) :: steps))
    (hlasts : later.now < w.now.shift e.keyLifetime) {actor' : Actor}
    (hstore : actor'.store = actor.store) (hcashier : actor'.cashier = actor.cashier) :
    KeyUse.record? ⟨actor'.store, actor'.cashier, key, later.now⟩ later.store = some r := by
  subst hlater
  rw [run_cons] at hlasts ⊢
  generalize hw' : e.apply c w (.request ids actor (.checkout cart key)) = w' at hlasts ⊢
  have hnow' : w'.now = w.now := by
    rw [← hw']
    exact e.handle_now c ids actor _ w
  have hstore' : w'.store = (e.sellOnce ids w.now actor cart key w.store).2 := by
    rw [← hw', apply, handle, mapAnswer_snd, checkout_store]
  have hforward' : Forward shown w'.now steps := hnow' ▸ hforward
  have hshown' : shown w'.now := hnow' ▸ hnow
  obtain ⟨hle, hshown⟩ := run_forward e c hshown' hforward'
  -- The record has remained, and it has not expired.
  have hheld := run_holds keeps c hrecord hnow (Int.le_of_eq (congrArg Instant.tick hnow'.symm))
    hshown' hforward' hlasts (hstore' ▸ hholds)
  have hlive : Store.isLive (e.run c w' steps).now r = true := by
    rw [Store.isLive, hrecord.expiry]
    exact keeps w.now _ hnow hshown (hnow' ▸ hle) hlasts
  rw [hstore, hcashier]
  exact Store.Holds.record?_eq
    (k := ⟨actor.store, actor.cashier, key, (e.run c w' steps).now⟩) hheld hlive

/-- **A clock whose lifetimes are kept** is all that the promises need. -/
theorem oncePerKey_of_keepsLifetimes (keeps : KeepsLifetimes e.keyLifetime shown)
    (hshown : ∀ t, shown t → t.IsRepresentable) (c : CacheAccess κ) : e.OncePerKey c shown where
  apart {start steps} cache hnow hforward := by
    have hremembers := run_remembers (w := World.empty start cache) keeps c hnow hforward .empty
    exact List.pairwise_map.1 hremembers.apart
  sold {w ids actor cart key t steps} hnow free hsold hforward later hlater hlasts ids' actor'
      cart' hstore hcashier := by
    obtain ⟨wellFormed, r, hrecord, hholds, hreplay⟩ := sellOnce_sold (hshown _ hnow) free hsold
    have hfound := run_record? keeps c hnow hrecord hholds hforward hlater hlasts hstore hcashier
    have hagain : e.sellOnce ids' later.now actor' cart' key later.store =
        (.ok t, later.store) := by
      rw [sellOnce_of_record wellFormed hfound, hreplay]
    refine ⟨hagain, ?_, ?_⟩
    · intro hfits
      rw [checkout_eq e c ids' actor' cart' key hagain]
      exact withSuggestions_ok hfits
    · rw [checkout_store, hagain]
  refused {w ids actor cart key claim reason steps} hnow claims body kind hforward later hlater
      hlasts ids' actor' cart' hstore hcashier := by
    have hrefused := sellOnce_refused claims body kind
    have hrecord : KeyUse.IsRecord e.keyLifetime ⟨actor.store, actor.cashier, key, w.now⟩
        (.ofRefusal actor key reason w.now (w.now.shift e.keyLifetime)) :=
      ⟨by simp [KeyUse.owns, Store.belongs, OutcomeRecord.ofRefusal], rfl⟩
    have hholds : (e.sellOnce ids w.now actor cart key w.store).2.Holds
        ⟨actor.store, actor.cashier, key, w.now⟩
        (.ofRefusal actor key reason w.now (w.now.shift e.keyLifetime)) := by
      rw [hrefused]
      exact .of_outcomes hrecord.owned rfl
    have hfound := run_record? keeps c hnow hrecord hholds hforward hlater hlasts hstore hcashier
    refine ⟨.replayed reason.kind reason.message, ?_, rfl, rfl⟩
    exact checkout_of_error e c ids' actor' cart' key
      (sellOnce_of_record claims.wellFormed hfound)
  failed {w ids actor cart key claim fault} claims body kind := by
    refine ⟨?_, ?_⟩
    · rw [sellOnce_of_claims claims, Action.transact, body, settle_error claims.free kind]
    · intro ids' actor' cart' t after hstore hcashier body'
      have claims' : Claims e.keyLifetime ⟨actor'.store, actor'.cashier, key, w.now⟩ w.store
          claim := by
        rw [hstore, hcashier]
        exact claims
      exact sellOnce_of_sale claims' body'

end Engine

/-! ### A key that is forgotten too early

Where an instant comes before the end of a lifetime but is not kept before it, a till sells twice
under one key: the second request finds the record of the first sale expired.  This till has two
units of one product.  It sells one of them under a key at one instant and the other, under the same
key, at another (`DoubleSale.transactions_run`). -/

namespace DoubleSale

/-- A till with the given lifetime of keys. -/
def till (lifetime : Int) : Engine := ⟨"store", ⟨0⟩, 0, lifetime, {}, {}⟩

def manager : Actor := ⟨"manager", .manager, "store", none⟩

def world (s : Store) (now : Instant) : World Cache := ⟨s, now, 0, .absent⟩

/-- One identifier for all that a request creates. -/
def ids (id : String) : Ids := ⟨id, id, fun _ => id⟩

def cart : Cart := ⟨[⟨"1", 1, 5, 0⟩], .none, .cash, none⟩

/-- The requests that make two units of a product ready for sale. -/
def stocking : List (Step Cache) := [
  .request (ids "1") manager (.registerProduct ⟨"A", "A", 5⟩),
  .request (ids "2") manager (.registerSupplier ⟨"S", none⟩),
  .request (ids "3") manager (.createOrder ⟨"2", [⟨"1", 2, 1⟩]⟩),
  .request (ids "4") manager (.receiveOrder "3" [⟨"1", 2⟩]),
  .request (ids "5") manager (.openShift 0)]

/-- The store with two units of a product. -/
def stocked (start : Instant) : Store where
  products := [⟨"1", "store", "A", "A", 5, true, start⟩]
  suppliers := [⟨"2", "store", "S", none, start⟩]
  orders := [⟨"3", "store", "2", .received, [⟨"1", 2, 2, 1⟩], "manager", start, start⟩]
  movements := [⟨"4", "1", "store", 2, .receive, "3", start⟩]
  shifts := [⟨"5", "manager", "store", start, none, 0, none, none, []⟩]

/-- The claim on the key at an instant. -/
def claim (lifetime : Int) (now : Instant) : Claim :=
  ⟨"store", "manager", "key", now, now.shift lifetime⟩

/-- The sale of the cart at an instant. -/
def sold (id : String) (now : Instant) : Transaction :=
  ⟨id, "store", "manager", "5", "key", [⟨1, "1", 1, 5, 0⟩], 5, 0, 0, 5, 0, .cash, .completed, {},
    0, now, none, none, none⟩

/-- The store after the first sale. -/
def soldOnce (lifetime : Int) (start : Instant) : Store :=
  { stocked start with
    transactions := [sold "6" start]
    movements := (stocked start).movements ++ [⟨"6", "1", "store", -1, .sale, "6", start⟩]
    shifts := [⟨"5", "manager", "store", start, none, 0, none, none,
      [⟨"6", "5", 1, .sale, 5, some .cash, some "6", start⟩]⟩]
    outcomes := [((claim lifetime start).record (some "6")
      (.success (sold "6" start).toJson)).kept] }

variable {lifetime : Int} {start now : Instant}

theorem run_stocking :
    (till lifetime).run Cache.access (World.empty start .absent) stocking =
      world (stocked start) start := by
  have hproduct : (till lifetime).apply Cache.access (World.empty start .absent)
      (.request (ids "1") manager (.registerProduct ⟨"A", "A", 5⟩)) =
        world { products := (stocked start).products } start := rfl
  have hsupplier : (till lifetime).apply Cache.access
      (world { products := (stocked start).products } start)
      (.request (ids "2") manager (.registerSupplier ⟨"S", none⟩)) =
        world {
          products := (stocked start).products
          suppliers := (stocked start).suppliers } start := rfl
  have horder : (till lifetime).apply Cache.access
      (world {
        products := (stocked start).products
        suppliers := (stocked start).suppliers } start)
      (.request (ids "3") manager (.createOrder ⟨"2", [⟨"1", 2, 1⟩]⟩)) =
        world {
          products := (stocked start).products
          suppliers := (stocked start).suppliers
          orders := [⟨"3", "store", "2", .open, [⟨"1", 2, 0, 1⟩], "manager", start, start⟩] }
          start := rfl
  have hreceipt : (till lifetime).apply Cache.access
      (world {
        products := (stocked start).products
        suppliers := (stocked start).suppliers
        orders := [⟨"3", "store", "2", .open, [⟨"1", 2, 0, 1⟩], "manager", start, start⟩] } start)
      (.request (ids "4") manager (.receiveOrder "3" [⟨"1", 2⟩])) =
        world { stocked start with shifts := [] } start := rfl
  have hshift : (till lifetime).apply Cache.access
      (world { stocked start with shifts := [] } start)
      (.request (ids "5") manager (.openShift 0)) = world (stocked start) start := rfl
  simp only [stocking, Engine.run_cons, hproduct, hsupplier, horder, hreceipt, hshift,
    Engine.run_nil]

theorem planSale_eq (lifetime : Int) (now : Instant) (id : String) {s : Store} {sh : Shift}
    (h : Engine.currentShift manager s = .ok sh) (hid : sh.id = "5") :
    (till lifetime).planSale (ids id) now manager cart (claim lifetime now) s =
      .ok (Engine.saleUnit (ids id) (claim lifetime now) (sold id now)) := by
  have hcheck : cart.check = .ok () := by decide +kernel
  have htotals : Pricing.computeTotals cart.lines cart.discount ⟨0⟩ cart.manual =
      .ok ⟨5, 0, 0, 5⟩ := by decide +kernel
  rw [Engine.planSale_of_isSold (Engine.currentShift_eq_ok.1 h) ⟨hcheck, rfl, htotals⟩, hid]
  rfl

theorem demand_eq (id : String) (now : Instant) :
    Store.demand (Engine.saleMovements (ids id) (sold id now)) = .ok [("1", 1)] :=
  Store.demand_singleton (m := ⟨id, "1", "store", -1, .sale, id, now⟩) (Int.negSucc_lt_zero 0)
    (by decide : Cents.Fits 1)

theorem unvoided_eq (id : String) (now : Instant) :
    Store.unvoided (sold id now) = sold id now := by
  simp only [Store.unvoided, sold, List.mergeSort_singleton]

theorem first_sale :
    (till lifetime).sale (ids "6") start manager cart (claim lifetime start) (stocked start) =
      .ok (sold "6" start, soldOnce lifetime start) := by
  have hplan := planSale_eq lifetime start "6" (s := stocked start) rfl rfl
  simp only [Engine.sale, hplan, bind, Except.bind, Store.commitSale, Engine.saleUnit,
    Store.testAvailable, demand_eq, Store.addTransaction, unvoided_eq]
  rfl

theorem second_sale
    (free : Engine.KeyUse.record? ⟨"store", "manager", "key", now⟩ (soldOnce lifetime start) =
      none) :
    ∃ after, (till lifetime).sale (ids "7") now manager cart (claim lifetime now)
      (soldOnce lifetime start) = .ok (sold "7" now, after) ∧
      after.transactions = [sold "6" start, sold "7" now] := by
  have hplan := planSale_eq lifetime now "7" (s := soldOnce lifetime start) rfl rfl
  have hkey := Store.claimKey_of_free
    (r := (claim lifetime now).record (some "7") (.success (sold "7" now).toJson)) free
  have hid : (sold "7" now).id = "7" := rfl
  have hcreated : (sold "7" now).createdAt = now := rfl
  simp only [Engine.sale, hplan, bind, Except.bind, Store.commitSale, Engine.saleUnit,
    Store.testAvailable, demand_eq, Store.addTransaction, unvoided_eq, hid, hcreated, hkey]
  exact ⟨_, rfl, rfl⟩

/-- The one record there is has expired for the store. -/
theorem record?_soldOnce (hkept : Instant.keptBefore now (start.shift lifetime) = false) :
    Engine.KeyUse.record? ⟨"store", "manager", "key", now⟩ (soldOnce lifetime start) = none := by
  refine List.find?_eq_none.2 ?_
  intro r hr
  obtain rfl := List.mem_singleton.1 hr
  rw [Store.isLive, OutcomeRecord.kept]
  simp only [Claim.record, claim, hkept, Bool.and_false, Bool.false_eq_true, not_false_iff]

/-- The key can be claimed where no record is found and the end of its lifetime can be told. -/
theorem claims_of_free {s : Store} (h : (now.shift lifetime).IsRepresentable)
    (free : Engine.KeyUse.record? ⟨"store", "manager", "key", now⟩ s = none) :
    Claims (till lifetime).keyLifetime ⟨manager.store, manager.cashier, "key", now⟩ s
      (claim lifetime now) := by
  have hkey : Field.key "key" = .ok () := by decide +kernel
  exact ⟨hkey, free, Claim.make_eq_ok.2 ⟨h, rfl⟩⟩

/-- A request to sell as a step. -/
def checkout (id : String) : Step Cache := .request (ids id) manager (.checkout cart "key")

theorem store_checkout {w : World Cache} (id : String) {t : Transaction} {after : Store}
    (h : (w.now.shift lifetime).IsRepresentable)
    (free : Engine.KeyUse.record? ⟨"store", "manager", "key", w.now⟩ w.store = none)
    (body : (till lifetime).sale (ids id) w.now manager cart (claim lifetime w.now) w.store =
      .ok (t, after)) :
    ((till lifetime).apply Cache.access w (checkout id)).store = after := by
  rw [checkout, Engine.apply, Engine.handle, Engine.mapAnswer_snd, Engine.checkout_store,
    Engine.sellOnce_of_sale (claims_of_free h free) body]

/-- **After the first sale** a till goes on from a world whose store has that sale. -/
theorem run_checkout (hstart : (start.shift lifetime).IsRepresentable)
    (rest : List (Step Cache)) :
    ∃ w : World Cache, w.store = soldOnce lifetime start ∧ w.now = start ∧
      (till lifetime).run Cache.access (World.empty start .absent)
        (stocking ++ checkout "6" :: rest) = (till lifetime).run Cache.access w rest := by
  refine ⟨_, store_checkout "6" (w := world (stocked start) start) hstart rfl first_sale,
    Engine.handle_now .., ?_⟩
  rw [Engine.run_append, run_stocking, Engine.run_cons]

/-- The steps of a till that sells at one instant and at another. -/
def steps (now : Instant) : List (Step Cache) :=
  stocking ++ [checkout "6", .time now, checkout "7"]

/-- **Where a lifetime is not kept, a till sells twice under one key.** -/
theorem transactions_run (hstart : (start.shift lifetime).IsRepresentable)
    (hnow : (now.shift lifetime).IsRepresentable)
    (hkept : Instant.keptBefore now (start.shift lifetime) = false) :
    ((till lifetime).run Cache.access (World.empty start .absent) (steps now)).store.transactions =
      [sold "6" start, sold "7" now] := by
  obtain ⟨w, hfirst, -, hrun⟩ := run_checkout hstart [.time now, checkout "7"]
  rw [steps, hrun]
  simp only [Engine.run_cons, Engine.run_nil]
  have hfree := record?_soldOnce hkept
  obtain ⟨after, hsale, htransactions⟩ := second_sale hfree
  have hsecond := store_checkout "7" (w := (till lifetime).apply Cache.access w (.time now)) hnow
    (hfirst ▸ hfree) (hfirst ▸ hsale)
  rw [hsecond, htransactions]

end DoubleSale

/-! ### Which clocks will do -/

namespace Engine

variable {shown : Instant → Prop}

theorem keepsLifetimes_of_oncePerKey {lifetime : Int}
    (hshown : ∀ t, shown t → (t.shift lifetime).IsRepresentable)
    (h : (DoubleSale.till lifetime).OncePerKey Cache.access shown) :
    KeepsLifetimes lifetime shown := by
  intro start now hstart hnow hle hlt
  cases hkept : Instant.keptBefore now (start.shift lifetime) with
  | true => rfl
  | false =>
    -- The till sells at the two instants, less than a lifetime apart.
    have hforward : Forward shown start (DoubleSale.steps now) := ⟨hle, hnow, trivial⟩
    have hapart := h.apart .absent hstart hforward
    rw [DoubleSale.transactions_run (hshown start hstart) (hshown now hnow) hkept] at hapart
    obtain ⟨hpair, -⟩ := List.pairwise_cons.1 hapart
    exact absurd hlt (Int.not_lt.2 (hpair _ List.mem_cons_self ⟨rfl, rfl, rfl⟩))

/-- **In the years 0 to 9999** lifetimes are kept. -/
theorem keepsLifetimes_of_plainYears (lifetime : Int) :
    KeepsLifetimes lifetime fun t => t.hasPlainYear ∧ (t.shift lifetime).hasPlainYear := by
  rintro start now ⟨-, hend⟩ ⟨hnow, -⟩ - hlt
  rw [Instant.keptBefore, hnow, hend]
  exact decide_eq_true hlt

theorem isRepresentable_of_hasPlainYear {t : Instant} (h : t.hasPlainYear = true) :
    t.IsRepresentable := by
  simp only [Instant.hasPlainYear, Bool.and_eq_true, decide_eq_true_eq] at h
  obtain ⟨hlow, hhigh⟩ := h
  have hfirst : Instant.startOfYear (-262143) ≤ Instant.startOfYear 0 := by decide
  have hlast : Instant.startOfYear 10000 ≤ Instant.startOfYear 262143 := by decide
  exact ⟨Int.le_trans hfirst hlow, Int.lt_of_lt_of_le hhigh hlast⟩

/-- **A till keeps its promises about keys exactly if lifetimes are kept**, which depends on the
instants that its clock shows, all of them early enough for a lifetime to be represented. -/
theorem oncePerKey_iff {lifetime : Int}
    (hshown : ∀ t, shown t → t.IsRepresentable ∧ (t.shift lifetime).IsRepresentable) :
    (∀ (κ : Type) (e : Engine) (c : CacheAccess κ), e.keyLifetime = lifetime →
      e.OncePerKey c shown) ↔ KeepsLifetimes lifetime shown := by
  constructor
  · intro h
    exact keepsLifetimes_of_oncePerKey (fun t ht => (hshown t ht).2)
      (h Cache (DoubleSale.till lifetime) Cache.access rfl)
  · rintro keeps κ e c rfl
    exact oncePerKey_of_keepsLifetimes keeps (fun t ht => (hshown t ht).1) c

/-- Under keys that last for a day, a clock in the years 0 to 9999 will do. -/
theorem oncePerKey_day :
    let shown : Instant → Prop := fun t =>
      t.hasPlainYear ∧ (t.shift 86400000000000).hasPlainYear
    (∀ t, shown t → t.IsRepresentable ∧ (t.shift 86400000000000).IsRepresentable) ∧
      ∀ (κ : Type) (e : Engine) (c : CacheAccess κ), e.keyLifetime = 86400000000000 →
        e.OncePerKey c shown := by
  intro shown
  have hshown : ∀ t, shown t → t.IsRepresentable ∧ (t.shift 86400000000000).IsRepresentable := by
    rintro t ⟨hplain, hend⟩
    exact ⟨isRepresentable_of_hasPlainYear hplain, isRepresentable_of_hasPlainYear hend⟩
  exact ⟨hshown, (oncePerKey_iff hshown).2 (keepsLifetimes_of_plainYears _)⟩

/-- At noon of 9999-12-31, a till whose keys last for a day does not keep its promises. -/
theorem not_oncePerKey_lastNoon :
    let noon := Instant.ofMinute (Calendar.yearStart 10000 * 1440 - 720) 0
    (noon.IsRepresentable ∧ (noon.shift 86400000000000).IsRepresentable) ∧
      ¬(DoubleSale.till 86400000000000).OncePerKey Cache.access fun t => t = noon := by
  intro noon
  have hnoon : noon.IsRepresentable ∧ (noon.shift 86400000000000).IsRepresentable := by
    decide +kernel
  refine ⟨hnoon, ?_⟩
  intro h
  -- The end of the day is written with a sign, which comes before all digits.
  have hkept := keepsLifetimes_of_oncePerKey (fun t ht => ht ▸ hnoon.2) h noon noon rfl rfl
    (Int.le_refl _) (by decide +kernel)
  have hlost : Instant.keptBefore noon (noon.shift 86400000000000) = false := by decide +kernel
  rw [hlost] at hkept
  cases hkept

end Engine

end Till
