import Till.Proofs.Advice
import Till.Proofs.Once
import Till.Proofs.Plans

/-!
# What requests do

`Deed e ids actor now s r after` lists what can come of a request of an actor for the store: a
constructor for each kind of request that may change it, with the plan that was made and the tests
that it passed.

* `Engine.handle_booked` : a request to book something fails and leaves the world as it was, or its
  deed is done;
* `Engine.handle_deed` : whatever is asked, the store stays as it is or a deed is done.
-/

namespace Till

/-- **What a request of an actor does** to a store at an instant. -/
inductive Deed (e : Engine) (ids : Ids) (actor : Actor) (now : Instant) (s : Store) :
    Request → Store → Prop
  /-- A shift begins. -/
  | shiftOpened {cash : Int} {sh : Shift} {after : Store}
      (start : Shift.start ids.subject actor.cashier actor.store cash now = .ok sh)
      (added : s.addShift sh = .ok after) : Deed e ids actor now s (.openShift cash) after
  /-- A shift ends. -/
  | shiftClosed {cash : Int} {closed sh : Shift} {closure : ShiftClosure} {ev : DrawerEvent}
      (handles : actor.Handles sh)
      (close : sh.IsClose ids.event cash now closed closure)
      (fits : s.CloseFits closed sh ev) :
      Deed e ids actor now s (.closeShift sh.id cash) (s.afterClose closed ev)
  /-- An entry is made by hand. -/
  | entryRecorded {entry : DrawerEntry} {sh : Shift} {ev : DrawerEvent}
      (check : Engine.checkManualEntry entry = .ok ())
      (handles : actor.Handles sh)
      (place : ev = entry.place ids.event sh.id (Store.nextSeq sh.events) now)
      (appends : s.Appends sh ev) :
      Deed e ids actor now s (.recordEntry sh.id entry) (s.logged ev)
  /-- A cart is sold. -/
  | sold {cart : Cart} {key : String} {claim : Claim} {u : SaleUnit} {sh : Shift} {ev : DrawerEvent}
      (claims : Claims e.keyLifetime ⟨actor.store, actor.cashier, key, now⟩ s claim)
      (plan : e.planSale ids now actor cart claim s = .ok u)
      (fits : s.SaleFits u sh ev) : Deed e ids actor now s (.checkout cart key) (s.afterSale u ev)
  /-- The refusal of a cart is remembered. -/
  | refused {cart : Cart} {key : String} {claim : Claim} {reason : Rejection}
      (claims : Claims e.keyLifetime ⟨actor.store, actor.cashier, key, now⟩ s claim)
      (refusal : e.sale ids now actor cart claim s = .error (.rejected reason))
      (kind : reason.kind = .validation) :
      Deed e ids actor now s (.checkout cart key)
        (s.remembered (claim.record none (.ofRejection reason)) now)
  /-- A transaction is voided. -/
  | voided {reason : String} {sh sh' : Shift} {t : Transaction} {u : VoidUnit} {ev : DrawerEvent}
      (plan : e.VoidPlanned ids now actor reason s sh t u)
      (fits : s.VoidFits u t sh' ev) : Deed e ids actor now s (.void t.id reason) (s.afterVoid u ev)
  /-- A part of a transaction is refunded. -/
  | refunded {amount : Int} {reason : String} {sh sh' : Shift} {t refunded : Transaction}
      {units : List RestockLine} {u : RefundUnit} {ev : DrawerEvent}
      (elevated : actor.isElevated = true)
      (shift : s.openShift? actor.cashier actor.store = some sh)
      (owned : t.store = actor.store)
      (plan : t.IsRefund amount refunded units)
      (unit : u = Engine.refundUnit ids now actor sh.id amount reason t refunded units)
      (fits : s.RefundFits u t sh' ev) :
      Deed e ids actor now s (.refund t.id amount reason) (s.afterRefund u ev)
  /-- A product is registered. -/
  | productAdded {p : NewProduct} {after : Store}
      (check : p.check = .ok ())
      (added : s.addProduct (p.register ids.subject actor.store now) = .ok after) :
      Deed e ids actor now s (.registerProduct p) after
  /-- A supplier is registered. -/
  | supplierAdded {p : NewSupplier} {after : Store}
      (check : p.check = .ok ())
      (added : s.addSupplier (p.register ids.subject actor.store now) = .ok after) :
      Deed e ids actor now s (.registerSupplier p) after
  /-- An order is made. -/
  | orderAdded {o : NewOrder} {after : Store}
      (elevated : actor.isElevated = true)
      (check : o.check = .ok ())
      (products : Engine.requireProducts s actor.store o.products = .ok ())
      (added : s.addOrder (o.make ids.subject actor now) = .ok after)
      (supplier : (s.supplier? actor.store o.supplier).isSome = true) :
      Deed e ids actor now s (.createOrder o) after
  /-- Units of an order arrive. -/
  | received {lines : List ReceiptLine} {o received : PurchaseOrder} {u : ReceiptUnit}
      {booked : List OrderLine}
      (check : Engine.checkReceipt lines = .ok ())
      (owned : o.store = actor.store)
      (receive : o.receive lines now = .ok received)
      (unit : u = ⟨o.store, o.id, lines, Engine.receiptMovements ids o lines now, now⟩)
      (fits : s.ReceiptFits u o booked) :
      Deed e ids actor now s (.receiveOrder o.id lines) (s.afterReceipt u booked)

/-- Whether a request books something if it succeeds.  A cart may have been sold before, and who
looks at the store changes nothing. -/
def Request.books : Request → Bool
  | .openShift _ | .closeShift _ _ | .recordEntry _ _ | .void _ _ | .refund _ _ _
  | .registerProduct _ | .registerSupplier _ | .createOrder _ | .receiveOrder _ _ => true
  | _ => false

/-- The kind of event that a request leaves in the log of a shift, if a transaction stands behind
it. -/
def Request.leaves : Request → Option DrawerKind
  | .checkout _ _ => some .sale
  | .void _ _ => some .voidReversal
  | .refund _ _ _ => some .refund
  | _ => none

/-- **A deed behind which no transaction stands** keeps transactions and refunds. -/
theorem Deed.keeps_ledger {e : Engine} {ids : Ids} {actor : Actor} {now : Instant}
    {s after : Store} {r : Request} (h : Deed e ids actor now s r after)
    (hleaves : r.leaves = none) :
    after.transactions = s.transactions ∧ after.refunds = s.refunds := by
  cases h with
  | shiftOpened start added =>
    obtain ⟨-, -, -, rfl⟩ := Store.addShift_eq_ok.1 added
    exact ⟨rfl, rfl⟩
  | productAdded check added =>
    obtain ⟨-, -, -, rfl⟩ := Store.addProduct_eq_ok.1 added
    exact ⟨rfl, rfl⟩
  | supplierAdded check added =>
    obtain ⟨-, rfl⟩ := Store.addSupplier_eq_ok.1 added
    exact ⟨rfl, rfl⟩
  | orderAdded elevated check products added =>
    obtain ⟨-, -, -, -, rfl⟩ := Store.addOrder_eq_ok.1 added
    exact ⟨rfl, rfl⟩
  | shiftClosed | entryRecorded | received => exact ⟨rfl, rfl⟩
  | sold | refused | voided | refunded => cases hleaves

/-- **What comes of a request to book something**: it fails and leaves the world as it was, or its
deed is done. -/
inductive Booked {κ : Type} (e : Engine) (ids : Ids) (actor : Actor) (r : Request) (w : World κ) :
    Result Reply × World κ → Prop
  /-- The request fails. -/
  | failed {fault : Fault Rejection} : Booked e ids actor r w (.error fault, w)
  /-- The deed is done. -/
  | done {reply : Reply} {after : Store} (deed : Deed e ids actor w.now w.store r after) :
      Booked e ids actor r w (.ok reply, { w with store := after })

section

variable {κ : Type} {e : Engine} {ids : Ids} {actor : Actor} {r : Request} {w : World κ}
  {done : Result Reply × World κ}

theorem Booked.deed (h : Booked e ids actor r w done) :
    done.2.store = w.store ∨ Deed e ids actor w.now w.store r done.2.store := by
  cases h with
  | failed => exact .inl rfl
  | done deed => exact .inr deed

/-- A request that fails leaves the world as it was. -/
theorem Booked.kept (h : Booked e ids actor r w done) {fault : Fault Rejection}
    (hfails : done.1 = .error fault) : done.2 = w := by
  cases h with
  | failed => rfl
  | done deed => cases hfails

/-- A request that succeeds does its deed. -/
theorem Booked.deed_of_ok (h : Booked e ids actor r w done) {reply : Reply}
    (hok : done.1 = .ok reply) : Deed e ids actor w.now w.store r done.2.store := by
  cases h with
  | failed => cases hok
  | done deed => exact deed

/-- A request whose deed cannot be done fails. -/
theorem Booked.fails (h : Booked e ids actor r w done)
    (hcannot : ∀ after, ¬Deed e ids actor w.now w.store r after) :
    ∃ fault, done = (.error fault, w) := by
  cases h with
  | failed => exact ⟨_, rfl⟩
  | done deed => exact absurd deed (hcannot _)

end

namespace Engine

variable {κ : Type} {e : Engine} {c : CacheAccess κ} {ids : Ids} {now : Instant} {actor : Actor}
  {s : Store} {w : World κ}

/-! ### Shifts -/

theorem openShift_deed {cash : Int} {sh : Shift} {after : Store}
    (h : openShift ids now actor cash s = (.ok sh, after)) :
    Deed e ids actor now s (.openShift cash) after := by
  simp only [openShift, Action.transact_eq_ok, Outcome.bind_eq_ok, Stored.result_eq_ok,
    Outcome.pure_eq_ok, Prod.mk.injEq] at h
  obtain ⟨_, hstart, _, hadded, rfl, rfl⟩ := h
  exact .shiftOpened hstart hadded

theorem closeShift_deed {id : String} {cash : Int} {closure : ShiftClosure} {after : Store}
    (h : e.closeShift ids now actor id cash s = (.ok closure, after)) :
    Deed e ids actor now s (.closeShift id cash) after := by
  simp only [closeShift, RetryPolicy.runWhen, RetryPolicy.attempt_transact, Action.transact_eq_ok,
    Outcome.bind_eq_ok, Stored.result_eq_ok, Outcome.pure_eq_ok, Prod.mk.injEq] at h
  obtain ⟨⟨closed, _⟩, hplan, _, hclose, rfl, rfl⟩ := h
  obtain ⟨sh, hfound, rfl, hhandles, hisClose⟩ := planClose_eq_ok hplan
  obtain ⟨sh', ev, hfits, rfl⟩ := Store.closeShift_eq_ok hclose
  -- The plan keeps the identifier of the shift, so both have found the same shift.
  have hsame : sh' = sh := by
    have hid : closed.id = sh.id := by rw [hisClose.closed]; rfl
    have := hfits.found
    rw [hid, hfound] at this
    exact (Option.some.inj this).symm
  subst hsame
  exact .shiftClosed hhandles hisClose hfits

/-- **An entry that is recorded** goes to the log of the shift that was tested. -/
theorem recordEntry_eq_ok {id : String} {entry : DrawerEntry} {ev : DrawerEvent} {after : Store}
    (h : recordEntry ids now actor id entry s = (.ok ev, after)) :
    checkManualEntry entry = .ok () ∧ ∃ sh, sh.id = id ∧ actor.Handles sh ∧
      ev = entry.place ids.event sh.id (Store.nextSeq sh.events) now ∧ s.Appends sh ev ∧
      after = s.logged ev := by
  simp only [recordEntry, Action.transact_eq_ok, Outcome.bind_eq_ok, Field.Check.run_eq_ok,
    Stored.result_eq_ok, Outcome.pure_eq_ok, Prod.mk.injEq] at h
  obtain ⟨_, hcheck, sh, howned, _, -, ⟨_, _⟩, happend, rfl, rfl⟩ := h
  obtain ⟨hfound, hid, hhandles⟩ := ownedShift_eq_ok howned
  obtain ⟨sh', hplace, happends, rfl⟩ := Store.appendEntry_eq_ok happend
  have hsame : sh' = sh := by
    have := happends.found
    rw [hplace] at this
    rw [← hid] at hfound
    exact Option.some.inj (this.symm.trans hfound)
  subst hsame
  exact ⟨hcheck, sh', hid, hhandles, hplace, happends, rfl⟩

theorem recordEntry_deed {id : String} {entry : DrawerEntry} {ev : DrawerEvent} {after : Store}
    (h : recordEntry ids now actor id entry s = (.ok ev, after)) :
    Deed e ids actor now s (.recordEntry id entry) after := by
  obtain ⟨hcheck, sh, rfl, hhandles, hplace, happends, rfl⟩ := recordEntry_eq_ok h
  exact .entryRecorded hcheck hhandles hplace happends

/-! ### Sales -/

theorem sellOnce_deed {cart : Cart} {key : String} {result : Result Transaction} {after : Store}
    (h : e.sellOnce ids now actor cart key s = (result, after)) :
    after = s ∨ Deed e ids actor now s (.checkout cart key) after := by
  have houtcome := e.sellOnce_outcome ids now actor cart key s
  rw [h] at houtcome
  cases houtcome with
  | malformed => exact .inl rfl
  | replayed => exact .inl rfl
  | endless => exact .inl rfl
  | failed => exact .inl rfl
  | refused claims body kind => exact .inr (.refused claims body kind)
  | done claims body =>
    simp only [sale, Outcome.bind_eq_ok, Stored.result_eq_ok, Outcome.pure_eq_ok,
      Prod.mk.injEq] at body
    obtain ⟨u, hplan, _, hcommit, -, rfl⟩ := body
    obtain ⟨sh, ev, hfits, rfl⟩ := Store.commitSale_eq_ok hcommit
    exact .inr (.sold claims hplan hfits)

theorem void_deed {id reason : String} {t : Transaction} {after : Store}
    (h : e.void ids now actor id reason s = (.ok t, after)) :
    Deed e ids actor now s (.void id reason) after := by
  simp only [void, Action.transact_eq_ok, Outcome.bind_eq_ok, Stored.result_eq_ok,
    Outcome.pure_eq_ok, Prod.mk.injEq] at h
  obtain ⟨⟨_, u⟩, hplan, _, hcommit, rfl, rfl⟩ := h
  obtain ⟨sh, t', rfl, hplanned, -⟩ := planVoid_eq_ok hplan
  obtain ⟨t'', sh', ev, hfits, rfl⟩ := Store.commitVoid_eq_ok hcommit
  -- The unit is booked on the transaction it was planned for.
  have hsame : t'' = t' := by
    have := hfits.found
    rw [hplanned.unit] at this
    have howned := (Store.transaction?_eq_some hplanned.found).2.2
    rw [voidUnit, howned, hplanned.found] at this
    exact (Option.some.inj this).symm
  subst hsame
  exact .voided hplanned hfits

theorem refund_eq (e : Engine) (ids : Ids) (now : Instant) (actor : Actor) (id : String)
    (amount : Int) (reason : String) :
    e.refund ids now actor id amount reason = Action.transact (fun s => do
      let shift ← refundShift actor reason s
      let unit ← planRefund ids now actor shift.id id amount reason s
      let after ← (s.commitRefund unit).result
      pure (unit.refund, after)) := by
  funext s
  simp only [refund, Action.andThen, Action.query, RetryPolicy.runWhen,
    RetryPolicy.attempt_transact]
  cases hshift : refundShift actor reason s with
  | error fault => simp [Action.transact, hshift, bind, Except.bind]
  | ok shift => simp [Action.transact, hshift, bind, Except.bind]

theorem refund_deed {id reason : String} {amount : Int} {r : Refund} {after : Store}
    (h : e.refund ids now actor id amount reason s = (.ok r, after)) :
    Deed e ids actor now s (.refund id amount reason) after := by
  rw [refund_eq] at h
  simp only [Action.transact_eq_ok, Outcome.bind_eq_ok, Stored.result_eq_ok, Outcome.pure_eq_ok,
    Prod.mk.injEq] at h
  obtain ⟨sh, hrefundShift, u, hplan, _, hcommit, rfl, rfl⟩ := h
  obtain ⟨helevated, hshift⟩ := refundShift_eq_ok hrefundShift
  obtain ⟨t, refunded, units, rfl, hfound, hrefund, hunit⟩ := planRefund_eq_ok hplan
  obtain ⟨t', sh', ev, hfits, rfl⟩ := Store.commitRefund_eq_ok hcommit
  have howned := (Store.transaction?_eq_some hfound).2.2
  have hsame : t' = t := by
    have := hfits.found
    rw [hunit, refundUnit, howned, hfound] at this
    exact (Option.some.inj this).symm
  subst hsame
  exact .refunded helevated hshift howned hrefund hunit hfits

/-! ### Products, suppliers and orders -/

theorem registerProduct_deed {p : NewProduct} {q : Product} {after : Store}
    (h : registerProduct ids now actor p s = (.ok q, after)) :
    Deed e ids actor now s (.registerProduct p) after := by
  simp only [registerProduct, Action.transact_eq_ok, Outcome.bind_eq_ok, Field.Check.run_eq_ok,
    Stored.result_eq_ok, Outcome.pure_eq_ok, Prod.mk.injEq] at h
  obtain ⟨_, hcheck, _, hadded, rfl, rfl⟩ := h
  exact .productAdded hcheck hadded

theorem registerSupplier_deed {p : NewSupplier} {q : Supplier} {after : Store}
    (h : registerSupplier ids now actor p s = (.ok q, after)) :
    Deed e ids actor now s (.registerSupplier p) after := by
  simp only [registerSupplier, Action.transact_eq_ok, Outcome.bind_eq_ok, Field.Check.run_eq_ok,
    Stored.result_eq_ok, Outcome.pure_eq_ok, Prod.mk.injEq] at h
  obtain ⟨_, hcheck, _, hadded, rfl, rfl⟩ := h
  exact .supplierAdded hcheck hadded

theorem createOrder_deed {o : NewOrder} {made : PurchaseOrder} {after : Store}
    (h : createOrder ids now actor o s = (.ok made, after)) :
    Deed e ids actor now s (.createOrder o) after := by
  simp only [createOrder, Action.transact_eq_ok, Actor.requireElevated, Outcome.bind_eq_ok,
    Outcome.require_eq_ok, Field.Check.run_eq_ok, Stored.result_eq_ok, Outcome.pure_eq_ok,
    Prod.mk.injEq] at h
  obtain ⟨_, helevated, _, hcheck, _, hsupplier, _, hproducts, _, hadded, rfl, rfl⟩ := h
  exact .orderAdded helevated hcheck hproducts hadded hsupplier

theorem receiveOrder_deed {id : String} {lines : List ReceiptLine} {o : PurchaseOrder}
    {after : Store} (h : receiveOrder ids now actor id lines s = (.ok o, after)) :
    Deed e ids actor now s (.receiveOrder id lines) after := by
  simp only [receiveOrder, Action.transact_eq_ok, Outcome.bind_eq_ok, Stored.result_eq_ok,
    Outcome.pure_eq_ok, Prod.mk.injEq] at h
  obtain ⟨u, hplan, _, hcommit, _, -, rfl, rfl⟩ := h
  obtain ⟨hcheck, o', received, rfl, hfound, hreceive, hunit⟩ := planReceipt_eq_ok hplan
  obtain ⟨o'', booked, hfits, rfl⟩ := Store.commitReceipt_eq_ok hcommit
  have howned := (Store.order?_eq_some hfound).2.2
  have hsame : o'' = o' := by
    have := hfits.found
    rw [hunit] at this
    simp only [howned, hfound] at this
    exact (Option.some.inj this).symm
  subst hsame
  exact .received hcheck howned hreceive hunit hfits

/-! ### Failures of single operations -/

theorem closeShift_atomic (id : String) (cash : Int) :
    Action.Atomic (e.closeShift ids now actor id cash) := by
  intro s after fault h
  rw [closeShift, RetryPolicy.runWhen, RetryPolicy.attempt_transact] at h
  exact Action.transact_eq_error h

theorem refund_atomic (id reason : String) (amount : Int) :
    Action.Atomic (e.refund ids now actor id amount reason) := by
  rw [refund_eq]
  exact Action.atomic_transact _

/-! ### Requests -/

variable {α : Type}

@[simp] theorem look_snd (reply : α → Reply) (f : Store → Result α) (w : World κ) :
    (look reply f w).2 = w := by
  simp only [look, Action.mapAnswer, World.onStore, Action.query]
  split <;> next h => exact (Prod.mk.inj h).2.symm

@[simp] theorem change_store (reply : α → Reply) (step : Action Store α) (w : World κ) :
    (change reply step w).2.store = (step w.store).2 := by
  simp only [change, Action.mapAnswer, World.onStore]
  split <;> next h => rw [← (Prod.mk.inj h).2]

theorem mapAnswer_snd {σ β : Type} (f : α → β) (step : Action σ α) (s : σ) :
    (step.mapAnswer f s).2 = (step s).2 := by
  unfold Action.mapAnswer
  split <;> next h => rw [h]

/-- A step that does its deed if it succeeds, and leaves the store alone otherwise. -/
theorem change_booked {r : Request} {reply : α → Reply} {step : Action Store α}
    (hatomic : Action.Atomic step)
    (hok : ∀ {a after}, step w.store = (.ok a, after) →
      Deed e ids actor w.now w.store r after) :
    Booked e ids actor r w (change reply step w) := by
  cases h : step w.store with
  | mk result after =>
    simp only [change, Action.mapAnswer, World.onStore, h]
    cases result with
    | ok a => exact .done (hok h)
    | error fault =>
      obtain rfl := hatomic h
      exact .failed

/-- **A request to book something** fails and leaves the world as it was, or its deed is done. -/
theorem handle_booked (e : Engine) (c : CacheAccess κ) (ids : Ids) (actor : Actor) {r : Request}
    (hbooks : r.books = true) (w : World κ) :
    Booked e ids actor r w (e.handle c ids actor r w) := by
  cases r with
  | openShift cash => exact change_booked (Action.atomic_transact _) openShift_deed
  | closeShift id cash => exact change_booked (closeShift_atomic id cash) closeShift_deed
  | recordEntry id entry => exact change_booked (Action.atomic_transact _) recordEntry_deed
  | void id reason => exact change_booked (Action.atomic_transact _) void_deed
  | refund id amount reason => exact change_booked (refund_atomic id reason amount) refund_deed
  | registerProduct p => exact change_booked (Action.atomic_transact _) registerProduct_deed
  | registerSupplier p => exact change_booked (Action.atomic_transact _) registerSupplier_deed
  | createOrder o => exact change_booked (Action.atomic_transact _) createOrder_deed
  | receiveOrder id lines => exact change_booked (Action.atomic_transact _) receiveOrder_deed
  | _ => cases hbooks

/-- **Whatever is asked, the store stays as it is or a deed is done.** -/
theorem handle_deed (e : Engine) (c : CacheAccess κ) (ids : Ids) (actor : Actor) (r : Request)
    (w : World κ) :
    (e.handle c ids actor r w).2.store = w.store ∨
      Deed e ids actor w.now w.store r (e.handle c ids actor r w).2.store := by
  cases hbooks : r.books with
  | true => exact (e.handle_booked c ids actor hbooks w).deed
  | false =>
    cases r with
    | checkout cart key =>
      simp only [handle, mapAnswer_snd, checkout_store]
      exact sellOnce_deed rfl
    | recommend cart =>
      simp only [handle, mapAnswer_snd, recommend_store]
      exact .inl trivial
    | currentShift | shiftReport | transaction | refunds | transactions | product | order
    | stockLevel | stockMovements => exact .inl (by simp [handle])
    | _ => cases hbooks

end Engine

end Till
