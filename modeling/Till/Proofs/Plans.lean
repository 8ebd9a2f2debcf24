import Till.Engine.Request
import Till.Proofs.Units

/-!
# What the operations plan

Before an operation books anything it computes what is to be booked.  The statements of this file
say what a plan looks like when there is one:

* `Engine.planSale_eq_ok`, with `Transaction.ofCart_eq_ok` for the priced cart, and its converse
  `Engine.planSale_of_isSold`;
* `Engine.planVoid_eq_ok`, `Engine.planRefund_eq_ok`, with `Transaction.void_eq_ok` and
  `Transaction.refund_eq_ok` for the transaction;
* `Engine.planReceipt_eq_ok` and `Engine.planClose_eq_ok`, with `Actor.Handles` for the shift that
  an actor may deal with.
-/

namespace Till

/-! ### Finding rows -/

namespace Store

variable {s : Store}

theorem shift?_eq_some {id : String} {sh : Shift} (h : s.shift? id = some sh) :
    sh ∈ s.shifts ∧ sh.id = id :=
  ⟨List.mem_of_find?_eq_some h, by simpa using List.find?_some h⟩

theorem openShift?_eq_some {cashier store : String} {sh : Shift}
    (h : s.openShift? cashier store = some sh) :
    sh ∈ s.shifts ∧ sh.cashier = cashier ∧ sh.store = store ∧ sh.isOpen = true := by
  refine ⟨List.mem_of_find?_eq_some h, ?_⟩
  simpa [and_assoc] using List.find?_some h

theorem transaction?_eq_some {store id : String} {t : Transaction}
    (h : s.transaction? store id = some t) :
    t ∈ s.transactions ∧ t.id = id ∧ t.store = store := by
  refine ⟨List.mem_of_find?_eq_some h, ?_⟩
  simpa using List.find?_some h

theorem order?_eq_some {store id : String} {o : PurchaseOrder} (h : s.order? store id = some o) :
    o ∈ s.orders ∧ o.id = id ∧ o.store = store := by
  refine ⟨List.mem_of_find?_eq_some h, ?_⟩
  simpa using List.find?_some h

end Store

/-! ### Field rules -/

theorem Field.positive_eq_ok {field : String} {n : Int} {u : Unit} :
    Field.positive field n = .ok u ↔ 0 < n := by
  rw [Field.positive]
  by_cases h : n ≤ 0
  · rw [if_pos h]
    simp
    omega
  · rw [if_neg h]
    simp
    omega

theorem Field.notNegative_eq_ok {field : String} {n : Int} {u : Unit} :
    Field.notNegative field n = .ok u ↔ 0 ≤ n := by
  rw [Field.notNegative]
  by_cases h : n < 0
  · rw [if_pos h]
    simp
    omega
  · rw [if_neg h]
    simp
    omega

/-- A reason is in order if it is not blank and takes at most five hundred bytes. -/
theorem Field.reason_eq_ok {field s : String} {u : Unit} :
    Field.reason field s = .ok u ↔ Text.isBlankText s = false ∧ s.utf8ByteSize ≤ 500 := by
  simp only [reason, notBlank, notLonger, Outcome.bind_eq_ok]
  by_cases hblank : Text.isBlankText s = true
  · simp [hblank]
  · by_cases hlong : s.utf8ByteSize > 500
    · simp [hlong]
    · simp [hblank, hlong, Nat.not_lt.1 hlong]

/-! ### Transactions -/

namespace Transaction

/-- The completed transaction of a cart with given totals. -/
def sold (cart : Cart) (c : SaleContext) (pricing : PricingRecord) (totals : Totals) :
    Transaction where
  id := c.id
  store := c.actor.store
  cashier := c.actor.cashier
  shift := c.shift
  key := c.key
  lines := numberedLines 1 cart.lines
  subtotal := totals.subtotal
  discount := totals.discount
  tax := totals.tax
  grand := totals.grand
  taxRate := c.rate.bps
  payment := cart.payment
  status := .completed
  pricing
  refunded := 0
  createdAt := c.at'
  voidedAt := none
  voidReason := none
  voidedBy := none

/-- The cart passes its rules and has these totals, whose origin is recorded. -/
structure IsSold (cart : Cart) (c : SaleContext) (pricing : PricingRecord) (totals : Totals) :
    Prop where
  check : cart.check = .ok ()
  pricing : pricingRecord c.actor cart.manual = .ok pricing
  totals : Pricing.computeTotals cart.lines cart.discount c.rate cart.manual = .ok totals

theorem ofCart_eq_ok {cart : Cart} {c : SaleContext} {t : Transaction} (h : ofCart cart c = .ok t) :
    ∃ pricing totals, IsSold cart c pricing totals ∧
      t = { sold cart c pricing totals with status := .pending } := by
  simp only [ofCart, Outcome.bind_eq_ok, Field.Check.run_eq_ok, Outcome.mapRejection_eq_ok,
    Outcome.pure_eq_ok] at h
  obtain ⟨_, hcheck, pricing, hpricing, totals, htotals, rfl⟩ := h
  exact ⟨pricing, totals, ⟨hcheck, hpricing, htotals⟩, rfl⟩

theorem complete_eq_ok {t completed : Transaction} : t.complete = .ok completed ↔
    t.status = .pending ∧ completed = { t with status := .completed } := by
  have hcan : t.status.canBecome .completed = true ↔ t.status = .pending := by
    cases t.status <;> decide
  rw [← hcan, complete]
  split
  · next hcompletes => rw [Outcome.pure_eq_ok, and_iff_right hcompletes, eq_comm]
  · next hfails => simp [hfails]

theorem checkVoidable_eq_ok {t : Transaction} {now : Instant} {window : Int} {u : Unit} :
    t.checkVoidable now window = .ok u ↔
      t.status = .completed ∧ t.refunded = 0 ∧ now.since t.createdAt ≤ window := by
  unfold checkVoidable
  split
  · next hvoided => simp [hvoided]
  · split
    · next hopen => simp [hopen.1, hopen.2]
    · next hclosed =>
      simp only [Outcome.reject_ne_ok, false_iff]
      exact fun h => hclosed ⟨h.1, h.2.1⟩

theorem void_eq_ok {t voided : Transaction} {reason approver : String} {now : Instant}
    {window : Int} (h : t.void reason approver now window = .ok voided) :
    (t.status = .completed ∧ t.refunded = 0 ∧ now.since t.createdAt ≤ window) ∧
      voided = { t with
        status := .voided
        voidedAt := some now
        voidReason := some reason
        voidedBy := some approver } := by
  simp only [void, Outcome.bind_eq_ok, checkVoidable_eq_ok, Outcome.pure_eq_ok] at h
  obtain ⟨_, -, _, hvoidable, rfl⟩ := h
  exact ⟨hvoidable, rfl⟩

theorem checkRefundable_eq_ok {t : Transaction} {amount : Int} {u : Unit} :
    t.checkRefundable amount = .ok u ↔ t.status = .completed := by
  unfold checkRefundable
  cases t.status <;> simp

/-- What a refund of an amount does to a transaction. -/
structure IsRefund (t : Transaction) (amount : Int) (refunded : Transaction)
    (units : List RestockLine) : Prop where
  positive : 0 < amount
  completed : t.status = .completed
  /-- There is as much to refund. -/
  enough : amount ≤ t.grand - t.refunded
  /-- The units that are newly covered. -/
  units : t.restock t.refunded (t.refunded + amount) = .ok units
  refunded : refunded = { t with
    refunded := t.refunded + amount
    status := if t.refunded + amount = t.grand then .refunded else .completed }

theorem IsRefund.unvoided {t refunded : Transaction} {amount : Int} {units : List RestockLine}
    (h : t.IsRefund amount refunded units) : refunded.status ≠ .voided := by
  rw [h.refunded]
  by_cases hall : t.refunded + amount = t.grand <;> simp [hall]

theorem refund_eq_ok {t refunded : Transaction} {amount : Int} {units : List RestockLine}
    (h : t.refund amount = .ok (refunded, units)) : t.IsRefund amount refunded units := by
  simp only [refund, Outcome.bind_eq_ok, Field.Check.run_eq_ok, checkRefundable_eq_ok, refundable,
    Cents.exact_eq_ok] at h
  obtain ⟨_, hpositive, _, hcompleted, _, ⟨-, rfl⟩, h⟩ := h
  by_cases henough : amount > t.grand - t.refunded
  · rw [if_pos henough] at h
    cases h
  · rw [if_neg henough] at h
    simp only [Outcome.bind_eq_ok, Cents.exact_eq_ok, Outcome.pure_eq_ok, Prod.mk.injEq] at h
    obtain ⟨_, ⟨-, rfl⟩, _, hunits, rfl, rfl⟩ := h
    exact ⟨Field.positive_eq_ok.1 hpositive, hcompleted, by omega, hunits, by rw [hcompleted]⟩

end Transaction

/-! ### Shifts -/

/-- **An actor handles a shift**: it is of the actor's store, and the actor is its cashier or
elevated. -/
structure Actor.Handles (actor : Actor) (sh : Shift) : Prop where
  store : sh.store = actor.store
  cashier : sh.cashier = actor.cashier ∨ actor.isElevated = true

/-- What closing a shift does to it. -/
structure Shift.IsClose (sh : Shift) (id : String) (cash : Int) (now : Instant) (closed : Shift)
    (closure : ShiftClosure) : Prop where
  isOpen : sh.isOpen = true
  notNegative : 0 ≤ cash
  expected : sh.expectedCash = .ok closure.expectedCash
  figures : closure = ⟨closure.expectedCash, cash, cash - closure.expectedCash⟩
  closed : closed = { (sh.append id { kind := .close, amount := cash } now).1 with
    closedAt := some now
    closingCash := some cash
    variance := some closure.variance }

theorem Shift.close_eq_ok {sh closed : Shift} {id : String} {cash : Int} {now : Instant}
    {closure : ShiftClosure} (h : sh.close id cash now = .ok (closed, closure)) :
    sh.IsClose id cash now closed closure := by
  simp only [close, checkOpen, Outcome.bind_eq_ok, Outcome.require_eq_ok, Field.Check.run_eq_ok,
    Cents.exact_eq_ok, Outcome.pure_eq_ok, Prod.mk.injEq] at h
  obtain ⟨_, hopen, _, hcash, _, hexpected, _, ⟨-, rfl⟩, rfl, rfl⟩ := h
  exact ⟨hopen, Field.notNegative_eq_ok.1 hcash, hexpected, rfl, rfl⟩

/-- The event that ends the shift is the last of its log. -/
theorem Shift.IsClose.events {sh closed : Shift} {id : String} {cash : Int} {now : Instant}
    {closure : ShiftClosure} (h : sh.IsClose id cash now closed closure) :
    closed.events = sh.events ++
      [({ kind := .close, amount := cash } : DrawerEntry).place id sh.id
        (sh.events.length + 1) now] := by
  rw [h.closed]
  rfl

theorem Engine.checkManualEntry_eq_ok {entry : DrawerEntry} {u : Unit} :
    Engine.checkManualEntry entry = .ok u ↔
      (entry.kind = .cashIn ∨ entry.kind = .cashOut) ∧ 0 < entry.amount := by
  simp only [checkManualEntry, DrawerEntry.check]
  cases entry.kind <;> simp [Field.positive_eq_ok]

namespace Engine

variable {e : Engine} {ids : Ids} {now : Instant} {actor : Actor} {s : Store}

/-! ### Sales -/

theorem currentShift_eq_ok {sh : Shift} :
    currentShift actor s = .ok sh ↔ s.openShift? actor.cashier actor.store = some sh := by
  unfold currentShift Shift.requireOpen
  cases h : s.openShift? actor.cashier actor.store with
  | none => simp
  | some sh' => simp [(Store.openShift?_eq_some h).2.2.2]

theorem transaction_eq_ok {id : String} {t : Transaction} :
    transaction actor id s = .ok t ↔ s.transaction? actor.store id = some t :=
  Outcome.ofOption_eq_ok

/-- **A sale is planned**: the actor has an open shift, and the cart is priced in it. -/
theorem planSale_eq_ok {cart : Cart} {claim : Claim} {u : SaleUnit}
    (h : e.planSale ids now actor cart claim s = .ok u) :
    ∃ sh pricing totals, s.openShift? actor.cashier actor.store = some sh ∧
      Transaction.IsSold cart ⟨ids.subject, actor, sh.id, claim.key, e.rate, now⟩ pricing totals ∧
      u = saleUnit ids claim (Transaction.sold cart
        ⟨ids.subject, actor, sh.id, claim.key, e.rate, now⟩ pricing totals) := by
  simp only [planSale, Outcome.bind_eq_ok, currentShift_eq_ok, Outcome.pure_eq_ok] at h
  obtain ⟨sh, hshift, _, hpriced, _, hcomplete, rfl⟩ := h
  obtain ⟨pricing, totals, hsold, rfl⟩ := Transaction.ofCart_eq_ok hpriced
  refine ⟨sh, pricing, totals, hshift, hsold, ?_⟩
  simp only [Transaction.complete, TransactionStatus.canBecome, if_true, Outcome.pure_eq_ok]
    at hcomplete
  rw [← hcomplete]
  rfl

/-- **A cart that is priced** in the open shift of the actor is planned. -/
theorem planSale_of_isSold {cart : Cart} {claim : Claim} {sh : Shift} {pricing : PricingRecord}
    {totals : Totals} (hshift : s.openShift? actor.cashier actor.store = some sh)
    (hsold : Transaction.IsSold cart ⟨ids.subject, actor, sh.id, claim.key, e.rate, now⟩ pricing
      totals) :
    e.planSale ids now actor cart claim s = .ok (saleUnit ids claim
      (Transaction.sold cart ⟨ids.subject, actor, sh.id, claim.key, e.rate, now⟩ pricing
        totals)) := by
  simp only [planSale, currentShift_eq_ok.2 hshift, Transaction.ofCart, hsold.check, hsold.pricing,
    hsold.totals, Field.Check.run, Outcome.ofCheck, Outcome.mapRejection, bind, Except.bind]
  rfl

/-! ### Voids and refunds -/

/-- **A void is planned**: the actor may void, has an open shift, and the transaction of the store
can be voided. -/
structure VoidPlanned (e : Engine) (ids : Ids) (now : Instant) (actor : Actor) (reason : String)
    (s : Store) (sh : Shift) (t : Transaction) (u : VoidUnit) : Prop where
  elevated : actor.isElevated = true
  shift : s.openShift? actor.cashier actor.store = some sh
  found : s.transaction? actor.store t.id = some t
  voidable : t.status = .completed ∧ t.refunded = 0 ∧ now.since t.createdAt ≤ e.voidWindow
  unit : u = voidUnit ids now actor sh reason t

theorem planVoid_eq_ok {id reason : String} {voided : Transaction} {u : VoidUnit}
    (h : e.planVoid ids now actor id reason s = .ok (voided, u)) :
    ∃ sh t, t.id = id ∧ e.VoidPlanned ids now actor reason s sh t u ∧
      voided = { t with
        status := .voided
        voidedAt := some now
        voidReason := some reason
        voidedBy := some actor.approver } := by
  simp only [planVoid, Actor.requireElevated, Outcome.bind_eq_ok, Outcome.require_eq_ok,
    currentShift_eq_ok, transaction_eq_ok, Outcome.pure_eq_ok, Prod.mk.injEq] at h
  obtain ⟨_, helevated, sh, hshift, t, hfound, _, hvoid, rfl, rfl⟩ := h
  obtain ⟨hvoidable, rfl⟩ := Transaction.void_eq_ok hvoid
  obtain rfl := (Store.transaction?_eq_some hfound).2.1
  exact ⟨sh, t, rfl, ⟨helevated, hshift, hfound, hvoidable, rfl⟩, rfl⟩

/-- The refund of an amount of a transaction in a shift. -/
def refundUnit (ids : Ids) (now : Instant) (actor : Actor) (shift : String) (amount : Int)
    (reason : String) (t refunded : Transaction) (units : List RestockLine) : RefundUnit where
  refund := ⟨ids.subject, t.id, t.store, amount, reason, actor.cashier, shift, actor.approver, now⟩
  refundedBefore := t.refunded
  refundedAfter := refunded.refunded
  statusAfter := refunded.status
  movements := refundMovements ids t now units
  entry := entryFor t .refund amount
  entryId := ids.event

theorem planRefund_eq_ok {shift id reason : String} {amount : Int} {u : RefundUnit}
    (h : planRefund ids now actor shift id amount reason s = .ok u) :
    ∃ t refunded units, t.id = id ∧ s.transaction? actor.store id = some t ∧
      t.IsRefund amount refunded units ∧
      u = refundUnit ids now actor shift amount reason t refunded units := by
  simp only [planRefund, Outcome.bind_eq_ok, transaction_eq_ok, Outcome.pure_eq_ok] at h
  obtain ⟨t, hfound, ⟨refunded, units⟩, hrefund, rfl⟩ := h
  exact ⟨t, refunded, units, (Store.transaction?_eq_some hfound).2.1, hfound,
    Transaction.refund_eq_ok hrefund, rfl⟩

theorem refundShift_eq_ok {reason : String} {sh : Shift} (h : refundShift actor reason s = .ok sh) :
    actor.isElevated = true ∧ s.openShift? actor.cashier actor.store = some sh := by
  simp only [refundShift, Actor.requireElevated, Outcome.bind_eq_ok, Outcome.require_eq_ok,
    currentShift_eq_ok] at h
  obtain ⟨_, helevated, _, -, hshift⟩ := h
  exact ⟨helevated, hshift⟩

/-! ### Receipts and shifts -/

theorem order_eq_ok {id : String} {o : PurchaseOrder} :
    order actor id s = .ok o ↔ s.order? actor.store id = some o :=
  Outcome.ofOption_eq_ok

/-- **A receipt is planned**: the lines pass their rules, and the order of the store can take
them. -/
theorem planReceipt_eq_ok {id : String} {lines : List ReceiptLine} {u : ReceiptUnit}
    (h : planReceipt ids now actor id lines s = .ok u) :
    checkReceipt lines = .ok () ∧ ∃ o received, o.id = id ∧ s.order? actor.store id = some o ∧
      o.receive lines now = .ok received ∧
      u = ⟨o.store, o.id, lines, receiptMovements ids o lines now, now⟩ := by
  simp only [planReceipt, Outcome.bind_eq_ok, Field.Check.run_eq_ok, order_eq_ok,
    Outcome.pure_eq_ok] at h
  obtain ⟨_, hcheck, o, hfound, received, hreceive, rfl⟩ := h
  exact ⟨hcheck, o, received, (Store.order?_eq_some hfound).2.1, hfound, hreceive, rfl⟩

theorem ownedShift_eq_ok {id action : String} {sh : Shift}
    (h : ownedShift actor id action s = .ok sh) :
    s.shift? id = some sh ∧ sh.id = id ∧ actor.Handles sh := by
  simp only [ownedShift, Outcome.bind_eq_ok, Outcome.ofOption_eq_ok, Option.filter_eq_some_iff,
    beq_iff_eq] at h
  obtain ⟨sh', ⟨hfound, hstore⟩, h⟩ := h
  have hid := (Store.shift?_eq_some hfound).2
  split at h
  · next hcashier =>
    obtain rfl := Outcome.pure_eq_ok.1 h
    exact ⟨hfound, hid, hstore, .inl hcashier⟩
  · simp only [Actor.requireElevated, Outcome.bind_eq_ok, Outcome.require_eq_ok,
      Outcome.pure_eq_ok] at h
    obtain ⟨_, helevated, rfl⟩ := h
    exact ⟨hfound, hid, hstore, .inr helevated⟩

theorem planClose_eq_ok {id : String} {cash : Int} {closed : Shift} {closure : ShiftClosure}
    (h : planClose ids now actor id cash s = .ok (closed, closure)) :
    ∃ sh, s.shift? id = some sh ∧ sh.id = id ∧ actor.Handles sh ∧
      sh.IsClose ids.event cash now closed closure := by
  simp only [planClose, Outcome.bind_eq_ok] at h
  obtain ⟨sh, howned, hclose⟩ := h
  obtain ⟨hfound, hid, hhandles⟩ := ownedShift_eq_ok howned
  exact ⟨sh, hfound, hid, hhandles, Shift.close_eq_ok hclose⟩

end Engine

end Till
