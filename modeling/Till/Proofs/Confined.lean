import Till.Proofs.Origins
import Till.Proofs.Part
import Till.Proofs.Unadvised

/-!
# Requests keep to the part of their store

A request for a store does with the part of this store what it does with the whole.  It needs that
identifiers are reserved (`Store.Reserves`): the till gives every row an identifier that no other
row has, and would be refused if another store had used it.

* `Action.CommutesAt`, `Action.KeepsTo` : a step that keeps to a view of a state, and to a part;
* `Engine.deal_keepsTo` : every request does.
-/

namespace Till

/-! ### Reserved identifiers -/

/-- **Identifiers are reserved** for a store: no other store has a row with one of them. -/
structure Store.Reserves (s : Store) (b : String) (ids : Ids) : Prop where
  products : ∀ p ∈ s.products, p.id = ids.subject → p.store = b
  suppliers : ∀ p ∈ s.suppliers, p.id = ids.subject → p.store = b
  orders : ∀ o ∈ s.orders, o.id = ids.subject → o.store = b
  shifts : ∀ sh ∈ s.shifts, sh.id = ids.subject → sh.store = b
  transactions : ∀ t ∈ s.transactions, t.id = ids.subject → t.store = b
  refunds : ∀ r ∈ s.refunds, r.id = ids.subject → r.store = b
  events : ∀ sh ∈ s.shifts, ∀ ev ∈ sh.events, ev.id = ids.event → sh.store = b
  movements : ∀ m ∈ s.movements, ∀ i, m.id = ids.movement i → m.store = b

namespace Store

variable {s : Store} {b : String} {ids : Ids} {α : Type}

/-- An entry into the log of a shift of the store. -/
theorem Reserves.ownEntry (h : s.Reserves b ids) (k : s.Keyed) {sh : Shift} (hsh : sh ∈ s.shifts)
    (hstore : sh.store = b) : s.OwnEntry b sh.id ids.event := by
  refine ⟨?_, h.events⟩
  intro sh' hsh' hid
  rw [List.inj_on_of_nodup_map k.shifts hsh' hsh hid, hstore]

/-- Movements of products that the store carries, with identifiers by the position of their rows. -/
theorem Reserves.ownMovements (h : s.Reserves b ids) (hk : (s.products.map (·.id)).Nodup)
    {rows : List α} {f : Nat → α → StockMovement} {productOf : α → String}
    (hstore : ∀ i a, (f i a).store = b) (hid : ∀ i a, (f i a).id = ids.movement i)
    (hproduct : ∀ i a, (f i a).product = productOf a)
    (hcarries : ∀ a ∈ rows, s.Carries b (productOf a)) : s.OwnMovements b (rows.mapIdx f) where
  store := Rows.forall_mem_mapIdx fun i a _ => hstore i a
  product := Rows.forall_mem_mapIdx fun i a ha p hp hsame =>
    (hcarries a ha).owned hk p hp (hsame.trans (hproduct i a))
  fresh := Rows.forall_mem_mapIdx fun i a _ n hn hsame =>
    h.movements n hn i (hsame.trans (hid i a))

theorem refundsOf_part (k : s.Keyed) (consistent : s.Consistent) {t : Transaction}
    (ht : t ∈ s.transactions) : (s.part t.store).refundsOf t.id = s.refundsOf t.id := by
  refine congrArg (List.mergeSort · _) (Rows.filter_filter_of_imp ?_)
  intro r hr hid
  -- A refund is one of a transaction of its store.
  obtain ⟨t', ht', hsold, hstore⟩ := consistent.refunds r hr
  have hsame : t' = t :=
    List.inj_on_of_nodup_map k.transactions ht' ht (hsold.trans (beq_iff_eq.1 hid))
  rw [beq_iff_eq, ← hstore, hsame]

end Store

/-! ### Steps that keep to a part -/

namespace Action

section Commutes

variable {σ α β : Type} {f : σ → σ} {s : σ}

/-- **A step commutes with a view** of a state: it does with the view what it does with the whole. -/
def CommutesAt (f : σ → σ) (s : σ) (step : Action σ α) : Prop := step (f s) = Prod.map id f (step s)

theorem commutesAt_query {look : σ → Result α} (h : look (f s) = look s) :
    CommutesAt f s (query look) := by
  simp only [CommutesAt, query, h, Prod.map_apply, id]

theorem commutesAt_transact {unit : σ → Result (α × σ)} (h : unit (f s) = Prod.map id f <$> unit s) :
    CommutesAt f s (transact unit) := by
  simp only [CommutesAt, transact, h]
  cases unit s <;> rfl

/-- Trying again changes nothing. -/
theorem commutesAt_runWhen {unit : σ → Result (α × σ)} (p : RetryPolicy)
    (accept : Rejection → Bool) (h : unit (f s) = Prod.map id f <$> unit s) :
    CommutesAt f s (p.runWhen accept (transact unit)) := by
  simp only [CommutesAt, RetryPolicy.runWhen, RetryPolicy.attempt_transact]
  exact commutesAt_transact h

theorem CommutesAt.mapAnswer {step : Action σ α} (h : CommutesAt f s step) (reply : α → β) :
    CommutesAt f s (step.mapAnswer reply) := by
  simp only [CommutesAt, Action.mapAnswer] at h ⊢
  rw [h]
  rcases step s with ⟨_ | _, _⟩ <;> rfl

end Commutes

variable {α β : Type}

/-- **A step keeps to the part** of a store: it does with the part what it does with the whole. -/
def KeepsTo (b : String) (s : Store) (step : Action Store α) : Prop :=
  step (s.part b) = Prod.map id (·.part b) (step s)

variable {b : String} {s : Store}

theorem keepsTo_query {f : Store → Result α} (h : f (s.part b) = f s) : KeepsTo b s (query f) :=
  commutesAt_query (f := fun s => Store.part s b) h

theorem keepsTo_transact {f : Store → Result (α × Store)}
    (h : f (s.part b) = Prod.map id (·.part b) <$> f s) : KeepsTo b s (transact f) :=
  commutesAt_transact (f := fun s => Store.part s b) h

theorem keepsTo_runWhen {f : Store → Result (α × Store)} (p : RetryPolicy)
    (accept : Rejection → Bool) (h : f (s.part b) = Prod.map id (·.part b) <$> f s) :
    KeepsTo b s (p.runWhen accept (transact f)) :=
  commutesAt_runWhen (f := fun s => Store.part s b) p accept h

theorem KeepsTo.mapAnswer {step : Action Store α} (h : KeepsTo b s step) (f : α → β) :
    KeepsTo b s (step.mapAnswer f) :=
  CommutesAt.mapAnswer (f := fun s => Store.part s b) h f

end Action

namespace Engine

open Till.Action (KeepsTo keepsTo_query keepsTo_transact keepsTo_runWhen)

variable {e : Engine} {ids : Ids} {now : Instant} {actor : Actor} {s : Store}

/-! ### Looking at the store -/

@[simp] theorem currentShift_part (actor : Actor) (s : Store) :
    currentShift actor (s.part actor.store) = currentShift actor s := by
  simp only [currentShift, Store.openShift?_part]

theorem ownedShift_part (k : s.Keyed) (id action : String) :
    ownedShift actor id action (s.part actor.store) = ownedShift actor id action s := by
  have htwice : ∀ found : Option Shift, (found.filter (·.store == actor.store)).filter
      (·.store == actor.store) = found.filter (·.store == actor.store) := by
    intro found
    cases found with
    | none => rfl
    | some sh => by_cases h : sh.store = actor.store <;> simp [Option.filter, h]
  simp only [ownedShift, Store.shift?_part k, htwice]

@[simp] theorem transaction_part (actor : Actor) (id : String) (s : Store) :
    transaction actor id (s.part actor.store) = transaction actor id s := by
  simp only [transaction, Store.transaction?_part]

@[simp] theorem order_part (actor : Actor) (id : String) (s : Store) :
    order actor id (s.part actor.store) = order actor id s := by
  simp only [order, Store.order?_part]

theorem refunds_part (k : s.Keyed) (consistent : s.Consistent) (id : String) :
    refunds actor id (s.part actor.store) = refunds actor id s := by
  simp only [refunds, transaction_part]
  cases hfound : transaction actor id s with
  | error fault => rfl
  | ok t =>
    obtain ⟨ht, -, hstore⟩ := Store.transaction?_eq_some (transaction_eq_ok.1 hfound)
    exact congrArg Except.ok (hstore ▸ Store.refundsOf_part k consistent ht)

theorem requireProducts_part (s : Store) (b : String) (products : List String) :
    requireProducts (s.part b) b products = requireProducts s b products := by
  induction products with
  | nil => rfl
  | cons id products ih => simp only [requireProducts, Store.product?_part, ih]

/-! ### Shifts -/

theorem openShift_keepsTo (reserved : s.Reserves actor.store ids) (cash : Int) :
    KeepsTo actor.store s (openShift ids now actor cash) := by
  refine keepsTo_transact (Outcome.bind_eq_map_of_eq rfl fun sh hstart => ?_)
  simp only [Shift.start, Outcome.bind_eq_ok, Outcome.pure_eq_ok] at hstart
  obtain ⟨_, -, rfl⟩ := hstart
  exact Outcome.bind_eq_map (Stored.result_eq_map (Store.addShift_part rfl reserved.shifts))
    fun _ _ => rfl

theorem closeShift_keepsTo (k : s.Keyed) (reserved : s.Reserves actor.store ids) (id : String)
    (cash : Int) : KeepsTo actor.store s (e.closeShift ids now actor id cash) := by
  refine keepsTo_runWhen _ _ (Outcome.bind_eq_map_of_eq ?_ fun planned hplan => ?_)
  · simp only [planClose, ownedShift_part k]
  obtain ⟨sh, hfound, rfl, hhandles, hclose⟩ := planClose_eq_ok hplan
  have hid : planned.1.id = sh.id := by rw [hclose.closed]; rfl
  have hentry := reserved.ownEntry k (Store.shift?_eq_some hfound).1 hhandles.store
  refine Outcome.bind_eq_map (Stored.result_eq_map (Store.closeShift_part ?_ ?_)) fun _ _ => rfl
  · rw [hid]
    exact hentry.shift
  · intro ev hlast
    rw [hclose.events, List.getLast?_concat] at hlast
    obtain rfl := Option.some.inj hlast
    exact ⟨hid.symm, hentry.fresh⟩

theorem recordEntry_keepsTo (k : s.Keyed) (reserved : s.Reserves actor.store ids) (id : String)
    (entry : DrawerEntry) : KeepsTo actor.store s (recordEntry ids now actor id entry) := by
  refine keepsTo_transact (Outcome.bind_eq_map_of_eq rfl fun _ _ => ?_)
  refine Outcome.bind_eq_map_of_eq (ownedShift_part k _ _) fun sh howned => ?_
  refine Outcome.bind_eq_map_of_eq rfl fun _ _ => ?_
  obtain ⟨hfound, -, hhandles⟩ := ownedShift_eq_ok howned
  have hentry := reserved.ownEntry k (Store.shift?_eq_some hfound).1 hhandles.store
  exact Outcome.bind_eq_map
    (Stored.result_eq_map (Store.appendEntry_part hentry.shift hentry.fresh)) fun _ _ => rfl

/-! ### Sales -/

theorem settle_part {α : Type} {k : KeyUse} {claim : Claim} (hclaim : claim.store = k.store)
    (read : Json → Option α) (done : Result α × Store) :
    settle k claim read (Prod.map id (·.part k.store) done) =
      Prod.map id (·.part k.store) (settle k claim read done) := by
  obtain ⟨result, after⟩ := done
  match result with
  | .ok a => rfl
  | .error .overflow => rfl
  | .error (.rejected reason) =>
    by_cases hflight : ∃ key, reason = .inFlight key
    · obtain ⟨key, rfl⟩ := hflight
      simp only [settle, Prod.map_apply, id, KeyUse.record?, Store.outcome?_part]
      split <;> rfl
    · have hreason : ∀ key, reason ≠ .inFlight key := fun key hkey => hflight ⟨key, hkey⟩
      rw [Prod.map_apply, id, settle_rejected hreason, settle_rejected hreason]
      split
      · rw [Store.addOutcome_part (r := claim.record none (.ofRejection reason)) hclaim]
        rfl
      · rfl

theorem once_keepsTo {α : Type} {lifetime : Int} {k : KeyUse} {read : Json → Option α}
    {body : Claim → Action Store α}
    (hbody : ∀ claim : Claim, claim.store = k.store → KeepsTo k.store s (body claim)) :
    KeepsTo k.store s (once lifetime k read body) := by
  simp only [KeepsTo, once, KeyUse.record?, Store.outcome?_part]
  split
  · rfl
  · split
    · rfl
    · split
      · rfl
      · next claim hmade =>
        obtain ⟨-, rfl⟩ := Claim.make_eq_ok.1 hmade
        rw [hbody _ rfl, settle_part rfl]

theorem sale_part (k : s.Keyed) (consistent : s.Consistent) (reserved : s.Reserves actor.store ids)
    {claim : Claim} (hclaim : claim.store = actor.store) (cart : Cart) :
    e.sale ids now actor cart claim (s.part actor.store) =
      Prod.map id (·.part actor.store) <$> e.sale ids now actor cart claim s := by
  refine Outcome.bind_eq_map_of_eq (by simp only [planSale, currentShift_part]) fun u hplan => ?_
  refine Outcome.bind_eq_map (Stored.result_eq_map ?_) fun _ _ => rfl
  obtain ⟨sh, pricing, totals, hshift, hsold, hunit⟩ := planSale_eq_ok hplan
  obtain ⟨hsh, -, hstore, -⟩ := Store.openShift?_eq_some hshift
  have hpriced : u.transaction.Priced := by
    rw [hunit]
    exact hsold.priced
  have hmovements : u.movements = saleMovements ids u.transaction := by rw [hunit]; rfl
  have hplace : u.transaction.store = actor.store := by rw [hunit]; rfl
  refine Store.commitSale_part consistent.products ?_ hplace ?_ ?_ ?_ ?_ ?_
  · rw [hunit]
    exact hclaim
  · rw [hmovements]
    refine Rows.forall_mem_mapIdx fun i l hl => ⟨hplace, ?_⟩
    have hquantity := (hpriced.lines l hl).quantity.1
    simp only [movement]
    omega
  · intro l hl
    rw [hmovements]
    obtain ⟨i, hi, rfl⟩ := List.mem_iff_getElem.1 hl
    exact ⟨_, List.mem_mapIdx.2 ⟨i, hi, rfl⟩, rfl⟩
  · rw [hunit]
    exact reserved.transactions
  · rw [hmovements]
    exact Rows.forall_mem_mapIdx fun i l _ n hn => reserved.movements n hn i
  · rw [hunit]
    exact reserved.ownEntry k hsh hstore

theorem sellOnce_keepsTo (k : s.Keyed) (consistent : s.Consistent)
    (reserved : s.Reserves actor.store ids) (cart : Cart) (key : String) :
    KeepsTo actor.store s (e.sellOnce ids now actor cart key) := by
  refine once_keepsTo (k := ⟨actor.store, actor.cashier, key, now⟩) fun claim hclaim => ?_
  rw [sell_eq]
  exact keepsTo_transact (sale_part k consistent reserved hclaim cart)

/-! ### Voids and refunds -/

theorem void_keepsTo (k : s.Keyed) (consistent : s.Consistent)
    (reserved : s.Reserves actor.store ids) (id reason : String) :
    KeepsTo actor.store s (e.void ids now actor id reason) := by
  refine keepsTo_transact (Outcome.bind_eq_map_of_eq ?_ fun planned hplan => ?_)
  · simp only [planVoid, currentShift_part, transaction_part]
  refine Outcome.bind_eq_map (Stored.result_eq_map ?_) fun _ _ => rfl
  obtain ⟨sh, t, -, hplanned, -⟩ := planVoid_eq_ok hplan
  obtain ⟨ht, -, hstore⟩ := Store.transaction?_eq_some hplanned.found
  obtain ⟨hsh, -, hplace, -⟩ := Store.openShift?_eq_some hplanned.shift
  rw [hplanned.unit]
  refine Store.commitVoid_part hstore ?_ (reserved.ownEntry k hsh hplace)
  exact reserved.ownMovements consistent.products (fun _ _ => hstore) (fun _ _ => rfl)
    (fun _ _ => rfl) fun l hl => hstore ▸ consistent.lines t ht l hl

theorem refund_keepsTo (k : s.Keyed) (consistent : s.Consistent)
    (reserved : s.Reserves actor.store ids) (id : String) (amount : Int) (reason : String) :
    KeepsTo actor.store s (e.refund ids now actor id amount reason) := by
  rw [refund_eq]
  refine keepsTo_transact (Outcome.bind_eq_map_of_eq ?_ fun sh hsh => ?_)
  · simp only [refundShift, currentShift_part]
  refine Outcome.bind_eq_map_of_eq (by simp only [planRefund, transaction_part]) fun u hplan => ?_
  refine Outcome.bind_eq_map (Stored.result_eq_map ?_) fun _ _ => rfl
  obtain ⟨hmem, -, hplace, -⟩ := Store.openShift?_eq_some (refundShift_eq_ok hsh).2
  obtain ⟨t, refunded, units, -, hfound, hrefund, rfl⟩ := planRefund_eq_ok hplan
  obtain ⟨ht, -, hstore⟩ := Store.transaction?_eq_some hfound
  refine Store.commitRefund_part k hstore reserved.refunds ?_ (reserved.ownEntry k hmem hplace)
  refine reserved.ownMovements consistent.products (fun _ _ => hstore) (fun _ _ => rfl)
    (fun _ _ => rfl) fun l hl => ?_
  -- What goes back into stock was sold.
  obtain ⟨line, hline, hproduct⟩ := Transaction.product_restock hrefund.units l hl
  have hcarries := consistent.lines t ht line hline
  rwa [hproduct, hstore] at hcarries

/-! ### Products, suppliers and orders -/

theorem registerProduct_keepsTo (reserved : s.Reserves actor.store ids) (p : NewProduct) :
    KeepsTo actor.store s (registerProduct ids now actor p) := by
  refine keepsTo_transact (Outcome.bind_eq_map_of_eq rfl fun _ _ => ?_)
  exact Outcome.bind_eq_map (Stored.result_eq_map (Store.addProduct_part rfl reserved.products))
    fun _ _ => rfl

theorem registerSupplier_keepsTo (reserved : s.Reserves actor.store ids) (p : NewSupplier) :
    KeepsTo actor.store s (registerSupplier ids now actor p) := by
  refine keepsTo_transact (Outcome.bind_eq_map_of_eq rfl fun _ _ => ?_)
  exact Outcome.bind_eq_map (Stored.result_eq_map (Store.addSupplier_part rfl reserved.suppliers))
    fun _ _ => rfl

theorem createOrder_keepsTo (consistent : s.Consistent) (reserved : s.Reserves actor.store ids)
    (o : NewOrder) : KeepsTo actor.store s (createOrder ids now actor o) := by
  refine keepsTo_transact (Outcome.bind_eq_map_of_eq rfl fun _ _ => ?_)
  refine Outcome.bind_eq_map_of_eq rfl fun _ _ => ?_
  refine Outcome.bind_eq_map_of_eq (by rw [Store.supplier?_part]) fun _ hsupplier => ?_
  refine Outcome.bind_eq_map_of_eq (requireProducts_part _ _ _) fun _ hproducts => ?_
  refine Outcome.bind_eq_map (Stored.result_eq_map (Store.addOrder_part rfl reserved.orders ?_ ?_))
    fun _ _ => rfl
  · obtain ⟨p, hp, hid, hstore⟩ :=
      Store.suppliedBy_of_supplier? (Outcome.require_eq_ok.1 hsupplier)
    intro q hq hsame
    rw [List.inj_on_of_nodup_map consistent.suppliers hq hp (hsame.trans hid.symm), hstore]
  · intro l hl
    obtain ⟨line, hline, rfl⟩ := List.mem_map.1 hl
    have hfound := requireProducts_eq_ok.1 hproducts _ (List.mem_map_of_mem hline)
    exact (Store.carries_of_product? hfound).owned consistent.products

theorem receiveOrder_keepsTo (consistent : s.Consistent) (reserved : s.Reserves actor.store ids)
    (id : String) (lines : List ReceiptLine) :
    KeepsTo actor.store s (receiveOrder ids now actor id lines) := by
  refine keepsTo_transact (Outcome.bind_eq_map_of_eq ?_ fun u hplan => ?_)
  · simp only [planReceipt, order_part]
  obtain ⟨-, o, received, -, hfound, -, rfl⟩ := planReceipt_eq_ok hplan
  obtain ⟨-, hid, hstore⟩ := Store.order?_eq_some hfound
  refine Outcome.bind_eq_map (Stored.result_eq_map (Store.commitReceipt_part hstore ?_))
    fun after _ => Outcome.bind_eq_map_of_eq (order_part _ _ _) fun _ _ => rfl
  intro o' booked hfound' hbooked
  obtain ⟨ho', -, hstore'⟩ := Store.order?_eq_some hfound'
  refine reserved.ownMovements consistent.products (fun _ _ => hstore) (fun _ _ => rfl)
    (fun _ _ => rfl) fun l hl => ?_
  -- What arrives was ordered.
  obtain ⟨line, hline, hproduct⟩ := Store.product_receiveAll hbooked l hl
  have hcarries := consistent.ordered o' ho' line hline
  rwa [hproduct, hstore', hstore] at hcarries

/-! ### All requests -/

/-- **A request does with the part of its store what it does with the whole.** -/
theorem deal_keepsTo (e : Engine) (now : Instant) (k : s.Keyed) (consistent : s.Consistent)
    (reserved : s.Reserves actor.store ids) (r : Request) :
    KeepsTo actor.store s (e.deal ids actor now r) := by
  cases r <;> rw [deal]
  case openShift cash => exact (openShift_keepsTo reserved cash).mapAnswer _
  case closeShift id cash => exact (closeShift_keepsTo k reserved id cash).mapAnswer _
  case recordEntry id entry => exact (recordEntry_keepsTo k reserved id entry).mapAnswer _
  case currentShift => exact (keepsTo_query (currentShift_part actor s)).mapAnswer _
  case shiftReport id =>
    refine (keepsTo_query ?_).mapAnswer _
    simp only [shiftReport, ownedShift_part k]
  case checkout cart key => exact (sellOnce_keepsTo k consistent reserved cart key).mapAnswer _
  case void id reason => exact (void_keepsTo k consistent reserved id reason).mapAnswer _
  case refund id amount reason =>
    exact (refund_keepsTo k consistent reserved id amount reason).mapAnswer _
  case transaction id => exact (keepsTo_query (transaction_part actor id s)).mapAnswer _
  case refunds id => exact (keepsTo_query (refunds_part k consistent id)).mapAnswer _
  case transactions start stop =>
    refine (keepsTo_query ?_).mapAnswer _
    simp only [Store.transactionsWithin_part]
  case recommend cart =>
    exact (keepsTo_query rfl).mapAnswer _
  case registerProduct p => exact (registerProduct_keepsTo reserved p).mapAnswer _
  case product id =>
    refine (keepsTo_query ?_).mapAnswer _
    simp only [product, Store.product?_part]
  case registerSupplier p => exact (registerSupplier_keepsTo reserved p).mapAnswer _
  case createOrder o => exact (createOrder_keepsTo consistent reserved o).mapAnswer _
  case receiveOrder id lines =>
    exact (receiveOrder_keepsTo consistent reserved id lines).mapAnswer _
  case order id => exact (keepsTo_query (order_part actor id s)).mapAnswer _
  case stockLevel id =>
    refine (keepsTo_query ?_).mapAnswer _
    simp only [Store.stockLevel_part]
  case stockMovements id =>
    refine (keepsTo_query ?_).mapAnswer _
    simp only [Store.movementsOf_part]

end Engine

end Till
