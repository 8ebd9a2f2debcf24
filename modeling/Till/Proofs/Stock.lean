import Till.Proofs.Amounts
import Till.Proofs.Coverage
import Till.Proofs.Money
import Till.Proofs.Receipts

/-!
# Stock is conserved

Stock is not counted in place, it is the sum of the movements of a product.  What this sum is
follows from the orders and the transactions of a store: the units that were received less the units
that are with customers, which are those of transactions that were not voided, less the units that
refunds cover.  No beginning of the movements has a sum below zero, so nothing is ever sold that is
not there.

* `Store.Stocked.change` : every change keeps this;
* `Engine.run_stockConserved` : it holds after every run.
-/

namespace Till

/-! ### Movements of a product -/

/-- The changes of a product at a store among movements. -/
def StockMovement.changes (store product : String) (ms : List StockMovement) : List Int :=
  (ms.filter fun m => m.store == store && m.product == product).map (·.delta)

namespace Store

open StockMovement

/-- The changes of the stock of a product, in the order in which they were made. -/
def changesOf (s : Store) (store product : String) : List Int := changes store product s.movements

/-- **The stock** of a product at a store, as an integer without bounds. -/
def stock (s : Store) (store product : String) : Int := (s.changesOf store product).sum

/-- A transaction of a store that was not voided. -/
def inEffect (store : String) (t : Transaction) : Bool :=
  t.store == store && !decide (t.status = .voided)

/-- **The units with customers**: those of transactions that were not voided, less those that
refunds cover. -/
def unitsOut (s : Store) (store product : String) : Int :=
  Rows.total (inEffect store) (fun t => t.unitsKept t.refunded product) s.transactions

/-- **The stock is in order**: it is what was received less what is with customers, and it has never
been below zero. -/
structure Stocked (s : Store) : Prop where
  /-- The transactions are priced. -/
  priced : ∀ t ∈ s.transactions, t.Priced
  /-- The lines of an order are about different products. -/
  distinct : ∀ o ∈ s.orders, (o.lines.map (·.product)).Nodup
  /-- The stock is what was received less what is with customers. -/
  conserved : ∀ store product,
    s.stock store product = s.unitsReceived store product - s.unitsOut store product
  /-- It has never been below zero. -/
  neverNegative : ∀ store product, Amounts.NeverNegative (s.changesOf store product)

variable {s after : Store} {t : Transaction} {store product : String} {ms : List StockMovement}

theorem changes_append (ms₁ ms₂ : List StockMovement) :
    changes store product (ms₁ ++ ms₂) =
      changes store product ms₁ ++ changes store product ms₂ := by
  simp [changes]

/-- The changes that rows lead to which become movements of one store. -/
theorem sum_changes_mapIdx {α : Type} {rows : List α} {f : Nat → α → StockMovement}
    {place : String} {productOf : α → String} {amount : α → Int}
    (hstore : ∀ i a, (f i a).store = place) (hproduct : ∀ i a, (f i a).product = productOf a)
    (hdelta : ∀ i a, (f i a).delta = amount a) (store product : String) :
    (changes store product (rows.mapIdx f)).sum =
      if place == store then Rows.total (fun a => productOf a == product) amount rows else 0 := by
  have hsum : (changes store product (rows.mapIdx f)).sum =
      Rows.total (fun a => place == store && productOf a == product) amount rows :=
    Rows.total_mapIdx (fun i a => by rw [hstore, hproduct]) hdelta
  rw [hsum]
  cases place == store with
  | true => simp
  | false => simp [Rows.total]

theorem sum_changes_sale (ids : Ids) (t : Transaction) (store product : String) :
    (changes store product (Engine.saleMovements ids t)).sum =
      if t.store == store then -Transaction.unitsSold t.lines product else 0 := by
  rw [Transaction.unitsSold, ← Rows.total_neg]
  refine sum_changes_mapIdx ?_ ?_ ?_ store product
  all_goals
    intro i l
    rfl

theorem sum_changes_void (ids : Ids) (t : Transaction) (now : Instant) (store product : String) :
    (changes store product (Engine.voidMovements ids t now)).sum =
      if t.store == store then Transaction.unitsSold t.lines product else 0 := by
  refine sum_changes_mapIdx ?_ ?_ ?_ store product
  all_goals
    intro i l
    rfl

theorem sum_changes_refund (ids : Ids) (t : Transaction) (now : Instant)
    (units : List RestockLine) (store product : String) :
    (changes store product (Engine.refundMovements ids t now units)).sum =
      if t.store == store then
        Rows.total (fun l => l.product == product) RestockLine.quantity units else 0 := by
  refine sum_changes_mapIdx ?_ ?_ ?_ store product
  all_goals
    intro i l
    rfl

theorem sum_changes_receipt (ids : Ids) (o : PurchaseOrder) (lines : List ReceiptLine)
    (now : Instant) (store product : String) :
    (changes store product (Engine.receiptMovements ids o lines now)).sum =
      if o.store == store then ReceiptLine.unitsOf product lines else 0 := by
  refine sum_changes_mapIdx ?_ ?_ ?_ store product
  all_goals
    intro i l
    rfl

/-- Movements that bring units in keep the stock from falling below zero. -/
theorem Stocked.append_arriving (h : s.Stocked) (hms : ∀ m ∈ ms, 0 ≤ m.delta)
    (store product : String) :
    Amounts.NeverNegative (changes store product (s.movements ++ ms)) := by
  rw [changes_append]
  refine (h.neverNegative store product).append_of_nonneg ?_
  intro d hd
  obtain ⟨m, hm, rfl⟩ := List.mem_map.1 hd
  exact hms m (List.mem_of_mem_filter hm)

/-- The stock is about orders, transactions and movements. -/
theorem Stocked.of_same (h : s.Stocked) (horders : after.orders = s.orders)
    (htransactions : after.transactions = s.transactions)
    (hmovements : after.movements = s.movements) : after.Stocked where
  priced t ht := h.priced t (htransactions ▸ ht)
  distinct o ho := h.distinct o (horders ▸ ho)
  conserved store product := by
    rw [stock, changesOf, hmovements, unitsReceived, horders, unitsOut, htransactions]
    exact h.conserved store product
  neverNegative store product := by
    rw [changesOf, hmovements]
    exact h.neverNegative store product

/-- **Movements keep the stock in order** if they are the difference that orders and transactions
make, and never lead below zero. -/
theorem Stocked.moved (h : s.Stocked) (hmovements : after.movements = s.movements ++ ms)
    (hpriced : ∀ t ∈ after.transactions, t.Priced)
    (hdistinct : ∀ o ∈ after.orders, (o.lines.map (·.product)).Nodup)
    (hbalance : ∀ store product, (changes store product ms).sum =
      (after.unitsReceived store product - s.unitsReceived store product) -
        (after.unitsOut store product - s.unitsOut store product))
    (hnever : ∀ store product,
      Amounts.NeverNegative (changes store product (s.movements ++ ms))) : after.Stocked where
  priced := hpriced
  distinct := hdistinct
  conserved store product := by
    have hold := h.conserved store product
    have hnew := hbalance store product
    rw [stock, changesOf] at hold
    rw [stock, changesOf, hmovements, changes_append, List.sum_append]
    omega
  neverNegative store product := by
    rw [changesOf, hmovements]
    exact hnever store product

/-! ### Orders and receipts -/

theorem Stocked.orderAdded (h : s.Stocked) {o : PurchaseOrder}
    (hdistinct : (o.lines.map (·.product)).Nodup) (hnone : ∀ l ∈ o.lines, l.received = 0) :
    ({ s with orders := s.orders ++ [o] } : Store).Stocked := by
  refine { h with distinct := ?_, conserved := ?_ }
  · intro o' ho'
    rcases List.mem_append.1 ho' with ho' | ho'
    · exact h.distinct o' ho'
    · rw [List.mem_singleton.1 ho']
      exact hdistinct
  · intro store product
    have hzero : PurchaseOrder.receivedOf product o.lines = 0 := by
      refine List.sum_eq_zero ?_
      intro n hn
      obtain ⟨l, hl, rfl⟩ := List.mem_map.1 hn
      exact hnone l (List.mem_of_mem_filter hl)
    have hreceived : Store.unitsReceived { s with orders := s.orders ++ [o] } store product =
        s.unitsReceived store product := by
      simp [unitsReceived, hzero]
    rw [hreceived]
    exact h.conserved store product

theorem Stocked.afterReceipt (h : s.Stocked) (k : s.Keyed) {ids : Ids} {now : Instant}
    {lines : List ReceiptLine} {o : PurchaseOrder} {u : ReceiptUnit} {booked : List OrderLine}
    (hquantity : ∀ l ∈ lines, 0 < l.quantity)
    (unit : u = ⟨o.store, o.id, lines, Engine.receiptMovements ids o lines now, now⟩)
    (fits : s.ReceiptFits u o booked) : (s.afterReceipt u booked).Stocked := by
  have ho := (order?_eq_some fits.found).1
  have hlines : receiveAll u.order lines o.lines = .ok booked := by
    have := fits.lines
    rwa [show u.lines = lines by rw [unit]] at this
  have hid : u.order = o.id := by rw [unit]
  have hmovements : u.movements = Engine.receiptMovements ids o lines now := by rw [unit]
  refine h.moved rfl h.priced ?_ ?_ (h.append_arriving ?_)
  · intro o' ho'
    rw [Store.afterReceipt, hid] at ho'
    rcases (Rows.mem_update k.orders ho).1 ho' with rfl | ⟨ho', -⟩
    · exact (map_product_receiveAll hlines).symm ▸ h.distinct o ho
    · exact h.distinct o' ho'
  · intro store product
    have hreceived := unitsReceived_update (f := fun o => bookedOrder o booked u.receivedAt) k ho
      (h.distinct o ho) hlines rfl rfl store product
    have hafter : (s.afterReceipt u booked).unitsReceived store product =
        s.unitsReceived store product +
          (if o.store == store then ReceiptLine.unitsOf product lines else 0) := by
      rw [unitsReceived, Store.afterReceipt, hid]
      exact hreceived
    have hout : (s.afterReceipt u booked).unitsOut store product = s.unitsOut store product := rfl
    rw [hmovements, sum_changes_receipt, hafter, hout]
    omega
  · rw [hmovements]
    refine Rows.forall_mem_mapIdx ?_
    intro i l hl
    exact Int.le_of_lt (hquantity l hl)

/-! ### Sales -/

theorem lines_unvoided (t : Transaction) : (unvoided t).lines.Perm t.lines :=
  List.mergeSort_perm _ _

theorem priced_unvoided {t : Transaction} (h : t.Priced) : (unvoided t).Priced where
  count := (lines_unvoided t).length_eq ▸ h.count
  lines l hl := h.lines l ((lines_unvoided t).mem_iff.1 hl)
  subtotal := h.subtotal.trans ((lines_unvoided t).map LineItem.total).sum_eq.symm
  fits := h.fits
  rate := h.rate

theorem unitsSold_unvoided (t : Transaction) (product : String) :
    Transaction.unitsSold (unvoided t).lines product = Transaction.unitsSold t.lines product :=
  Rows.total_perm (lines_unvoided t)

theorem unitsLeaving_eq_ok {units : Int} (h : unitsLeaving ms product = .ok units) :
    units = Rows.total (fun m => decide (m.delta < 0) && m.product == product)
      (fun m => -m.delta) ms :=
  Cents.total_eq_ok h

/-- **What a sale takes out of stock is there.** -/
theorem SaleFits.enough {u : SaleUnit} {sh : Shift} {ev : DrawerEvent} (fits : s.SaleFits u sh ev)
    (hstore : ∀ m ∈ u.movements, m.store = u.transaction.store)
    (hneg : ∀ m ∈ u.movements, m.delta < 0) (hnever : 0 ≤ s.stock store product) :
    0 ≤ s.stock store product + (changes store product u.movements).sum := by
  by_cases hnone : changes store product u.movements = []
  · rw [hnone]
    simpa using hnever
  · -- A product that moves was tested against the stock that there is.
    obtain ⟨d, hd⟩ := List.exists_mem_of_ne_nil _ hnone
    obtain ⟨m, hm, -⟩ := List.mem_map.1 hd
    simp only [List.mem_filter, Bool.and_eq_true, beq_iff_eq] at hm
    obtain ⟨hm, rfl, rfl⟩ := hm
    obtain ⟨-, units, available, hunits, havailable, hle⟩ := fits.available m hm (hneg m hm)
    rw [← hstore m hm] at havailable
    have hlevel : available = s.stock m.store m.product := sumOfChanges_eq_ok havailable
    have htotal : units = -(changes m.store m.product u.movements).sum := by
      rw [unitsLeaving_eq_ok hunits, Rows.total_neg]
      refine congrArg Neg.neg (Rows.total_congr ?_ fun _ _ _ => rfl)
      intro n hn
      simp [hneg n hn, hstore n hn, hstore m hm]
    omega

theorem Stocked.afterSale (h : s.Stocked) {e : Engine} {now : Instant} {ids : Ids} {actor : Actor}
    {cart : Cart} {claim : Claim} {u : SaleUnit} {sh : Shift} {ev : DrawerEvent}
    (plan : e.planSale ids now actor cart claim s = .ok u) (fits : s.SaleFits u sh ev) :
    (s.afterSale u ev).Stocked := by
  obtain ⟨sh₀, pricing, totals, -, hsold, hunit⟩ := Engine.planSale_eq_ok plan
  have hpriced : u.transaction.Priced := by
    rw [hunit]
    exact hsold.priced
  have hrefunded : (unvoided u.transaction).refunded = 0 := by rw [hunit]; rfl
  have hstatus : (unvoided u.transaction).status = .completed := by rw [hunit]; rfl
  have hmovements : u.movements = Engine.saleMovements ids u.transaction := by rw [hunit]; rfl
  have hmoved : ∀ m ∈ u.movements, m.store = u.transaction.store ∧ m.delta < 0 := by
    rw [hmovements]
    refine Rows.forall_mem_mapIdx ?_
    intro i l hl
    have hquantity := (hpriced.lines l hl).quantity.1
    exact ⟨rfl, by simp only [Engine.movement]; omega⟩
  refine h.moved rfl ?_ h.distinct ?_ ?_
  · intro t ht
    rcases List.mem_append.1 ht with ht | ht
    · exact h.priced t ht
    · rw [List.mem_singleton.1 ht]
      exact priced_unvoided hpriced
  · intro store product
    have hreceived : (s.afterSale u ev).unitsReceived store product =
        s.unitsReceived store product := rfl
    have hout : (s.afterSale u ev).unitsOut store product = s.unitsOut store product +
        (if u.transaction.store == store then
          Transaction.unitsSold u.transaction.lines product else 0) := by
      rw [unitsOut, Store.afterSale, Rows.total_append, Rows.total_cons, Rows.total_nil, hrefunded,
        Transaction.unitsKept_of_none, unitsSold_unvoided]
      simp only [inEffect, hstatus, unitsOut]
      simp [unvoided]
    rw [hmovements, sum_changes_sale, hreceived, hout]
    split <;> omega
  · intro store product
    rw [changes_append]
    refine (h.neverNegative store product).append_of_nonpos ?_ ?_
    · intro d hd
      obtain ⟨m, hm, rfl⟩ := List.mem_map.1 hd
      exact Int.le_of_lt (hmoved m (List.mem_of_mem_filter hm)).2
    · exact fits.enough (fun m hm => (hmoved m hm).1) (fun m hm => (hmoved m hm).2)
        (h.neverNegative store product _ (List.prefix_refl _))

/-! ### Voids and refunds -/

/-- **A change of one transaction** keeps the stock in order if what comes in is what the customer
no longer has. -/
theorem Stocked.updated (h : s.Stocked) (k : s.Keyed) (ht : t ∈ s.transactions)
    {f : Transaction → Transaction} (hpriced : (f t).Priced) (horders : after.orders = s.orders)
    (htransactions : after.transactions = Rows.update (·.id) t.id f s.transactions)
    (hmovements : after.movements = s.movements ++ ms) (harriving : ∀ m ∈ ms, 0 ≤ m.delta)
    (hbalance : ∀ store product, (changes store product ms).sum =
      (if inEffect store t then t.unitsKept t.refunded product else 0) -
        (if inEffect store (f t) then (f t).unitsKept (f t).refunded product else 0)) :
    after.Stocked := by
  refine h.moved hmovements ?_ ?_ ?_ (h.append_arriving harriving)
  · intro t' ht'
    rw [htransactions] at ht'
    rcases (Rows.mem_update k.transactions ht).1 ht' with rfl | ⟨ht', -⟩
    · exact hpriced
    · exact h.priced t' ht'
  · rw [horders]
    exact h.distinct
  · intro store product
    have hreceived : after.unitsReceived store product = s.unitsReceived store product := by
      simp only [unitsReceived, horders]
    have hout := Rows.total_update (inEffect store) (fun t => t.unitsKept t.refunded product)
      k.transactions ht f
    rw [← htransactions] at hout
    change after.unitsOut store product = s.unitsOut store product - _ + _ at hout
    rw [hbalance, hreceived, hout]
    omega

theorem inEffect_of_ne (h : t.status ≠ .voided) (store : String) :
    inEffect store t = (t.store == store) := by
  simp [inEffect, h]

theorem Stocked.afterVoid (h : s.Stocked) (k : s.Keyed) {e : Engine} {now : Instant} {ids : Ids}
    {actor : Actor} {reason : String} {sh sh' : Shift} {u : VoidUnit} {ev : DrawerEvent}
    (plan : e.VoidPlanned ids now actor reason s sh' t u) (fits : s.VoidFits u t sh ev) :
    (s.afterVoid u ev).Stocked := by
  have hpriced := h.priced t (transaction?_eq_some fits.found).1
  have hid : u.transaction = t.id := by rw [plan.unit]; rfl
  have hmovements : u.movements = Engine.voidMovements ids t now := by rw [plan.unit]; rfl
  have hmarked : (marked u t).Priced :=
    ⟨hpriced.count, hpriced.lines, hpriced.subtotal, hpriced.fits, hpriced.rate⟩
  refine h.updated k (transaction?_eq_some fits.found).1 hmarked rfl (hid ▸ rfl) rfl ?_ ?_
  · rw [hmovements]
    refine Rows.forall_mem_mapIdx ?_
    intro i l hl
    exact Int.le_of_lt (hpriced.lines l hl).quantity.1
  · intro store product
    have hvoided : inEffect store (marked u t) = false := by simp [inEffect, marked]
    -- Nothing was refunded, so all units come back.
    rw [hmovements, sum_changes_void, hvoided, inEffect_of_ne (by rw [fits.completed]; decide),
      fits.unrefunded, Transaction.unitsKept_of_none]
    simp

theorem Stocked.afterRefund (h : s.Stocked) (k : s.Keyed) (hbounds : 0 ≤ t.grand)
    {now : Instant} {ids : Ids} {actor : Actor} {amount : Int} {reason shift : String}
    {sh : Shift} {refunded : Transaction} {units : List RestockLine} {u : RefundUnit}
    {ev : DrawerEvent} (plan : t.IsRefund amount refunded units)
    (unit : u = Engine.refundUnit ids now actor shift amount reason t refunded units)
    (fits : s.RefundFits u t sh ev) : (s.afterRefund u ev).Stocked := by
  have ht := (transaction?_eq_some fits.found).1
  have hpriced := h.priced t ht
  have hid : u.refund.transaction = t.id := by rw [unit]; rfl
  have hmovements : u.movements = Engine.refundMovements ids t now units := by rw [unit]; rfl
  have hrefunded : (paidBack u t).refunded = t.refunded + amount := by
    rw [unit]
    exact congrArg Transaction.refunded plan.refunded
  have hunvoided : (paidBack u t).status ≠ .voided := by
    rw [unit]
    exact plan.unvoided
  have hpaid : (paidBack u t).Priced :=
    ⟨hpriced.count, hpriced.lines, hpriced.subtotal, hpriced.fits, hpriced.rate⟩
  refine h.updated k ht hpaid rfl (hid ▸ rfl) rfl ?_ ?_
  · rw [hmovements]
    refine Rows.forall_mem_mapIdx ?_
    intro i l hl
    exact Int.le_of_lt ((Transaction.restock_bounds hpriced hbounds plan.units).2 l hl).1
  · intro store product
    have hkept : (paidBack u t).unitsKept (t.refunded + amount) product =
        t.unitsKept (t.refunded + amount) product := rfl
    have hmore : t.refunded ≤ t.refunded + amount := by
      have hpositive := plan.positive
      omega
    have hunits := Transaction.restock_total hpriced hbounds hmore plan.units product
    rw [hmovements, sum_changes_refund, hunits, inEffect_of_ne hunvoided,
      inEffect_of_ne (by rw [fits.completed]; decide), hrefunded, hkept]
    change _ = _ - if t.store == store then _ else _
    split <;> omega

/-! ### Every change -/

theorem stocked_empty : ({} : Store).Stocked where
  priced _ ht := absurd ht List.not_mem_nil
  distinct _ ho := absurd ho List.not_mem_nil
  conserved _ _ := rfl
  neverNegative _ _ := Amounts.neverNegative_nil

/-- **Every change keeps the stock in order.** -/
theorem Stocked.change {e : Engine} {now : Instant} (h : s.Stocked) (k : s.Keyed) (b : s.Balanced)
    (hchange : Change e now s after) : after.Stocked := by
  cases hchange with
  | shiftOpened start added =>
    obtain ⟨-, -, -, rfl⟩ := addShift_eq_ok.1 added
    exact h.of_same rfl rfl rfl
  | shiftClosed => exact h.of_same rfl rfl rfl
  | entryRecorded => exact h.of_same rfl rfl rfl
  | sold claims plan fits => exact h.afterSale plan fits
  | refused => exact h.of_same rfl rfl rfl
  | voided plan fits => exact h.afterVoid k plan fits
  | refunded elevated shift owned plan unit fits =>
    have hbounds := (b.accounted _ (transaction?_eq_some fits.found).1).bounds
    exact h.afterRefund k (Int.le_trans hbounds.1 hbounds.2) plan unit fits
  | productAdded check added =>
    obtain ⟨-, -, -, rfl⟩ := addProduct_eq_ok.1 added
    exact h.of_same rfl rfl rfl
  | supplierAdded check added =>
    obtain ⟨-, rfl⟩ := addSupplier_eq_ok.1 added
    exact h.of_same rfl rfl rfl
  | @orderAdded ids actor o _ elevated check products added =>
    obtain ⟨-, -, -, hdistinct, rfl⟩ := addOrder_eq_ok.1 added
    refine h.orderAdded hdistinct ?_
    intro l hl
    obtain ⟨l', -, rfl⟩ := List.mem_map.1 hl
    rfl
  | received check owned receive unit fits =>
    simp only [Engine.checkReceipt, Outcome.bind_eq_ok, Field.each_eq_ok,
      Field.quantity_eq_ok] at check
    obtain ⟨_, -, _, -, hquantity⟩ := check
    exact h.afterReceipt k (fun l hl => (hquantity l hl).1) unit fits
  | purged => exact h.of_same rfl rfl rfl

/-! ### How much is moved -/

/-- The units of all movements together, in whatever direction. -/
def turnover (s : Store) : Nat := Amounts.turnover (s.movements.map (·.delta))

/-- The most units that are moved at once. -/
def mostUnits : Nat := Field.mostLines * Field.greatestQuantity.toNat

/-- Movements of a line each, of no more units than a line may have. -/
def IsSmall (ms : List StockMovement) : Prop :=
  ms.length ≤ Field.mostLines ∧ ∀ m ∈ ms, m.delta.natAbs ≤ Field.greatestQuantity.toNat

theorem isSmall_nil : IsSmall [] := by
  refine ⟨Nat.zero_le _, ?_⟩
  intro m hm
  cases hm

theorem isSmall_mapIdx {α : Type} {rows : List α} {f : Nat → α → StockMovement}
    (hlength : rows.length ≤ Field.mostLines)
    (hdelta : ∀ i, ∀ a ∈ rows, (f i a).delta.natAbs ≤ Field.greatestQuantity.toNat) :
    IsSmall (rows.mapIdx f) :=
  ⟨by simpa using hlength, Rows.forall_mem_mapIdx hdelta⟩

/-- **A change moves few units.** -/
theorem Stocked.movements_change {e : Engine} {now : Instant} (h : s.Stocked) (b : s.Balanced)
    (hchange : Change e now s after) :
    ∃ ms, after.movements = s.movements ++ ms ∧ IsSmall ms := by
  have hsame : ∀ {after : Store}, after.movements = s.movements →
      ∃ ms, after.movements = s.movements ++ ms ∧ IsSmall ms := by
    intro after heq
    exact ⟨[], by rw [heq, List.append_nil], isSmall_nil⟩
  cases hchange with
  | shiftOpened start added =>
    obtain ⟨-, -, -, rfl⟩ := addShift_eq_ok.1 added
    exact hsame rfl
  | shiftClosed => exact hsame rfl
  | entryRecorded => exact hsame rfl
  | refused => exact hsame rfl
  | productAdded check added =>
    obtain ⟨-, -, -, rfl⟩ := addProduct_eq_ok.1 added
    exact hsame rfl
  | supplierAdded check added =>
    obtain ⟨-, rfl⟩ := addSupplier_eq_ok.1 added
    exact hsame rfl
  | orderAdded elevated check products added =>
    obtain ⟨-, -, -, -, rfl⟩ := addOrder_eq_ok.1 added
    exact hsame rfl
  | purged => exact hsame rfl
  | @sold ids actor cart key claim u sh ev claims plan fits =>
    obtain ⟨sh₀, pricing, totals, -, hsold, hunit⟩ := Engine.planSale_eq_ok plan
    refine ⟨u.movements, rfl, ?_⟩
    rw [hunit]
    refine isSmall_mapIdx hsold.priced.count ?_
    intro i l hl
    have hquantity := (hsold.priced.lines l hl).quantity
    simp only [Engine.movement]
    omega
  | @voided ids actor reason sh sh' t u ev plan fits =>
    have hpriced := h.priced t (transaction?_eq_some fits.found).1
    refine ⟨u.movements, rfl, ?_⟩
    rw [plan.unit]
    refine isSmall_mapIdx hpriced.count ?_
    intro i l hl
    have hquantity := (hpriced.lines l hl).quantity
    simp only [Engine.movement]
    omega
  | @refunded ids actor amount reason sh sh' t refunded units u ev elevated shift owned plan unit
      fits =>
    have ht := (transaction?_eq_some fits.found).1
    have hbounds := (b.accounted t ht).bounds
    obtain ⟨hlength, hquantity⟩ :=
      Transaction.restock_bounds (h.priced t ht) (Int.le_trans hbounds.1 hbounds.2) plan.units
    refine ⟨u.movements, rfl, ?_⟩
    rw [unit]
    refine isSmall_mapIdx hlength ?_
    intro i l hl
    have hl := hquantity l hl
    simp only [Engine.movement]
    omega
  | @received ids actor lines o received u booked check owned receive unit fits =>
    simp only [Engine.checkReceipt, Outcome.bind_eq_ok, Field.lineCount_eq_ok, Field.each_eq_ok,
      Field.quantity_eq_ok] at check
    obtain ⟨_, hlength, _, -, hquantity⟩ := check
    refine ⟨u.movements, rfl, ?_⟩
    rw [unit]
    refine isSmall_mapIdx hlength.2 ?_
    intro i l hl
    have hl := hquantity l hl
    simp only
    omega

theorem turnover_le (hms : IsSmall ms) : Amounts.turnover (ms.map (·.delta)) ≤ mostUnits := by
  have hsizes : ∀ n ∈ (ms.map (·.delta)).map Int.natAbs, n ≤ Field.greatestQuantity.toNat := by
    intro n hn
    obtain ⟨d, hd, rfl⟩ := List.mem_map.1 hn
    obtain ⟨m, hm, rfl⟩ := List.mem_map.1 hd
    exact hms.2 m hm
  have hsum := List.sum_le_card_nsmul _ _ hsizes
  rw [List.length_map, List.length_map, nsmul_eq_mul, Nat.cast_id] at hsum
  exact hsum.trans (Nat.mul_le_mul_right _ hms.1)

/-- The stock can be told as long as all the units moved can be counted. -/
theorem stockLevel_eq (hturnover : (s.turnover : Int) ≤ Cents.greatest) (store product : String) :
    s.stockLevel store product = .ok (s.stock store product) ∧
      derivedStock (s.movementsOf store product) = .ok (s.stock store product) := by
  have hpart : (s.changesOf store product).Sublist (s.movements.map (·.delta)) :=
    (List.filter_sublist).map _
  have hfits : ∀ {part : List Int}, part.Sublist (s.changesOf store product) →
      Cents.Fits part.sum := by
    intro part h
    exact Amounts.fits_of_sublist (h.trans hpart) hturnover
  constructor
  · exact sumOfChanges_of_fits (hfits List.filter_sublist) (hfits (List.Sublist.refl _))
  · refine Cents.total_of_fits ?_
    intro front hfront
    exact hfits hfront.sublist

/-! ### Every run -/

/-- **Stock is conserved**: what the store tells as the stock of a product, and what its movements
add up to, is what was received less what is with customers, and it was never below zero. -/
structure StockConserved (s : Store) : Prop where
  /-- What the store tells. -/
  level : ∀ store product n, s.stockLevel store product = .ok n → n = s.stock store product
  /-- What the movements add up to. -/
  derived : ∀ store product n, derivedStock (s.movementsOf store product) = .ok n →
    n = s.stock store product
  /-- Both can be told as long as all the units moved can be counted. -/
  told : (s.turnover : Int) ≤ Cents.greatest → ∀ store product,
    s.stockLevel store product = .ok (s.stock store product) ∧
      derivedStock (s.movementsOf store product) = .ok (s.stock store product)
  /-- The stock is what was received less what is with customers. -/
  conserved : ∀ store product,
    s.stock store product = s.unitsReceived store product - s.unitsOut store product
  /-- The units that a refund covers are those that the refund was computed with. -/
  covered : ∀ t ∈ s.transactions, t.coveredUnits t.refunded = .ok (t.coverage t.refunded)
  /-- Nothing of a transaction that was refunded as a whole is with the customer. -/
  returned : ∀ t ∈ s.transactions, t.status = .refunded → ∀ product,
    t.unitsKept t.refunded product = 0
  /-- No beginning of the movements has a sum below zero. -/
  neverNegative : ∀ store product front,
    front <+: s.movementsOf store product → 0 ≤ (front.map (·.delta)).sum

theorem Stocked.stockConserved (h : s.Stocked) (b : s.Balanced) : s.StockConserved where
  level _ _ _ := sumOfChanges_eq_ok
  derived _ _ _ := Cents.total_eq_ok
  told := stockLevel_eq
  conserved := h.conserved
  covered t ht := by
    have hbounds := (b.accounted t ht).bounds
    exact Transaction.coveredUnits_eq (h.priced t ht) (Int.le_trans hbounds.1 hbounds.2) t.refunded
  returned t ht hstatus product := by
    obtain ⟨hpos, hall⟩ := (b.accounted t ht).refunded.1 hstatus
    rw [hall]
    exact Transaction.unitsKept_of_full (h.priced t ht) hpos product
  neverNegative store product front hfront :=
    h.neverNegative store product _ (hfront.map _)

/-- **The tables are in order**: identifiers are apart, the books balance, the stock is right. -/
structure Sound (s : Store) : Prop where
  keyed : s.Keyed
  balanced : s.Balanced
  stocked : s.Stocked

theorem sound_empty : ({} : Store).Sound := ⟨keyed_empty, balanced_empty, stocked_empty⟩

theorem Sound.change {e : Engine} {now : Instant} (h : s.Sound) (hchange : Change e now s after) :
    after.Sound :=
  ⟨h.keyed.change hchange, h.balanced.change h.keyed hchange,
    h.stocked.change h.keyed h.balanced hchange⟩

theorem turnover_change {e : Engine} {now : Instant} (h : s.Sound)
    (hchange : Change e now s after) : after.turnover ≤ s.turnover + mostUnits := by
  obtain ⟨ms, hms, hsmall⟩ := h.stocked.movements_change h.balanced hchange
  have hle := turnover_le hsmall
  simp only [turnover, Amounts.turnover, hms, List.map_append, List.sum_append] at hle ⊢
  omega

end Store

namespace Engine

variable {κ : Type}

theorem run_sound (e : Engine) (c : CacheAccess κ) (now : Instant) (cache : κ)
    (steps : List (Step κ)) : (e.run c (World.empty now cache) steps).store.Sound :=
  run_induction Store.sound_empty (fun hchange h => h.change hchange) c now cache steps

theorem turnover_run (e : Engine) (c : CacheAccess κ) {w : World κ} (h : w.store.Sound)
    (steps : List (Step κ)) :
    (e.run c w steps).store.turnover ≤ w.store.turnover + Store.mostUnits * steps.length := by
  induction steps generalizing w with
  | nil => exact Nat.le_refl _
  | cons step steps ih =>
    rw [run_cons, List.length_cons, Nat.mul_succ]
    rcases e.apply_change c w step with hsame | hchange
    · have hrest := ih (w := e.apply c w step) (hsame ▸ h)
      rw [hsame] at hrest
      omega
    · have hrest := ih (h.change hchange)
      have hstep := Store.turnover_change h hchange
      omega

/-- **Stock is conserved and never oversold**: whatever was asked of a till, by whomever and at
whatever times, the stock of every product is what was received less what is with customers, and was
never below zero.  A step moves at most 99900 units, so the stock can be told in every run of fewer
than ninety million million steps. -/
theorem run_stockConserved (e : Engine) (c : CacheAccess κ) (now : Instant) (cache : κ)
    (steps : List (Step κ)) :
    (e.run c (World.empty now cache) steps).store.StockConserved ∧
      (e.run c (World.empty now cache) steps).store.turnover ≤
        Store.mostUnits * steps.length := by
  have hsound := e.run_sound c now cache steps
  refine ⟨hsound.stocked.stockConserved hsound.balanced, ?_⟩
  have hturnover := e.turnover_run c (w := World.empty now cache) Store.sound_empty steps
  simpa [World.empty, Store.turnover, Amounts.turnover] using hturnover

end Engine

end Till
