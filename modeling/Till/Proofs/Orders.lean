import Till.Proofs.Authority
import Till.Proofs.Places

/-!
# Orders, their receipts and their movements

What has arrived of an order is written down three times: as the status of the order, on its lines
and as movements of stock.  In every run the three agree.

* `PurchaseOrder.Tallies` : status, lines and movements of an order agree;
* `Change.orders` : a change leaves orders and arrivals alone, adds an order of which nothing has
  arrived, or books a receipt on the lines and as movements;
* `Engine.handle_receiveOrder_closed` : an order that was received takes nothing more;
* `Engine.run_keepsOrders` : both hold in every run, and every order is one that was created.
-/

namespace Till

/-- A later state of a later state is a later state. -/
theorem PurchaseOrder.Precedes.trans {o later last : PurchaseOrder} (h : o.Precedes later)
    (h' : later.Precedes last) : o.Precedes last where
  same := by
    have hlast := h'.same
    rw [h.same] at hlast
    exact hlast
  ordered := h'.ordered.trans h.ordered

/-! ### Arrivals -/

/-- Whether a movement brought in units of a product that an order is about. -/
def StockMovement.arrivesFor (order product : String) (m : StockMovement) : Bool :=
  decide (m.reason = .receive) && m.reference == order && m.product == product

/-- The units of a product that movements brought in for an order. -/
def StockMovement.arrivals (order product : String) (ms : List StockMovement) : Int :=
  Rows.total (arrivesFor order product) delta ms

/-- What the lines of an order say about its status. -/
structure OrderStatus.Fits (status : OrderStatus) (lines : List OrderLine) : Prop where
  /-- Nothing has arrived, -/
  opened : status = .open ↔ ∀ l ∈ lines, l.received = 0
  /-- everything has, -/
  finished : status = .received ↔ ∀ l ∈ lines, l.received = l.ordered
  /-- or something is in between. -/
  partly : status = .partiallyReceived ↔
    (¬∀ l ∈ lines, l.received = 0) ∧ ¬∀ l ∈ lines, l.received = l.ordered

/-- **Status, lines and movements of an order agree.** -/
structure PurchaseOrder.Tallies (o : PurchaseOrder) (ms : List StockMovement) : Prop where
  nonempty : o.lines ≠ []
  /-- The lines are about different products. -/
  distinct : (o.lines.map (·.product)).Nodup
  ordered : ∀ l ∈ o.lines, 0 < l.ordered
  /-- No more has arrived than was ordered, -/
  bounds : ∀ l ∈ o.lines, 0 ≤ l.received ∧ l.received ≤ l.ordered
  /-- it has arrived by the movements of the order, -/
  arrived : ∀ l ∈ o.lines, l.received = StockMovement.arrivals o.id l.product ms
  /-- and the status says how much it is. -/
  status : o.status.Fits o.lines

namespace StockMovement

variable {order product : String} {ms : List StockMovement}

@[simp] theorem arrivals_append (ms₁ ms₂ : List StockMovement) :
    arrivals order product (ms₁ ++ ms₂) =
      arrivals order product ms₁ + arrivals order product ms₂ :=
  Rows.total_append ..

theorem arrivals_eq_zero (h : ∀ m ∈ ms, ¬(m.reason = .receive ∧ m.reference = order)) :
    arrivals order product ms = 0 := by
  refine Rows.total_eq_zero ?_
  intro m hm
  rw [Bool.eq_false_iff]
  intro harrives
  simp only [arrivesFor, Bool.and_eq_true, decide_eq_true_eq, beq_iff_eq] at harrives
  exact h m hm harrives.1

/-- The movements of a receipt bring in its units, for its order. -/
theorem arrivals_receipt (ids : Ids) (o : PurchaseOrder) (rs : List ReceiptLine) (now : Instant) :
    arrivals o.id product (Engine.receiptMovements ids o rs now) =
      ReceiptLine.unitsOf product rs := by
  refine Rows.total_mapIdx ?_ ?_
  · intro i r
    simp [arrivesFor]
  · intro i r
    rfl

theorem arrivals_receipt_of_ne {ids : Ids} {o : PurchaseOrder} {rs : List ReceiptLine}
    {now : Instant} (h : order ≠ o.id) :
    arrivals order product (Engine.receiptMovements ids o rs now) = 0 := by
  refine arrivals_eq_zero (Rows.forall_mem_mapIdx ?_)
  rintro i r - ⟨-, rfl⟩
  exact h rfl

end StockMovement

/-! ### The status of an order -/

namespace OrderStatus

variable {lines : List OrderLine}

theorem fits_of_iff {status : OrderStatus}
    (opened : status = .open ↔ ∀ l ∈ lines, l.received = 0)
    (finished : status = .received ↔ ∀ l ∈ lines, l.received = l.ordered) : status.Fits lines := by
  refine ⟨opened, finished, ?_⟩
  rw [← opened, ← finished]
  cases status <;> simp

/-- Of an order that is new nothing has arrived. -/
theorem fits_open (hlines : lines ≠ []) (hordered : ∀ l ∈ lines, 0 < l.ordered)
    (hnone : ∀ l ∈ lines, l.received = 0) : OrderStatus.open.Fits lines := by
  refine fits_of_iff (by simpa using hnone) ⟨nofun, ?_⟩
  intro hall
  obtain ⟨l, hl⟩ := List.exists_mem_of_ne_nil lines hlines
  have hpositive := hordered l hl
  rw [← hall l hl, hnone l hl] at hpositive
  exact absurd hpositive (Int.lt_irrefl 0)

/-- The status after a receipt is that of the lines, of which something has arrived. -/
theorem fits_statusAfterReceipt (hbounds : ∀ l ∈ lines, l.received ≤ l.ordered)
    (hsome : ∃ l ∈ lines, 0 < l.received) : (Store.statusAfterReceipt lines).Fits lines := by
  refine fits_of_iff ⟨?_, ?_⟩ ?_
  · intro hopen
    unfold Store.statusAfterReceipt at hopen
    split at hopen <;> cases hopen
  · intro hnone
    obtain ⟨l, hl, hpositive⟩ := hsome
    rw [hnone l hl] at hpositive
    exact absurd hpositive (Int.lt_irrefl 0)
  · unfold Store.statusAfterReceipt
    split
    · next hless =>
      simp only [List.any_eq_true, decide_eq_true_eq] at hless
      obtain ⟨l, hl, hlt⟩ := hless
      refine ⟨nofun, fun hall => ?_⟩
      exact absurd (hall l hl) (Int.ne_of_lt hlt)
    · next hless =>
      simp only [List.any_eq_true, decide_eq_true_eq, not_exists, not_and] at hless
      refine ⟨fun _ l hl => ?_, fun _ => rfl⟩
      exact Int.le_antisymm (hbounds l hl) (Int.not_lt.1 (hless l hl))

end OrderStatus

/-! ### Receipts on the lines -/

namespace Store

open PurchaseOrder

variable {order : String} {lines after : List OrderLine} {rs : List ReceiptLine}

/-- **A receipt is booked within the lines**: no more arrives than was ordered. -/
theorem bounds_receiveAll (hpositive : ∀ r ∈ rs, 0 < r.quantity)
    (hbounds : ∀ l ∈ lines, 0 ≤ l.received ∧ l.received ≤ l.ordered)
    (hk : (lines.map (·.product)).Nodup) (h : receiveAll order rs lines = .ok after) :
    ∀ l ∈ after, 0 ≤ l.received ∧ l.received ≤ l.ordered := by
  induction rs generalizing lines with
  | nil =>
    obtain rfl := Except.ok.inj h
    exact hbounds
  | cons r rs ih =>
    obtain ⟨hr, hrs⟩ := List.forall_mem_cons.1 hpositive
    simp only [receiveAll, Outcome.bind_eq_ok] at h
    obtain ⟨mid, hmid, hrest⟩ := h
    obtain ⟨l, hl, -, hle, rfl⟩ := receiveUnits_eq_ok hmid
    have hkmid : ((Rows.update (·.product) l.product
        (fun k => { k with received := k.received + r.quantity }) lines).map (·.product)).Nodup :=
      Rows.nodup_update hk fun _ => rfl
    refine ih hrs ?_ hkmid hrest
    intro k hkmem
    rcases (Rows.mem_update hk hl).1 hkmem with rfl | ⟨hold, -⟩
    · have hbound := hbounds l hl
      exact ⟨by simp only; omega, hle⟩
    · exact hbounds k hold

end Store

/-! ### One order -/

namespace PurchaseOrder.Tallies

variable {o : PurchaseOrder} {ms : List StockMovement}

/-- Movements that bring nothing in for the order do not matter. -/
theorem append (h : o.Tallies ms) {more : List StockMovement}
    (hmore : ∀ product, StockMovement.arrivals o.id product more = 0) : o.Tallies (ms ++ more) where
  nonempty := h.nonempty
  distinct := h.distinct
  ordered := h.ordered
  bounds := h.bounds
  arrived l hl := by rw [StockMovement.arrivals_append, hmore, Int.add_zero, h.arrived l hl]
  status := h.status

/-- **A receipt that is booked** on the lines and as movements. -/
theorem booked (h : o.Tallies ms) {rs : List ReceiptLine} {lines : List OrderLine} (ids : Ids)
    (now : Instant) (hsome : rs ≠ []) (hrs : (rs.map (·.product)).Nodup)
    (hpositive : ∀ r ∈ rs, 0 < r.quantity)
    (hbooked : Store.receiveAll o.id rs o.lines = .ok lines) :
    (Store.bookedOrder o lines now).Tallies (ms ++ Engine.receiptMovements ids o rs now) := by
  have hbounds := Store.bounds_receiveAll hpositive h.bounds h.distinct hbooked
  obtain ⟨r, hr⟩ := List.exists_mem_of_ne_nil rs hsome
  obtain ⟨k, hk, hproduct⟩ := Store.product_receiveAll hbooked r hr
  obtain rfl := Store.receiveAll_eq_map hbooked
  refine
    { nonempty := ?_, distinct := ?_, ordered := List.forall_mem_map.2 h.ordered, bounds := hbounds,
      arrived := List.forall_mem_map.2 ?_, status := ?_ }
  · exact fun hnil => h.nonempty (List.map_eq_nil_iff.1 hnil)
  · rw [Store.bookedOrder, List.map_map]
    exact h.distinct
  · intro l hl
    change l.received + ReceiptLine.unitsOf l.product rs =
      StockMovement.arrivals o.id l.product (ms ++ Engine.receiptMovements ids o rs now)
    rw [StockMovement.arrivals_append, StockMovement.arrivals_receipt, ← h.arrived l hl]
  · refine OrderStatus.fits_statusAfterReceipt (fun l hl => (hbounds l hl).2) ?_
    -- A product of the receipt has arrived.
    refine ⟨k.afterReceipt rs, List.mem_map_of_mem hk, ?_⟩
    have hunits : ReceiptLine.unitsOf k.product rs = r.quantity := by
      rw [hproduct]
      exact Rows.total_of_key hrs hr
    have hpos := hpositive r hr
    have hbefore := (h.bounds k hk).1
    rw [OrderLine.afterReceipt, hunits]
    simp only
    omega

end PurchaseOrder.Tallies

/-! ### What a change does -/

/-- **What a change does to orders and their arrivals.** -/
inductive OrderChange (s after : Store) : Prop
  /-- Nothing: what moves does not arrive. -/
  | none {ms : List StockMovement} (others : ∀ m ∈ ms, m.reason ≠ .receive)
      (orders : after.orders = s.orders) (movements : after.movements = s.movements ++ ms)
  /-- An order is added. -/
  | ordered {o : PurchaseOrder} (fresh : ∀ p ∈ s.orders, p.id ≠ o.id) (status : o.status = .open)
      (nonempty : o.lines ≠ []) (distinct : (o.lines.map (·.product)).Nodup)
      (lines : ∀ l ∈ o.lines, 0 < l.ordered ∧ l.received = 0)
      (orders : after.orders = s.orders ++ [o]) (movements : after.movements = s.movements)
  /-- A receipt is booked on the lines of an order that was not received yet, and as movements. -/
  | received {ids : Ids} {now : Instant} {o : PurchaseOrder} {rs : List ReceiptLine}
      {lines : List OrderLine} (mem : o ∈ s.orders) (unfinished : o.status ≠ .received)
      (nonempty : rs ≠ []) (distinct : (rs.map (·.product)).Nodup)
      (positive : ∀ r ∈ rs, 0 < r.quantity) (booked : Store.receiveAll o.id rs o.lines = .ok lines)
      (orders : after.orders =
        Rows.update (·.id) o.id (fun o => Store.bookedOrder o lines now) s.orders)
      (movements : after.movements = s.movements ++ Engine.receiptMovements ids o rs now)

theorem Engine.checkReceipt_eq_ok {rs : List ReceiptLine} (h : checkReceipt rs = .ok ()) :
    rs ≠ [] ∧ (rs.map (·.product)).Nodup ∧ ∀ r ∈ rs, 0 < r.quantity := by
  simp only [checkReceipt, Outcome.bind_eq_ok, Field.lineCount_eq_ok, Field.distinct_eq_ok,
    Field.each_eq_ok, Field.quantity_eq_ok] at h
  obtain ⟨-, hcount, -, hdistinct, hquantity⟩ := h
  exact ⟨List.length_pos_iff.1 hcount.1, hdistinct, fun r hr => (hquantity r hr).1⟩

/-- **Every change does one of these things to orders and their arrivals.** -/
theorem Change.orders {e : Engine} {now : Instant} {s after : Store} (h : Change e now s after) :
    OrderChange s after := by
  have hsame : ∀ {after : Store}, after.orders = s.orders → after.movements = s.movements →
      OrderChange s after := by
    intro after horders hmovements
    exact .none (fun _ hm => absurd hm List.not_mem_nil) horders
      (hmovements.trans (List.append_nil _).symm)
  cases h with
  | shiftOpened start added =>
    obtain ⟨-, -, -, rfl⟩ := Store.addShift_eq_ok.1 added
    exact hsame rfl rfl
  | productAdded check added =>
    obtain ⟨-, -, -, rfl⟩ := Store.addProduct_eq_ok.1 added
    exact hsame rfl rfl
  | supplierAdded check added =>
    obtain ⟨-, rfl⟩ := Store.addSupplier_eq_ok.1 added
    exact hsame rfl rfl
  | shiftClosed | entryRecorded | refused | purged => exact hsame rfl rfl
  | sold claims plan fits =>
    obtain ⟨sh₀, pricing, totals, -, -, hunit⟩ := Engine.planSale_eq_ok plan
    refine .none ?_ rfl rfl
    rw [hunit]
    exact Rows.forall_mem_mapIdx fun _ _ _ => nofun
  | voided plan fits =>
    refine .none ?_ rfl rfl
    rw [plan.unit]
    exact Rows.forall_mem_mapIdx fun _ _ _ => nofun
  | refunded elevated shift owned plan unit fits =>
    refine .none ?_ rfl rfl
    rw [unit]
    exact Rows.forall_mem_mapIdx fun _ _ _ => nofun
  | @orderAdded ids actor o _ elevated check products added =>
    obtain ⟨hfresh, -, hlines, hdistinct, rfl⟩ := Store.addOrder_eq_ok.1 added
    simp only [NewOrder.check, Outcome.bind_eq_ok, Field.lineCount_eq_ok] at check
    obtain ⟨_, -, _, hcount, -⟩ := check
    refine .ordered hfresh rfl ?_ hdistinct ?_ rfl rfl
    · simpa [NewOrder.make] using List.length_pos_iff.1 hcount.1
    · intro l hl
      obtain ⟨l', -, rfl⟩ := List.mem_map.1 hl
      exact ⟨(hlines _ hl).1, rfl⟩
  | @received ids actor lines o received u booked check owned receive unit fits =>
    obtain ⟨hnonempty, hdistinct, hpositive⟩ := Engine.checkReceipt_eq_ok check
    obtain rfl := unit
    exact .received (Store.order?_eq_some fits.found).1 fits.unfinished hnonempty hdistinct
      hpositive fits.lines rfl rfl

/-! ### Every order -/

/-- **The orders of a store agree with its movements.** -/
structure Store.OrdersTally (s : Store) : Prop where
  tallies : ∀ o ∈ s.orders, o.Tallies s.movements
  /-- What has arrived was ordered. -/
  placed : ∀ m ∈ s.movements, m.reason = .receive → m.reference ∈ s.orders.map (·.id)

theorem Store.ordersTally_empty : ({} : Store).OrdersTally := ⟨nofun, nofun⟩

namespace OrderChange

variable {s after : Store}

/-- **A change keeps orders and movements in agreement.** -/
theorem ordersTally (h : OrderChange s after) (k : s.Keyed) (tally : s.OrdersTally) :
    after.OrdersTally := by
  cases h with
  | @none ms others orders movements =>
    have hnothing : ∀ order product, StockMovement.arrivals order product ms = 0 :=
      fun _ _ => StockMovement.arrivals_eq_zero fun m hm harrives => others m hm harrives.1
    refine ⟨?_, ?_⟩ <;> rw [orders, movements]
    · exact fun o ho => (tally.tallies o ho).append (hnothing o.id)
    · intro m hm hreceive
      rcases List.mem_append.1 hm with hold | hnew
      · exact tally.placed m hold hreceive
      · exact absurd hreceive (others m hnew)
  | @ordered o fresh status nonempty distinct lines orders movements =>
    refine ⟨?_, ?_⟩ <;> rw [orders, movements]
    · intro o' ho'
      rcases List.mem_append.1 ho' with hold | hnew
      · exact tally.tallies o' hold
      · obtain rfl := List.mem_singleton.1 hnew
        have hordered : ∀ l ∈ o'.lines, 0 < l.ordered := fun l hl => (lines l hl).1
        have hnone : ∀ l ∈ o'.lines, l.received = 0 := fun l hl => (lines l hl).2
        refine
          { nonempty, distinct, ordered := hordered, bounds := ?_, arrived := ?_, status := ?_ }
        · intro l hl
          rw [hnone l hl]
          exact ⟨Int.le_refl 0, Int.le_of_lt (hordered l hl)⟩
        · intro l hl
          rw [hnone l hl, StockMovement.arrivals_eq_zero]
          -- No order had this identifier when units arrived.
          rintro m hm ⟨hreceive, hreference⟩
          obtain ⟨p, hp, hid⟩ := List.mem_map.1 (tally.placed m hm hreceive)
          exact fresh p hp (hid.trans hreference)
        · rw [status]
          exact OrderStatus.fits_open nonempty hordered hnone
    · intro m hm hreceive
      rw [List.map_append]
      exact List.mem_append_left _ (tally.placed m hm hreceive)
  | @received ids now o rs lines mem unfinished nonempty distinct positive booked orders
      movements =>
    refine ⟨?_, ?_⟩ <;> rw [orders, movements]
    · intro o' ho'
      rcases (Rows.mem_update k.orders mem).1 ho' with rfl | ⟨hold, hne⟩
      · exact (tally.tallies o mem).booked ids now nonempty distinct positive booked
      · exact (tally.tallies o' hold).append fun _ => StockMovement.arrivals_receipt_of_ne hne
    · intro m hm hreceive
      have hids : (Rows.update (·.id) o.id (fun o => Store.bookedOrder o lines now) s.orders).map
          (·.id) = s.orders.map (·.id) := by
        refine Rows.map_update ?_
        intro o
        rfl
      rw [hids]
      rcases List.mem_append.1 hm with hold | hnew
      · exact tally.placed m hold hreceive
      · obtain ⟨i, hi, rfl⟩ := List.mem_mapIdx.1 hnew
        exact List.mem_map_of_mem mem

/-- **An order that was received stays as it is.** -/
theorem mem_of_received (h : OrderChange s after) (k : s.Keyed) {o : PurchaseOrder}
    (ho : o ∈ s.orders) (hreceived : o.status = .received) : o ∈ after.orders := by
  cases h with
  | none _ orders => exact orders ▸ ho
  | ordered _ _ _ _ _ orders => exact orders ▸ List.mem_append_left _ ho
  | received mem unfinished _ _ _ _ orders =>
    rw [orders]
    refine (Rows.mem_update k.orders mem).2 (.inr ⟨ho, ?_⟩)
    intro hid
    obtain rfl := List.inj_on_of_nodup_map k.orders ho mem hid
    exact unfinished hreceived

end OrderChange

namespace Engine

variable {κ : Type}

theorem run_ordersTally (e : Engine) (c : CacheAccess κ) (now : Instant) (cache : κ)
    (steps : List (Step κ)) : (e.run c (World.empty now cache) steps).store.OrdersTally := by
  have hboth : (e.run c (World.empty now cache) steps).store.Keyed ∧
      (e.run c (World.empty now cache) steps).store.OrdersTally :=
    run_induction (P := fun s => s.Keyed ∧ s.OrdersTally)
      ⟨Store.keyed_empty, Store.ordersTally_empty⟩
      (fun h hs => ⟨hs.1.change h, h.orders.ordersTally hs.1 hs.2⟩) c now cache steps
  exact hboth.2

/-! ### Orders that were received -/

variable {e : Engine} {c : CacheAccess κ} {w : World κ} {o : PurchaseOrder}

theorem run_mem_of_received (k : w.store.Keyed) (ho : o ∈ w.store.orders)
    (hreceived : o.status = .received) (steps : List (Step κ)) :
    o ∈ (e.run c w steps).store.orders := by
  have hboth : (e.run c w steps).store.Keyed ∧ o ∈ (e.run c w steps).store.orders :=
    run_keeps (P := fun s => s.Keyed ∧ o ∈ s.orders)
      (fun h hs => ⟨hs.1.change h, h.orders.mem_of_received hs.1 hs.2 hreceived⟩) c ⟨k, ho⟩ steps
  exact hboth.2

/-- An order is found by the actors of its store. -/
theorem order?_of_mem_eq (k : w.store.Keyed) (ho : o ∈ w.store.orders) (store : String) :
    w.store.order? store o.id = if store = o.store then some o else none := by
  split
  · next hstore =>
    rw [hstore]
    exact Store.order?_of_mem k ho
  · next hstore =>
    cases hfound : w.store.order? store o.id with
    | none => rfl
    | some o' =>
      obtain ⟨ho', hid, hstore'⟩ := Store.order?_eq_some hfound
      obtain rfl := List.inj_on_of_nodup_map k.orders ho' ho hid
      exact absurd hstore'.symm hstore

/-- **An order that was received takes nothing more**: who belongs to its store is told that it is
closed, others do not find it, and nothing changes. -/
theorem handle_receiveOrder_closed (k : w.store.Keyed) (ho : o ∈ w.store.orders)
    (hreceived : o.status = .received) (ids : Ids) (actor : Actor) {rs : List ReceiptLine}
    (hrs : checkReceipt rs = .ok ()) :
    e.handle c ids actor (.receiveOrder o.id rs) w =
      (.error (.rejected (if actor.store = o.store then .orderClosed o.id
        else .notFound "Purchase order" o.id)), w) := by
  have hplan : planReceipt ids w.now actor o.id rs w.store =
      .error (.rejected (if actor.store = o.store then .orderClosed o.id
        else .notFound "Purchase order" o.id)) := by
    have hclosed : o.receive rs w.now = Outcome.reject (.orderClosed o.id) := if_pos hreceived
    simp only [planReceipt, hrs, Field.Check.run, Outcome.ofCheck, order,
      order?_of_mem_eq k ho actor.store]
    split
    · simp only [Outcome.ofOption, bind, Except.bind, hclosed, Outcome.reject]
    · rfl
  simp only [handle, change, Action.mapAnswer, World.onStore, receiveOrder, Action.transact, hplan,
    bind, Except.bind]

/-! ### Every run -/

/-- **An order was created** in a run, and is now a later state of what was created. -/
def OrderCreated (e : Engine) (c : CacheAccess κ) (start : World κ) (steps : List (Step κ))
    (o : PurchaseOrder) : Prop :=
  ∃ front back ids actor made, steps = front ++ .request ids actor (.createOrder made) :: back ∧
    (made.make ids.subject actor (e.run c start front).now) ∈
      (e.run c start (front ++ [.request ids actor (.createOrder made)])).store.orders ∧
    (made.make ids.subject actor (e.run c start front).now).Precedes o

theorem OrderCreated.step {start : World κ} {steps : List (Step κ)} {later : PurchaseOrder}
    (h : e.OrderCreated c start steps o) (hprecedes : o.Precedes later) (step : Step κ) :
    e.OrderCreated c start (steps ++ [step]) later := by
  obtain ⟨front, back, ids, actor, made, rfl, hmem, hmade⟩ := h
  exact ⟨front, back ++ [step], ids, actor, made, by simp, hmem, hmade.trans hprecedes⟩

/-- **Every order of a run was created in it.** -/
theorem run_ordersCreated (e : Engine) (c : CacheAccess κ) (now : Instant) (cache : κ)
    (steps : List (Step κ)) :
    ∀ o ∈ (e.run c (World.empty now cache) steps).store.orders,
      e.OrderCreated c (World.empty now cache) steps o := by
  induction steps using List.reverseRecOn with
  | nil => exact fun _ h => absurd h List.not_mem_nil
  | append_singleton steps step ih =>
    intro o' ho'
    have hafter := ho'
    rw [run_append, run_cons, run_nil] at hafter
    rcases e.apply_deed c (e.run c (World.empty now cache) steps) step with
      ⟨outcomes, hsame⟩ | ⟨ids, actor, r, rfl, hdeed⟩
    · rw [hsame] at hafter
      exact (ih o' hafter).step (.refl o') step
    · have k := (e.run_sound c now cache steps).keyed
      rcases hdeed.order_origin k o' hafter with ⟨o, ho, hprecedes⟩ | ⟨made, rfl, -, rfl, -⟩
      · exact (ih o ho).step hprecedes _
      · exact ⟨steps, [], ids, actor, made, rfl, ho', .refl _⟩

/-- **Orders in a run**: status, lines and movements agree, every order is one that was created, and
once it was received it stays as it is and takes nothing more.  An actor of another store is told
that there is no such order, as ever. -/
structure KeepsOrders (e : Engine) (c : CacheAccess κ) (start : World κ) (steps : List (Step κ)) :
    Prop where
  tallies : ∀ o ∈ (e.run c start steps).store.orders,
    o.Tallies (e.run c start steps).store.movements
  created : ∀ o ∈ (e.run c start steps).store.orders, e.OrderCreated c start steps o
  closed : ∀ front back, steps = front ++ back → ∀ o ∈ (e.run c start front).store.orders,
    o.status = .received → o ∈ (e.run c start steps).store.orders ∧
      ∀ ids actor rs, checkReceipt rs = .ok () →
        e.handle c ids actor (.receiveOrder o.id rs) (e.run c start steps) =
          (.error (.rejected (if actor.store = o.store then .orderClosed o.id
            else .notFound "Purchase order" o.id)), e.run c start steps)

/-- **Orders, receipts and movements stay in step** in every run. -/
theorem run_keepsOrders (e : Engine) (c : CacheAccess κ) (now : Instant) (cache : κ)
    (steps : List (Step κ)) : e.KeepsOrders c (World.empty now cache) steps where
  tallies := (e.run_ordersTally c now cache steps).tallies
  created := e.run_ordersCreated c now cache steps
  closed front back hsteps o ho hreceived := by
    have k : ∀ steps, (e.run c (World.empty now cache) steps).store.Keyed :=
      fun steps => (e.run_sound c now cache steps).keyed
    have hstays : o ∈ (e.run c (World.empty now cache) steps).store.orders := by
      rw [hsteps, run_append]
      exact run_mem_of_received (k front) ho hreceived back
    exact ⟨hstays, fun ids actor rs hrs =>
      handle_receiveOrder_closed (k steps) hstays hreceived ids actor hrs⟩

end Engine

/-! ### Actors of other stores -/

open DoubleSale (till ids stocking)

/-- **Not everybody is told that an order is closed**: the order of the till of `DoubleSale` was
received, and an actor of another store does not find it. -/
theorem Engine.not_closes_forStranger :
    ¬∀ o ∈ ((till 0).run Cache.access (World.empty ⟨0⟩ .absent) stocking).store.orders,
      o.status = .received → ∀ ids actor rs, checkReceipt rs = .ok () →
        ((till 0).handle Cache.access ids actor (.receiveOrder o.id rs)
          ((till 0).run Cache.access (World.empty ⟨0⟩ .absent) stocking)).1 =
          .error (.rejected (.orderClosed o.id)) := by
  intro hclosed
  rw [DoubleSale.run_stocking] at hclosed
  have hclosed := hclosed _ (List.mem_singleton_self _) rfl (ids "6")
    ⟨"stranger", .manager, "elsewhere", none⟩ [⟨"1", 1⟩] rfl
  cases hclosed

end Till
