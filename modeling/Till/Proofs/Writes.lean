import Till.Proofs.Outcome
import Till.Proofs.Rows
import Till.Store.Ledger
import Till.Store.Orders

/-!
# What the writes of the store do

Each write of the store tests a row and then adds or changes it.  The statements of this file say
for every write which tests it passes when it succeeds and what the store is afterwards:

* `Store.addProduct_eq_ok`, `Store.addSupplier_eq_ok`, `Store.addOrder_eq_ok`,
  `Store.addShift_eq_ok` : a row at the end of a table;
* `Store.addMovements_eq_ok`, `Store.addTransaction_eq_ok`, `Store.addRefund_eq_ok`,
  `Store.claimKey_eq_ok`, `Store.addOutcome_of_free` : the rows of a unit of work;
* `Store.appendEntry_eq_ok` : an event at the end of the log of an open shift;
* `Store.testAvailable_eq_ok` : what the test against overselling says.
-/

namespace Till

namespace Store

variable {s after : Store}

@[simp] theorem testNumbers_eq_ok {good : Bool} {u : Unit} :
    testNumbers good = .ok u ↔ good = true :=
  Outcome.require_eq_ok

@[simp] theorem testKey_eq_ok {columns : String} {taken : Bool} {u : Unit} :
    testKey columns taken = .ok u ↔ taken = false := by
  simp [testKey]

@[simp] theorem testReference_eq_ok {exists' : Bool} {u : Unit} :
    testReference exists' = .ok u ↔ exists' = true :=
  Outcome.require_eq_ok

/-! ### Catalog and orders -/

theorem addProduct_eq_ok {p : Product} :
    s.addProduct p = .ok after ↔ 0 ≤ p.unitPrice ∧ s.hasSku p.store p.sku = false ∧
      s.hasProduct p.id = false ∧ after = { s with products := s.products ++ [p] } := by
  simp [addProduct, eq_comm (a := after)]

theorem addSupplier_eq_ok {p : Supplier} :
    s.addSupplier p = .ok after ↔
      s.hasSupplier p.id = false ∧ after = { s with suppliers := s.suppliers ++ [p] } := by
  simp [addSupplier, eq_comm (a := after)]

/-- The numbers of a line of an order are in order, and its product is there. -/
def IsOrderLine (s : Store) (l : OrderLine) : Prop :=
  0 < l.ordered ∧ 0 ≤ l.received ∧ l.received ≤ l.ordered ∧ 0 ≤ l.unitCost ∧
    s.hasProduct l.product = true

theorem testOrderLines_eq_ok {before : List String} {lines : List OrderLine} {u : Unit} :
    s.testOrderLines before lines = .ok u ↔
      (∀ l ∈ lines, s.IsOrderLine l ∧ l.product ∉ before) ∧ (lines.map (·.product)).Nodup := by
  -- The product of a line joins those before the lines that follow it.
  induction lines generalizing before with
  | nil => simp [testOrderLines]
  | cons l lines ih =>
    simp only [testOrderLines, testOrderLine, Outcome.bind_eq_ok, testNumbers_eq_ok, testKey_eq_ok,
      testReference_eq_ok, ih, decide_eq_true_eq, List.contains_eq_mem, decide_eq_false_iff_not,
      List.mem_cons, not_or, forall_eq_or_imp, List.map_cons, List.nodup_cons, List.mem_map,
      not_exists, not_and, IsOrderLine]
    constructor
    · rintro ⟨-, ⟨-, ⟨h₁, h₂, h₃, h₄⟩, -, hnew, h₅⟩, hlines, hdistinct⟩
      refine ⟨⟨⟨⟨h₁, h₂, h₃, h₄, h₅⟩, hnew⟩, ?_⟩, ?_, hdistinct⟩
      · intro k hk
        obtain ⟨hline, -, hbefore⟩ := hlines k hk
        exact ⟨hline, hbefore⟩
      · intro k hk
        exact (hlines k hk).2.1
    · rintro ⟨⟨⟨⟨h₁, h₂, h₃, h₄, h₅⟩, hnew⟩, hlines⟩, hfirst, hdistinct⟩
      refine ⟨(), ⟨(), ⟨h₁, h₂, h₃, h₄⟩, (), hnew, h₅⟩, ?_, hdistinct⟩
      intro k hk
      obtain ⟨hline, hbefore⟩ := hlines k hk
      exact ⟨hline, hfirst k hk, hbefore⟩

theorem addOrder_eq_ok {o : PurchaseOrder} :
    s.addOrder o = .ok after ↔ (∀ p ∈ s.orders, p.id ≠ o.id) ∧ s.hasSupplier o.supplier = true ∧
      (∀ l ∈ o.lines, s.IsOrderLine l) ∧ (o.lines.map (·.product)).Nodup ∧
      after = { s with orders := s.orders ++ [o] } := by
  simp [addOrder, testOrderLines_eq_ok, and_assoc, eq_comm (a := after)]

/-! ### Shifts and their logs -/

theorem addShift_eq_ok {sh : Shift} :
    s.addShift sh = .ok after ↔ 0 ≤ sh.openingCash ∧ s.hasShift sh.id = false ∧
      s.openShift? sh.cashier sh.store = none ∧
      after = { s with shifts := s.shifts ++ [unused sh] } := by
  simp [addShift, and_assoc, eq_comm (a := after)]

/-- The store with an event in the log of its shift. -/
def logged (s : Store) (e : DrawerEvent) : Store :=
  s.updateShift e.shift fun sh => { sh with events := placeEvent e sh.events }

theorem addEvent_eq_ok {e : DrawerEvent} :
    s.addEvent e = .ok after ↔ 0 ≤ e.amount ∧ s.hasPosition e.shift e.seq = false ∧
      s.hasEvent e.id = false ∧ s.hasShift e.shift = true ∧ after = s.logged e := by
  simp [addEvent, logged, eq_comm (a := after)]

/-- **An event is appended** to the log of an open shift that has no event of its identifier. -/
structure Appends (s : Store) (sh : Shift) (e : DrawerEvent) : Prop where
  found : s.shift? e.shift = some sh
  isOpen : sh.isOpen = true
  /-- The position is the one after the last of the log. -/
  seq : e.seq = nextSeq sh.events
  fits : Cents.Fits e.seq
  amount : 0 ≤ e.amount
  position : s.hasPosition e.shift e.seq = false
  fresh : s.hasEvent e.id = false

/-- Whether an event is appended is a matter of the shifts. -/
theorem Appends.of_shifts {s' : Store} {sh : Shift} {e : DrawerEvent} (h : s'.Appends sh e)
    (hshifts : s.shifts = s'.shifts) : s.Appends sh e where
  found := by
    rw [shift?, hshifts]
    exact h.found
  isOpen := h.isOpen
  seq := h.seq
  fits := h.fits
  amount := h.amount
  position := by
    rw [hasPosition, hshifts]
    exact h.position
  fresh := by
    rw [hasEvent, hshifts]
    exact h.fresh

theorem appendEntry_eq_ok {shift id : String} {entry : DrawerEntry} {at' : Instant}
    {e : DrawerEvent} (h : s.appendEntry shift id entry at' = .ok (after, e)) :
    ∃ sh, e = entry.place id shift (nextSeq sh.events) at' ∧ s.Appends sh e ∧
      after = s.logged e := by
  unfold appendEntry at h
  cases hfound : s.shift? shift with
  | none => simp [hfound] at h
  | some sh =>
    cases hopen : sh.isOpen with
    | false => simp [hfound, hopen] at h
    | true =>
      simp only [hfound, hopen, if_true, Outcome.bind_eq_ok, Outcome.ofOption_eq_ok,
        Cents.checked_eq_some, Outcome.pure_eq_ok, addEvent_eq_ok, Prod.mk.injEq] at h
      obtain ⟨_, ⟨hfits, rfl⟩, _, ⟨hamount, hposition, hid, -, rfl⟩, rfl, rfl⟩ := h
      exact ⟨sh, rfl, ⟨hfound, hopen, rfl, hfits, hamount, hposition, hid⟩, rfl⟩

/-! ### Movements -/

theorem addMovement_eq_ok {m : StockMovement} :
    s.addMovement m = .ok after ↔ m.delta ≠ 0 ∧ (∀ n ∈ s.movements, n.id ≠ m.id) ∧
      s.hasProduct m.product = true ∧ after = { s with movements := s.movements ++ [m] } := by
  simp [addMovement, eq_comm (a := after)]

theorem addMovements_eq_ok {ms : List StockMovement} :
    s.addMovements ms = .ok after ↔
      (∀ m ∈ ms, m.delta ≠ 0 ∧ s.hasProduct m.product = true ∧ ∀ n ∈ s.movements, n.id ≠ m.id) ∧
      (ms.map (·.id)).Nodup ∧ after = { s with movements := s.movements ++ ms } := by
  -- The rest of the movements is added to a store that has the first one.
  induction ms generalizing s with
  | nil => simp [addMovements, eq_comm (a := after)]
  | cons m ms ih =>
    simp only [addMovements, Outcome.bind_eq_ok, addMovement_eq_ok, ih, List.mem_cons,
      forall_eq_or_imp, List.map_cons, List.nodup_cons, List.mem_map, not_exists, not_and]
    constructor
    · rintro ⟨_, ⟨hm, hfresh, hp, rfl⟩, hrest, hdistinct, rfl⟩
      refine ⟨⟨⟨hm, hp, hfresh⟩, ?_⟩, ⟨?_, hdistinct⟩, by simp⟩
      · intro k hk
        obtain ⟨h₁, h₂, h₃⟩ := hrest k hk
        exact ⟨h₁, h₂, fun n hn => h₃ n (List.mem_append_left _ hn)⟩
      · intro k hk
        exact Ne.symm ((hrest k hk).2.2 m (by simp))
    · rintro ⟨⟨⟨hm, hp, hfresh⟩, hrest⟩, ⟨hfirst, hdistinct⟩, rfl⟩
      refine ⟨_, ⟨hm, hfresh, hp, rfl⟩, ?_, hdistinct, by simp⟩
      intro k hk
      obtain ⟨h₁, h₂, h₃⟩ := hrest k hk
      refine ⟨h₁, h₂, ?_⟩
      intro n hn
      rcases List.mem_append.1 hn with hn | hn
      · exact h₃ n hn
      · rw [List.mem_singleton.1 hn]
        exact Ne.symm (hfirst k hk)

/-! ### Transactions and refunds -/

theorem testLines_eq_ok {before : List Int} {lines : List LineItem} {u : Unit} :
    s.testLines before lines = .ok u ↔
      (∀ l ∈ lines, 0 < l.quantity ∧ s.hasProduct l.product = true ∧ l.number ∉ before) ∧
      (lines.map (·.number)).Nodup := by
  induction lines generalizing before with
  | nil => simp [testLines]
  | cons l lines ih =>
    simp only [testLines, Outcome.bind_eq_ok, testNumbers_eq_ok, testKey_eq_ok,
      testReference_eq_ok, ih, decide_eq_true_eq, List.contains_eq_mem, decide_eq_false_iff_not,
      List.mem_cons, not_or, forall_eq_or_imp, List.map_cons, List.nodup_cons, List.mem_map,
      not_exists, not_and]
    constructor
    · rintro ⟨-, hq, -, hnew, -, hp, hlines, hdistinct⟩
      refine ⟨⟨⟨hq, hp, hnew⟩, ?_⟩, ?_, hdistinct⟩
      · intro k hk
        obtain ⟨hquantity, hproduct, -, hbefore⟩ := hlines k hk
        exact ⟨hquantity, hproduct, hbefore⟩
      · intro k hk
        exact (hlines k hk).2.2.1
    · rintro ⟨⟨⟨hq, hp, hnew⟩, hlines⟩, hfirst, hdistinct⟩
      refine ⟨(), hq, (), hnew, (), hp, ?_, hdistinct⟩
      intro k hk
      obtain ⟨hquantity, hproduct, hbefore⟩ := hlines k hk
      exact ⟨hquantity, hproduct, hfirst k hk, hbefore⟩

theorem addTransaction_eq_ok {t : Transaction} :
    s.addTransaction t = .ok after ↔ (0 ≤ t.refunded ∧ t.refunded ≤ t.grand) ∧
      s.hasTransaction t.id = false ∧ s.hasShift t.shift = true ∧
      (∀ l ∈ t.lines, 0 < l.quantity ∧ s.hasProduct l.product = true) ∧
      (t.lines.map (·.number)).Nodup ∧
      after = { s with transactions := s.transactions ++ [unvoided t] } := by
  simp [addTransaction, testLines_eq_ok, and_assoc, eq_comm (a := after)]

theorem addRefund_eq_ok {r : Refund} :
    s.addRefund r = .ok after ↔ 0 < r.amount ∧ (∀ q ∈ s.refunds, q.id ≠ r.id) ∧
      s.hasTransaction r.transaction = true ∧ s.hasShift r.shift = true ∧
      after = { s with refunds := s.refunds ++ [r] } := by
  simp [addRefund, and_assoc, eq_comm (a := after)]

/-! ### Stored outcomes -/

/-- The store in which a record stands under its key, and an expired one is forgotten. -/
def remembered (s : Store) (r : OutcomeRecord) (now : Instant) : Store :=
  { s with outcomes := (s.forgetExpired r now).outcomes ++ [r.kept] }

theorem claimKey_eq_ok {r : OutcomeRecord} {now : Instant} :
    s.claimKey r now = .ok after ↔
      (s.forgetExpired r now).hasOutcome r.store r.cashier r.key = false ∧
      after = s.remembered r now := by
  unfold claimKey addOutcome
  cases h : (s.forgetExpired r now).hasOutcome r.store r.cashier r.key with
  | true => simp [h]
  | false =>
    simp only [h, Bool.false_eq_true, if_false, Except.ok.injEq, true_and]
    exact eq_comm

theorem hasOutcome_forgetExpired {r : OutcomeRecord} {now : Instant}
    (h : s.outcome? r.store r.cashier r.key now = none) :
    (s.forgetExpired r now).hasOutcome r.store r.cashier r.key = false := by
  simp only [outcome?, List.find?_eq_none] at h
  simp only [hasOutcome, forgetExpired, List.any_eq_false, List.mem_filter]
  rintro o ⟨ho, hkept⟩ hbelongs
  have hlive := h o ho
  simp only [hbelongs, Bool.true_and, Bool.not_eq_true] at hlive
  simp [hbelongs, hlive] at hkept

theorem addOutcome_of_free {r : OutcomeRecord} {now : Instant}
    (h : s.outcome? r.store r.cashier r.key now = none) :
    s.addOutcome r now = (s.remembered r now, true) := by
  simp only [addOutcome, hasOutcome_forgetExpired h, Bool.false_eq_true, if_false]
  rfl

/-- A live record refuses another one under its key. -/
theorem addOutcome_of_taken {r o : OutcomeRecord} {now : Instant}
    (h : s.outcome? r.store r.cashier r.key now = some o) :
    s.addOutcome r now = (s.forgetExpired r now, false) := by
  have hfound := List.find?_some h
  obtain ⟨hbelongs, hlive⟩ := Bool.and_eq_true_iff.1 hfound
  have hheld : (s.forgetExpired r now).hasOutcome r.store r.cashier r.key = true := by
    refine List.any_eq_true.2 ⟨o, List.mem_filter.2 ⟨List.mem_of_find?_eq_some h, ?_⟩, hbelongs⟩
    rw [hbelongs, hlive]
    rfl
  simp only [addOutcome, hheld, if_true]

theorem claimKey_of_free {r : OutcomeRecord} {now : Instant}
    (h : s.outcome? r.store r.cashier r.key now = none) :
    s.claimKey r now = .ok (s.remembered r now) := by
  rw [claimKey, addOutcome_of_free h]

theorem claimKey_of_taken {r o : OutcomeRecord} {now : Instant}
    (h : s.outcome? r.store r.cashier r.key now = some o) :
    s.claimKey r now = Outcome.reject (.rejected (.inFlight r.key)) := by
  rw [claimKey, addOutcome_of_taken h]

/-- Without a live record under a key, remembering another one leaves the records of other keys. -/
theorem remembered_of_free {r : OutcomeRecord} {now : Instant}
    (h : s.outcome? r.store r.cashier r.key now = none) :
    s.remembered r now = { s with
      outcomes :=
        (s.outcomes.filter fun o => !belongs r.store r.cashier r.key o) ++ [r.kept] } := by
  simp only [outcome?, List.find?_eq_none] at h
  have hfilter : (s.forgetExpired r now).outcomes =
      s.outcomes.filter fun o => !belongs r.store r.cashier r.key o := by
    refine List.filter_congr ?_
    intro o ho
    have hlive := h o ho
    cases hbelongs : belongs r.store r.cashier r.key o with
    | false => rfl
    | true =>
      rw [hbelongs, Bool.true_and, Bool.not_eq_true] at hlive
      rw [hlive]
      rfl
  rw [remembered, hfilter]

/-! ### Prices and stock -/

/-- The lines have the prices of the catalog. -/
def PricedByCatalog (s : Store) (store : String) (lines : List LineItem) : Prop :=
  ∀ l ∈ lines, ∃ p, s.activeProduct? store l.product = some p ∧ p.unitPrice = l.unitPrice

theorem testPrices_eq_ok {store : String} {lines : List LineItem} {u : Unit} :
    s.testPrices store lines = .ok u ↔ s.PricedByCatalog store lines := by
  induction lines with
  | nil => simp [testPrices, PricedByCatalog]
  | cons l lines ih =>
    simp only [PricedByCatalog] at ih
    cases hp : s.activeProduct? store l.product with
    | none => simp [testPrices, testPrice, hp, PricedByCatalog]
    | some p => simp [testPrices, testPrice, hp, PricedByCatalog, ih]

theorem testCatalogPrices_eq_ok {t : Transaction} {u : Unit} :
    s.testCatalogPrices t = .ok u ↔
      t.pricing.source = .manual ∨ s.PricedByCatalog t.store t.lines := by
  unfold testCatalogPrices
  cases t.pricing.source <;> simp [testPrices_eq_ok]

theorem testUnits_eq_ok {store product : String} {requested : Int} {u : Unit} :
    s.testUnits store product requested = .ok u ↔ (s.activeProduct? store product).isSome ∧
      ∃ available, s.stockLevel store product = .ok available ∧ requested ≤ available := by
  unfold testUnits
  cases s.activeProduct? store product <;> simp

theorem testDemand_eq_ok {store : String} {demanded : List (String × Int)} {u : Unit} :
    s.testDemand store demanded = .ok u ↔
      ∀ d ∈ demanded, s.testUnits store d.1 d.2 = .ok () := by
  induction demanded with
  | nil => simp [testDemand]
  | cons d demanded ih =>
    simp only [testDemand, Outcome.bind_eq_ok, ih, List.forall_mem_cons]
    constructor
    · rintro ⟨⟨⟩, hd, hrest⟩
      exact ⟨hd, hrest⟩
    · rintro ⟨hd, hrest⟩
      exact ⟨(), hd, hrest⟩

/-- A single movement asks for as many units as it takes away. -/
theorem demand_singleton {m : StockMovement} (hleaves : m.delta < 0)
    (hfits : Cents.Fits (-m.delta)) : demand [m] = .ok [(m.product, -m.delta)] := by
  have hproducts : productsLeaving [m] = [m.product] := by
    simp only [productsLeaving, List.filter_singleton, decide_eq_true hleaves, cond_true,
      List.map_singleton, Text.sortedDistinct, List.mergeSort_singleton]
    rfl
  have hunits : unitsLeaving [m] m.product = .ok (-m.delta) := by
    simp only [unitsLeaving, List.filter_singleton, decide_eq_true hleaves, beq_self_eq_true,
      Bool.and_self, cond_true, List.map_singleton, Cents.total, List.foldlM_cons, Int.zero_add,
      Cents.exact_of_fits hfits]
    rfl
  rw [demand, hproducts, List.mapM_cons, hunits]
  rfl

/-- **What leaves is there**: of every product of which units leave, there are as many in stock, and
the product is sold. -/
theorem testAvailable_eq_ok {store : String} {ms : List StockMovement} {u : Unit}
    (h : s.testAvailable store ms = .ok u) {m : StockMovement} (hm : m ∈ ms) (hneg : m.delta < 0) :
    (s.activeProduct? store m.product).isSome ∧
      ∃ units available, unitsLeaving ms m.product = .ok units ∧
        s.stockLevel store m.product = .ok available ∧ units ≤ available := by
  simp only [testAvailable, demand, Outcome.bind_eq_ok, testDemand_eq_ok] at h
  obtain ⟨demanded, hdemand, htests⟩ := h
  have hmem : m.product ∈ productsLeaving ms := by
    rw [productsLeaving, Text.mem_sortedDistinct]
    exact List.mem_map_of_mem (List.mem_filter.2 ⟨hm, decide_eq_true hneg⟩)
  obtain ⟨d, hd, hpair⟩ := Outcome.exists_of_mapM_eq_ok hdemand hmem
  simp only [Outcome.bind_eq_ok, Outcome.pure_eq_ok] at hpair
  obtain ⟨units, hunits, rfl⟩ := hpair
  obtain ⟨hactive, available, hlevel, hle⟩ := testUnits_eq_ok.1 (htests _ hd)
  exact ⟨hactive, units, available, hunits, hlevel, hle⟩

end Store

end Till
