import Till.Proofs.Catalog

/-!
# The part of a store

The tables of a till hold the rows of all stores.  `Store.part` keeps those of one of them.  What
concerns this store only is read from its part as from the whole, and writing a row of this store
and taking the part can be done in either order, as long as no other store has a row of the same
identifier: identifiers are looked up in the tables of all stores.

* `Store.product?_part`, `Store.openShift?_part` and so on : reading;
* `Store.addProduct_part`, `Store.appendEntry_part` and so on : writing a row;
* `Store.commitSale_part`, `Store.commitVoid_part`, `Store.commitRefund_part`,
  `Store.commitReceipt_part` : the units of work.
-/

namespace Till

/-! ### Outcomes -/

namespace Outcome

variable {ε α β γ : Type}

/-- One computation after another, each of which is followed by a map. -/
theorem bind_eq_map {x : Except ε α} {x' : Except ε α} {f : α → α} {k : α → Except ε β}
    {k' : α → Except ε γ} {g : β → γ} (hx : x' = f <$> x)
    (hk : ∀ a, x = .ok a → k' (f a) = g <$> k a) : (x' >>= k') = g <$> (x >>= k) := by
  subst hx
  cases x with
  | error fault => rfl
  | ok a => exact hk a rfl

/-- The same computation before another one that is followed by a map. -/
theorem bind_eq_map_of_eq {x x' : Except ε α} {k : α → Except ε β} {k' : α → Except ε γ}
    {g : β → γ} (hx : x' = x) (hk : ∀ a, x = .ok a → k' a = g <$> k a) :
    (x' >>= k') = g <$> (x >>= k) := by
  refine bind_eq_map (f := id) ?_ hk
  rw [hx, id_map]

end Outcome

theorem Stored.result_eq_map {α β : Type} {f : α → β} {x : Stored α} {x' : Stored β}
    (h : x' = f <$> x) : Stored.result x' = f <$> Stored.result x := by
  subst h
  match x with
  | .ok a => rfl
  | .error (.rejected reason) => rfl
  | .error .overflow => rfl

namespace Store

/-! ### The part of a store -/

/-- The rows of a store. -/
def part (s : Store) (store : String) : Store where
  products := s.products.filter (·.store == store)
  suppliers := s.suppliers.filter (·.store == store)
  orders := s.orders.filter (·.store == store)
  shifts := s.shifts.filter (·.store == store)
  transactions := s.transactions.filter (·.store == store)
  refunds := s.refunds.filter (·.store == store)
  movements := s.movements.filter (·.store == store)
  outcomes := s.outcomes.filter (·.store == store)

variable {s : Store} {b : String}

/-! ### Reading -/

@[simp] theorem product?_part (s : Store) (b id : String) :
    (s.part b).product? b id = s.product? b id :=
  Rows.find?_filter_of_imp fun p _ h => by simp_all

@[simp] theorem activeProduct?_part (s : Store) (b id : String) :
    (s.part b).activeProduct? b id = s.activeProduct? b id :=
  Rows.find?_filter_of_imp fun p _ h => by simp_all

@[simp] theorem hasSku_part (s : Store) (b sku : String) :
    (s.part b).hasSku b sku = s.hasSku b sku :=
  Rows.any_filter_of_imp fun p _ h => by simp_all

@[simp] theorem supplier?_part (s : Store) (b id : String) :
    (s.part b).supplier? b id = s.supplier? b id :=
  Rows.find?_filter_of_imp fun p _ h => by simp_all

@[simp] theorem order?_part (s : Store) (b id : String) :
    (s.part b).order? b id = s.order? b id :=
  Rows.find?_filter_of_imp fun o _ h => by simp_all

@[simp] theorem openShift?_part (s : Store) (cashier b : String) :
    (s.part b).openShift? cashier b = s.openShift? cashier b :=
  Rows.find?_filter_of_imp fun sh _ h => by simp_all

@[simp] theorem transaction?_part (s : Store) (b id : String) :
    (s.part b).transaction? b id = s.transaction? b id :=
  Rows.find?_filter_of_imp fun t _ h => by simp_all

@[simp] theorem transactionsWithin_part (s : Store) (b : String) (start stop : Instant) :
    (s.part b).transactionsWithin b start stop = s.transactionsWithin b start stop :=
  congrArg (List.mergeSort · isListedFirst) (Rows.filter_filter_of_imp fun t _ h => by simp_all)

@[simp] theorem movementsOf_part (s : Store) (b product : String) :
    (s.part b).movementsOf b product = s.movementsOf b product :=
  Rows.filter_filter_of_imp fun m _ h => by simp_all

@[simp] theorem stockLevel_part (s : Store) (b product : String) :
    (s.part b).stockLevel b product = s.stockLevel b product := by
  rw [stockLevel, movementsOf_part, stockLevel]

@[simp] theorem outcome?_part (s : Store) (b cashier key : String) (now : Instant) :
    (s.part b).outcome? b cashier key now = s.outcome? b cashier key now :=
  Rows.find?_filter_of_imp fun r _ h => by simp_all [belongs]

@[simp] theorem hasOutcome_part (s : Store) (b cashier key : String) :
    (s.part b).hasOutcome b cashier key = s.hasOutcome b cashier key :=
  Rows.any_filter_of_imp fun r _ h => by simp_all [belongs]

@[simp] theorem testPrices_part (s : Store) (b : String) (lines : List LineItem) :
    (s.part b).testPrices b lines = s.testPrices b lines := by
  induction lines with
  | nil => rfl
  | cons l lines ih => simp only [testPrices, testPrice, activeProduct?_part, ih]

@[simp] theorem testDemand_part (s : Store) (b : String) (demanded : List (String × Int)) :
    (s.part b).testDemand b demanded = s.testDemand b demanded := by
  induction demanded with
  | nil => rfl
  | cons d demanded ih =>
    simp only [testDemand, testUnits, activeProduct?_part, stockLevel_part, ih]

@[simp] theorem testAvailable_part (s : Store) (b : String) (ms : List StockMovement) :
    (s.part b).testAvailable b ms = s.testAvailable b ms := by
  simp only [testAvailable, testDemand_part]

/-- A shift is found in the part if it is of the store. -/
theorem shift?_part (k : s.Keyed) (id : String) :
    (s.part b).shift? id = (s.shift? id).filter (·.store == b) :=
  Rows.find?_filter_key k.shifts id

/-! ### Looking for identifiers -/

theorem hasProduct_part {id : String} (h : ∀ p ∈ s.products, p.id = id → p.store = b) :
    (s.part b).hasProduct id = s.hasProduct id :=
  Rows.any_filter_of_imp fun p hp hid => by simpa using h p hp (by simpa using hid)

theorem hasSupplier_part {id : String} (h : ∀ p ∈ s.suppliers, p.id = id → p.store = b) :
    (s.part b).hasSupplier id = s.hasSupplier id :=
  Rows.any_filter_of_imp fun p hp hid => by simpa using h p hp (by simpa using hid)

theorem hasShift_part {id : String} (h : ∀ sh ∈ s.shifts, sh.id = id → sh.store = b) :
    (s.part b).hasShift id = s.hasShift id :=
  Rows.any_filter_of_imp fun sh hsh hid => by simpa using h sh hsh (by simpa using hid)

theorem hasTransaction_part {id : String} (h : ∀ t ∈ s.transactions, t.id = id → t.store = b) :
    (s.part b).hasTransaction id = s.hasTransaction id :=
  Rows.any_filter_of_imp fun t ht hid => by simpa using h t ht (by simpa using hid)

theorem hasPosition_part {shift : String} {seq : Int}
    (h : ∀ sh ∈ s.shifts, sh.id = shift → sh.store = b) :
    (s.part b).hasPosition shift seq = s.hasPosition shift seq := by
  refine Rows.any_filter_of_imp ?_
  intro sh hsh hfound
  rw [Bool.and_eq_true, beq_iff_eq] at hfound
  exact beq_iff_eq.2 (h sh hsh hfound.1)

theorem hasEvent_part {id : String}
    (h : ∀ sh ∈ s.shifts, ∀ ev ∈ sh.events, ev.id = id → sh.store = b) :
    (s.part b).hasEvent id = s.hasEvent id := by
  refine Rows.any_filter_of_imp ?_
  intro sh hsh hfound
  obtain ⟨ev, hev, hid⟩ := List.any_eq_true.1 hfound
  exact beq_iff_eq.2 (h sh hsh ev hev (beq_iff_eq.1 hid))

/-! ### Writing rows -/

theorem addProduct_part {p : Product} (hstore : p.store = b)
    (hid : ∀ q ∈ s.products, q.id = p.id → q.store = b) :
    (s.part b).addProduct p = (·.part b) <$> s.addProduct p := by
  subst hstore
  simp only [addProduct, hasSku_part, hasProduct_part hid, map_bind, map_pure]
  simp [part]

theorem addSupplier_part {p : Supplier} (hstore : p.store = b)
    (hid : ∀ q ∈ s.suppliers, q.id = p.id → q.store = b) :
    (s.part b).addSupplier p = (·.part b) <$> s.addSupplier p := by
  simp only [addSupplier, hasSupplier_part hid, map_bind, map_pure]
  simp [part, hstore]

theorem testOrderLines_part {lines : List OrderLine} (before : List String)
    (h : ∀ l ∈ lines, ∀ p ∈ s.products, p.id = l.product → p.store = b) :
    (s.part b).testOrderLines before lines = s.testOrderLines before lines := by
  induction lines generalizing before with
  | nil => rfl
  | cons l lines ih =>
    obtain ⟨hl, hlines⟩ := List.forall_mem_cons.1 h
    simp only [testOrderLines, testOrderLine, hasProduct_part hl, ih _ hlines]

theorem addOrder_part {o : PurchaseOrder} (hstore : o.store = b)
    (hid : ∀ p ∈ s.orders, p.id = o.id → p.store = b)
    (hsupplier : ∀ p ∈ s.suppliers, p.id = o.supplier → p.store = b)
    (hlines : ∀ l ∈ o.lines, ∀ p ∈ s.products, p.id = l.product → p.store = b) :
    (s.part b).addOrder o = (·.part b) <$> s.addOrder o := by
  have hkey : (s.part b).orders.any (fun p => p.id == o.id) = s.orders.any fun p => p.id == o.id :=
    Rows.any_filter_of_imp fun p hp hfound => by simpa using hid p hp (by simpa using hfound)
  simp only [addOrder, hkey, hasSupplier_part hsupplier, testOrderLines_part _ hlines, map_bind,
    map_pure]
  simp [part, hstore]

theorem addShift_part {sh : Shift} (hstore : sh.store = b)
    (hid : ∀ sh' ∈ s.shifts, sh'.id = sh.id → sh'.store = b) :
    (s.part b).addShift sh = (·.part b) <$> s.addShift sh := by
  subst hstore
  simp only [addShift, hasShift_part hid, openShift?_part, map_bind, map_pure]
  simp [part, unused]

theorem updateShift_part (s : Store) (b id : String) {f : Shift → Shift}
    (hf : ∀ sh, (f sh).store = sh.store) :
    (s.part b).updateShift id f = (s.updateShift id f).part b := by
  have hshifts : (Rows.update (·.id) id f s.shifts).filter (·.store == b) =
      Rows.update (·.id) id f (s.shifts.filter (·.store == b)) :=
    Rows.filter_update fun sh => congrArg (· == b) (hf sh)
  simp only [updateShift, part, Store.mk.injEq, true_and, and_true]
  exact hshifts.symm

theorem addEvent_part {ev : DrawerEvent} (hshift : ∀ sh ∈ s.shifts, sh.id = ev.shift → sh.store = b)
    (hid : ∀ sh ∈ s.shifts, ∀ ev' ∈ sh.events, ev'.id = ev.id → sh.store = b) :
    (s.part b).addEvent ev = (·.part b) <$> s.addEvent ev := by
  simp only [addEvent, hasPosition_part hshift, hasEvent_part hid, hasShift_part hshift, map_bind,
    map_pure]
  rw [updateShift_part]
  intro sh
  rfl

theorem appendEntry_part {shift entryId : String} {entry : DrawerEntry} {now : Instant}
    (hshift : ∀ sh ∈ s.shifts, sh.id = shift → sh.store = b)
    (hid : ∀ sh ∈ s.shifts, ∀ ev ∈ sh.events, ev.id = entryId → sh.store = b) :
    (s.part b).appendEntry shift entryId entry now =
      Prod.map (·.part b) id <$> s.appendEntry shift entryId entry now := by
  have hfound : (s.part b).shift? shift = s.shift? shift :=
    Rows.find?_filter_of_imp fun sh hsh hfound => by
      simpa using hshift sh hsh (by simpa using hfound)
  simp only [appendEntry, hfound]
  cases s.shift? shift with
  | none => rfl
  | some sh =>
    by_cases hopen : sh.isOpen = true
    · simp only [hopen, if_true]
      refine Outcome.bind_eq_map_of_eq rfl fun seq _ => ?_
      exact Outcome.bind_eq_map (addEvent_part hshift hid) fun after _ => rfl
    · simp only [hopen]
      rfl

theorem closeShift_part {closed : Shift}
    (hshift : ∀ sh ∈ s.shifts, sh.id = closed.id → sh.store = b)
    (hlast : ∀ ev, closed.events.getLast? = some ev → ev.shift = closed.id ∧
      ∀ sh ∈ s.shifts, ∀ ev' ∈ sh.events, ev'.id = ev.id → sh.store = b) :
    (s.part b).closeShift closed = (·.part b) <$> s.closeShift closed := by
  have hfound : (s.part b).shift? closed.id = s.shift? closed.id :=
    Rows.find?_filter_of_imp fun sh hsh hfound => by
      simpa using hshift sh hsh (by simpa using hfound)
  refine Outcome.bind_eq_map_of_eq rfl fun closing hclosing => ?_
  refine Outcome.bind_eq_map_of_eq rfl fun _ _ => ?_
  simp only [Outcome.ofOption_eq_ok, Option.filter_eq_some_iff, decide_eq_true_eq] at hclosing
  obtain ⟨hevent, hid⟩ := hlast closing hclosing.1
  -- The end of a shift changes neither its store nor its events.
  have hupdated : ∀ sh' ∈ (s.updateShift closed.id (ended · closed)).shifts, ∃ sh ∈ s.shifts,
      sh'.id = sh.id ∧ sh'.store = sh.store ∧ sh'.events = sh.events := by
    intro sh' hsh'
    obtain ⟨sh, hsh, rfl⟩ := List.mem_map.1 hsh'
    refine ⟨sh, hsh, ?_⟩
    split <;> exact ⟨rfl, rfl, rfl⟩
  simp only [hfound]
  cases s.shift? closed.id with
  | none => rfl
  | some sh =>
    simp only
    split
    · rfl
    · split
      · rw [updateShift_part (f := fun sh => ended sh closed) s b closed.id fun _ => rfl]
        refine addEvent_part ?_ ?_
        · intro sh' hsh' hsame
          obtain ⟨old, hold, hoid, hostore, -⟩ := hupdated sh' hsh'
          exact hostore.trans (hshift old hold (hoid.symm.trans (hsame.trans hevent)))
        · intro sh' hsh' ev' hev' hsame
          obtain ⟨old, hold, -, hostore, hoevents⟩ := hupdated sh' hsh'
          exact hostore.trans (hid old hold ev' (hoevents ▸ hev') hsame)
      · rfl

/-! ### Writing movements -/

/-- **Movements are those of a store**: they are about its products, and no other store has
movements of the same identifiers. -/
structure OwnMovements (s : Store) (b : String) (ms : List StockMovement) : Prop where
  store : ∀ m ∈ ms, m.store = b
  product : ∀ m ∈ ms, ∀ p ∈ s.products, p.id = m.product → p.store = b
  fresh : ∀ m ∈ ms, ∀ n ∈ s.movements, n.id = m.id → n.store = b

theorem addMovement_part {m : StockMovement} (hstore : m.store = b)
    (hproduct : ∀ p ∈ s.products, p.id = m.product → p.store = b)
    (hid : ∀ n ∈ s.movements, n.id = m.id → n.store = b) :
    (s.part b).addMovement m = (·.part b) <$> s.addMovement m := by
  have hkey : (s.part b).movements.any (fun n => n.id == m.id) =
      s.movements.any fun n => n.id == m.id :=
    Rows.any_filter_of_imp fun n hn hfound => by simpa using hid n hn (by simpa using hfound)
  simp only [addMovement, hkey, hasProduct_part hproduct, map_bind, map_pure]
  simp [part, hstore]

theorem addMovements_part {ms : List StockMovement} (h : s.OwnMovements b ms) :
    (s.part b).addMovements ms = (·.part b) <$> s.addMovements ms := by
  induction ms generalizing s with
  | nil => rfl
  | cons m ms ih =>
    obtain ⟨hstore, hstores⟩ := List.forall_mem_cons.1 h.store
    obtain ⟨hproduct, hproducts⟩ := List.forall_mem_cons.1 h.product
    obtain ⟨hid, hids⟩ := List.forall_mem_cons.1 h.fresh
    refine Outcome.bind_eq_map (addMovement_part hstore hproduct hid) fun after hafter => ?_
    obtain ⟨-, -, -, rfl⟩ := addMovement_eq_ok.1 hafter
    refine ih ⟨hstores, hproducts, ?_⟩
    intro k hk n hn hsame
    rcases List.mem_append.1 hn with hold | hnew
    · exact hids k hk n hold hsame
    · rw [List.mem_singleton.1 hnew, hstore]

/-! ### Writing transactions, refunds and orders -/

theorem testLines_part {lines : List LineItem} (before : List Int)
    (h : ∀ l ∈ lines, ∀ p ∈ s.products, p.id = l.product → p.store = b) :
    (s.part b).testLines before lines = s.testLines before lines := by
  induction lines generalizing before with
  | nil => rfl
  | cons l lines ih =>
    obtain ⟨hl, hlines⟩ := List.forall_mem_cons.1 h
    simp only [testLines, hasProduct_part hl, ih _ hlines]

theorem addTransaction_part {t : Transaction} (hstore : t.store = b)
    (hid : ∀ t' ∈ s.transactions, t'.id = t.id → t'.store = b)
    (hshift : ∀ sh ∈ s.shifts, sh.id = t.shift → sh.store = b)
    (hlines : ∀ l ∈ t.lines, ∀ p ∈ s.products, p.id = l.product → p.store = b) :
    (s.part b).addTransaction t = (·.part b) <$> s.addTransaction t := by
  simp only [addTransaction, hasTransaction_part hid, hasShift_part hshift,
    testLines_part _ hlines, map_bind, map_pure]
  simp [part, unvoided, hstore]

theorem updateTransaction_part (s : Store) (b id : String) {f : Transaction → Transaction}
    (hf : ∀ t, (f t).store = t.store) :
    (s.part b).updateTransaction id f = (s.updateTransaction id f).part b := by
  have htransactions : (Rows.update (·.id) id f s.transactions).filter (·.store == b) =
      Rows.update (·.id) id f (s.transactions.filter (·.store == b)) :=
    Rows.filter_update fun t => congrArg (· == b) (hf t)
  simp only [updateTransaction, part, Store.mk.injEq, true_and, and_true]
  exact htransactions.symm

theorem addRefund_part {r : Refund} (hstore : r.store = b)
    (hid : ∀ q ∈ s.refunds, q.id = r.id → q.store = b)
    (htransaction : ∀ t ∈ s.transactions, t.id = r.transaction → t.store = b)
    (hshift : ∀ sh ∈ s.shifts, sh.id = r.shift → sh.store = b) :
    (s.part b).addRefund r = (·.part b) <$> s.addRefund r := by
  have hkey : (s.part b).refunds.any (fun q => q.id == r.id) =
      s.refunds.any fun q => q.id == r.id :=
    Rows.any_filter_of_imp fun q hq hfound => by simpa using hid q hq (by simpa using hfound)
  simp only [addRefund, hkey, hasTransaction_part htransaction, hasShift_part hshift, map_bind,
    map_pure]
  simp [part, hstore]

theorem updateOrder_part (s : Store) (b id : String) {f : PurchaseOrder → PurchaseOrder}
    (hf : ∀ o, (f o).store = o.store) :
    (s.part b).updateOrder id f = (s.updateOrder id f).part b := by
  have horders : (Rows.update (·.id) id f s.orders).filter (·.store == b) =
      Rows.update (·.id) id f (s.orders.filter (·.store == b)) :=
    Rows.filter_update fun o => congrArg (· == b) (hf o)
  simp only [updateOrder, part, Store.mk.injEq, true_and, and_true]
  exact horders.symm

/-! ### Writing outcomes -/

theorem forgetExpired_part (s : Store) (b : String) (r : OutcomeRecord) (now : Instant) :
    (s.part b).forgetExpired r now = (s.forgetExpired r now).part b := by
  simp only [forgetExpired, part, List.filter_filter, Bool.and_comm]

theorem addOutcome_part {r : OutcomeRecord} (hstore : r.store = b) (now : Instant) :
    (s.part b).addOutcome r now = Prod.map (·.part b) id (s.addOutcome r now) := by
  subst hstore
  simp only [addOutcome, forgetExpired_part, hasOutcome_part]
  split
  · rfl
  · simp [part, OutcomeRecord.kept]

theorem claimKey_part {r : OutcomeRecord} (hstore : r.store = b) (now : Instant) :
    (s.part b).claimKey r now = (·.part b) <$> s.claimKey r now := by
  simp only [claimKey, addOutcome_part hstore]
  rcases s.addOutcome r now with ⟨after, _ | _⟩ <;> rfl

theorem purge_part (s : Store) (b : String) (now : Instant) :
    ((s.part b).purge now).1 = (s.purge now).1.part b := by
  simp only [purge, part, List.filter_filter, Bool.and_comm]

/-! ### The units of work -/

/-- A product that a store carries is no other store's. -/
theorem Carries.owned {id : String} (h : s.Carries b id) (hk : (s.products.map (·.id)).Nodup) :
    ∀ p ∈ s.products, p.id = id → p.store = b := by
  obtain ⟨q, hq, hid, hstore⟩ := h
  intro p hp hpid
  rw [← hstore, List.inj_on_of_nodup_map hk hp hq (hpid.trans hid.symm)]

/-- **A drawer entry is one for a store**: the shift is its own, and no other store has an event of
the identifier. -/
structure OwnEntry (s : Store) (b shift entryId : String) : Prop where
  shift : ∀ sh ∈ s.shifts, sh.id = shift → sh.store = b
  fresh : ∀ sh ∈ s.shifts, ∀ ev ∈ sh.events, ev.id = entryId → sh.store = b

theorem commitSale_part {u : SaleUnit} (hk : (s.products.map (·.id)).Nodup)
    (hrecord : u.record.store = b) (hstore : u.transaction.store = b)
    (hmoves : ∀ m ∈ u.movements, m.store = b ∧ m.delta < 0)
    (hlines : ∀ l ∈ u.transaction.lines, ∃ m ∈ u.movements, m.product = l.product)
    (hid : ∀ t ∈ s.transactions, t.id = u.transaction.id → t.store = b)
    (hfresh : ∀ m ∈ u.movements, ∀ n ∈ s.movements, n.id = m.id → n.store = b)
    (hentry : s.OwnEntry b u.transaction.shift u.entryId) :
    (s.part b).commitSale u = (·.part b) <$> s.commitSale u := by
  subst hstore
  refine Outcome.bind_eq_map (claimKey_part hrecord _) fun claimed hclaimed => ?_
  obtain ⟨-, rfl⟩ := claimKey_eq_ok.1 hclaimed
  refine Outcome.bind_eq_map_of_eq (by simp only [testCatalogPrices, testPrices_part]) fun _ _ => ?_
  refine Outcome.bind_eq_map_of_eq (testAvailable_part _ _ _) fun _ havailable => ?_
  -- What is there is carried, and so it is no other store's.
  have hproduct : ∀ m ∈ u.movements, ∀ p ∈ s.products, p.id = m.product →
      p.store = u.transaction.store := by
    intro m hm
    have hactive := (testAvailable_eq_ok havailable hm (hmoves m hm).2).1
    exact (carries_of_activeProduct? hactive).owned hk
  refine Outcome.bind_eq_map (addTransaction_part rfl hid hentry.shift ?_) fun added hadded => ?_
  · intro l hl
    obtain ⟨m, hm, hsame⟩ := hlines l hl
    exact hsame ▸ hproduct m hm
  obtain ⟨-, -, -, -, -, rfl⟩ := addTransaction_eq_ok.1 hadded
  refine Outcome.bind_eq_map (addMovements_part ⟨fun m hm => (hmoves m hm).1, hproduct, hfresh⟩)
    fun moved hmoved => ?_
  obtain ⟨-, -, rfl⟩ := addMovements_eq_ok.1 hmoved
  exact Outcome.bind_eq_map (appendEntry_part hentry.shift hentry.fresh) fun _ _ => rfl

theorem commitVoid_part {u : VoidUnit} (hstore : u.store = b)
    (hmoves : s.OwnMovements b u.movements) (hentry : s.OwnEntry b u.shift u.entryId) :
    (s.part b).commitVoid u = (·.part b) <$> s.commitVoid u := by
  subst hstore
  simp only [commitVoid, transaction?_part]
  split
  · rfl
  · rw [updateTransaction_part (f := marked u) s u.store u.transaction fun _ => rfl]
    refine Outcome.bind_eq_map (addMovements_part ⟨hmoves.store, hmoves.product, hmoves.fresh⟩)
      fun moved hmoved => ?_
    obtain ⟨-, -, rfl⟩ := addMovements_eq_ok.1 hmoved
    exact Outcome.bind_eq_map (appendEntry_part hentry.shift hentry.fresh) fun _ _ => rfl

theorem commitRefund_part {u : RefundUnit} (k : s.Keyed) (hstore : u.refund.store = b)
    (hid : ∀ r ∈ s.refunds, r.id = u.refund.id → r.store = b)
    (hmoves : s.OwnMovements b u.movements) (hentry : s.OwnEntry b u.refund.shift u.entryId) :
    (s.part b).commitRefund u = (·.part b) <$> s.commitRefund u := by
  subst hstore
  refine Outcome.bind_eq_map_of_eq (by rw [transaction?_part]) fun t ht => ?_
  refine Outcome.bind_eq_map_of_eq rfl fun _ _ => ?_
  simp only [Outcome.ofOption_eq_ok, Option.filter_eq_some_iff] at ht
  obtain ⟨hmem, htid, hplace⟩ := transaction?_eq_some ht.1
  rw [updateTransaction_part (f := paidBack u) s u.refund.store u.refund.transaction fun _ => rfl]
  -- A refund changes neither the identifier nor the store of a transaction.
  refine Outcome.bind_eq_map (addRefund_part rfl hid ?_ hentry.shift) fun added hadded => ?_
  · intro t' ht' hsame
    obtain ⟨old, hold, rfl⟩ := List.mem_map.1 ht'
    have hoid : old.id = t.id := by
      rw [htid, ← hsame]
      split <;> rfl
    rw [List.inj_on_of_nodup_map k.transactions hold hmem hoid]
    split <;> exact hplace
  obtain ⟨-, -, -, -, rfl⟩ := addRefund_eq_ok.1 hadded
  refine Outcome.bind_eq_map (addMovements_part ⟨hmoves.store, hmoves.product, hmoves.fresh⟩)
    fun moved hmoved => ?_
  obtain ⟨-, -, rfl⟩ := addMovements_eq_ok.1 hmoved
  exact Outcome.bind_eq_map (appendEntry_part hentry.shift hentry.fresh) fun _ _ => rfl

theorem commitReceipt_part {u : ReceiptUnit} (hstore : u.store = b)
    (hmoves : ∀ o lines, s.order? u.store u.order = some o →
      receiveAll u.order u.lines o.lines = .ok lines → s.OwnMovements b u.movements) :
    (s.part b).commitReceipt u = (·.part b) <$> s.commitReceipt u := by
  subst hstore
  simp only [commitReceipt, order?_part]
  cases hfound : s.order? u.store u.order with
  | none => rfl
  | some o =>
    simp only
    split
    · rfl
    · refine Outcome.bind_eq_map_of_eq rfl fun lines hlines => ?_
      have hown := hmoves o lines hfound hlines
      rw [updateOrder_part (f := fun o => bookedOrder o lines u.receivedAt) s u.store u.order
        fun _ => rfl]
      exact addMovements_part ⟨hown.store, hown.product, hown.fresh⟩

end Store

end Till
