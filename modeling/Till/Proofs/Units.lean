import Till.Proofs.Writes

/-!
# What the units of work do

A unit of work is tested as a whole before it is booked.  For each of them a structure holds what
the tests say, and a theorem says that a unit that was booked has passed them and what the store is
afterwards:

* `Store.commitSale_eq_ok`, `Store.commitVoid_eq_ok`, `Store.commitRefund_eq_ok`;
* `Store.commitReceipt_eq_ok`;
* `Store.closeShift_eq_ok`.

`Store.appendSale`, `Store.appendVoid` and `Store.appendRefund` are the units with the event that
their append returns.  All tests are about the store before the unit, although some of them are made
after the first rows of the unit were written.
-/

namespace Till

namespace Store

variable {s after : Store}

/-! ### Sales -/

/-- **The tests of a sale** whose event is added to the log of a shift. -/
structure SaleFits (s : Store) (u : SaleUnit) (sh : Shift) (e : DrawerEvent) : Prop where
  /-- No record is left under the key once an expired one is forgotten. -/
  unclaimed : (s.forgetExpired u.record u.transaction.createdAt).hasOutcome u.record.store
    u.record.cashier u.record.key = false
  /-- The prices were entered by hand or are those of the catalog. -/
  prices : u.transaction.pricing.source = .manual ∨
    s.PricedByCatalog u.transaction.store u.transaction.lines
  /-- What leaves is there. -/
  available : ∀ m ∈ u.movements, m.delta < 0 →
    (s.activeProduct? u.transaction.store m.product).isSome ∧
      ∃ units available, unitsLeaving u.movements m.product = .ok units ∧
        s.stockLevel u.transaction.store m.product = .ok available ∧ units ≤ available
  refunded : 0 ≤ u.transaction.refunded ∧ u.transaction.refunded ≤ u.transaction.grand
  fresh : s.hasTransaction u.transaction.id = false
  lines : ∀ l ∈ u.transaction.lines, 0 < l.quantity ∧ s.hasProduct l.product = true
  numbers : (u.transaction.lines.map (·.number)).Nodup
  movements : ∀ m ∈ u.movements,
    m.delta ≠ 0 ∧ s.hasProduct m.product = true ∧ ∀ n ∈ s.movements, n.id ≠ m.id
  distinct : (u.movements.map (·.id)).Nodup
  entry : e = u.entry.place u.entryId u.transaction.shift (nextSeq sh.events)
    u.transaction.createdAt
  appends : s.Appends sh e

/-- The store after a sale. -/
def afterSale (s : Store) (u : SaleUnit) (e : DrawerEvent) : Store :=
  { s with
    shifts := (s.logged e).shifts
    transactions := s.transactions ++ [unvoided u.transaction]
    movements := s.movements ++ u.movements
    outcomes := (s.remembered u.record u.transaction.createdAt).outcomes }

/-- Books a sale, and gives the event that its append returns. -/
def appendSale (s : Store) (u : SaleUnit) : Stored (Store × DrawerEvent) := do
  let t := u.transaction
  let s ← s.claimKey u.record t.createdAt
  s.testCatalogPrices t
  s.testAvailable t.store u.movements
  let s ← s.addTransaction t
  let s ← s.addMovements u.movements
  s.appendEntry t.shift u.entryId u.entry t.createdAt

theorem commitSale_eq_map (s : Store) (u : SaleUnit) :
    s.commitSale u = Prod.fst <$> s.appendSale u := by
  simp only [commitSale, appendSale, map_bind]
  rfl

theorem appendSale_eq_ok {u : SaleUnit} {e : DrawerEvent} (h : s.appendSale u = .ok (after, e)) :
    ∃ sh, s.SaleFits u sh e ∧ after = s.afterSale u e := by
  simp only [appendSale, Outcome.bind_eq_ok, claimKey_eq_ok, testCatalogPrices_eq_ok,
    addTransaction_eq_ok, addMovements_eq_ok] at h
  obtain ⟨_, ⟨hkey, rfl⟩, _, hprices, _, havailable, _, ⟨hrefunded, hfresh, -, hlines, hnumbers,
    rfl⟩, _, ⟨hmovements, hdistinct, rfl⟩, hentry⟩ := h
  obtain ⟨sh, hplace, happends, rfl⟩ := appendEntry_eq_ok hentry
  -- None of the writes before the event touches a shift.
  exact ⟨sh, ⟨hkey, hprices, fun m hm hneg => testAvailable_eq_ok havailable hm hneg, hrefunded,
    hfresh, hlines, hnumbers, hmovements, hdistinct, hplace, happends.of_shifts rfl⟩, rfl⟩

theorem commitSale_eq_ok {u : SaleUnit} (h : s.commitSale u = .ok after) :
    ∃ sh e, s.SaleFits u sh e ∧ after = s.afterSale u e := by
  rw [commitSale_eq_map, Outcome.map_eq_ok] at h
  obtain ⟨⟨_, e⟩, happend, rfl⟩ := h
  obtain ⟨sh, hfits, hafter⟩ := appendSale_eq_ok happend
  exact ⟨sh, e, hfits, hafter⟩

/-! ### Voids -/

theorem voidConflict_eq_none {id : String} {t : Option Transaction} :
    voidConflict id t = none ↔ ∃ t', t = some t' ∧ t'.status = .completed ∧ t'.refunded = 0 := by
  cases t with
  | none => simp [voidConflict]
  | some t => cases h : t.status <;> simp [voidConflict, h]

/-- **The tests of a void** whose event is added to the log of a shift. -/
structure VoidFits (s : Store) (u : VoidUnit) (t : Transaction) (sh : Shift) (e : DrawerEvent) :
    Prop where
  found : s.transaction? u.store u.transaction = some t
  completed : t.status = .completed
  unrefunded : t.refunded = 0
  movements : ∀ m ∈ u.movements,
    m.delta ≠ 0 ∧ s.hasProduct m.product = true ∧ ∀ n ∈ s.movements, n.id ≠ m.id
  distinct : (u.movements.map (·.id)).Nodup
  /-- The event has the fields of the entry. -/
  entry : e = u.entry.place u.entryId u.shift (nextSeq sh.events) u.voidedAt
  appends : s.Appends sh e

/-- The store after a void. -/
def afterVoid (s : Store) (u : VoidUnit) (e : DrawerEvent) : Store :=
  { s with
    shifts := (s.logged e).shifts
    transactions := Rows.update (·.id) u.transaction (marked u) s.transactions
    movements := s.movements ++ u.movements }

/-- Books a void, and gives the event that its append returns. -/
def appendVoid (s : Store) (u : VoidUnit) : Stored (Store × DrawerEvent) :=
  match voidConflict u.transaction (s.transaction? u.store u.transaction) with
  | some e => Outcome.reject e
  | none => do
    let s ← (s.updateTransaction u.transaction (marked u)).addMovements u.movements
    s.appendEntry u.shift u.entryId u.entry u.voidedAt

theorem commitVoid_eq_map (s : Store) (u : VoidUnit) :
    s.commitVoid u = Prod.fst <$> s.appendVoid u := by
  unfold commitVoid appendVoid
  cases voidConflict u.transaction (s.transaction? u.store u.transaction) with
  | some reason => rfl
  | none =>
    simp only [map_bind]
    rfl

theorem appendVoid_eq_ok {u : VoidUnit} {e : DrawerEvent} (h : s.appendVoid u = .ok (after, e)) :
    ∃ t sh, s.VoidFits u t sh e ∧ after = s.afterVoid u e := by
  unfold appendVoid at h
  cases hconflict : voidConflict u.transaction (s.transaction? u.store u.transaction) with
  | some reason => simp [hconflict] at h
  | none =>
    obtain ⟨t, hfound, hcompleted, hrefunded⟩ := voidConflict_eq_none.1 hconflict
    simp only [hconflict, Outcome.bind_eq_ok, addMovements_eq_ok] at h
    obtain ⟨_, ⟨hmovements, hdistinct, rfl⟩, hentry⟩ := h
    obtain ⟨sh, hplace, happends, rfl⟩ := appendEntry_eq_ok hentry
    exact ⟨t, sh, ⟨hfound, hcompleted, hrefunded, hmovements, hdistinct, hplace,
      happends.of_shifts rfl⟩, rfl⟩

theorem commitVoid_eq_ok {u : VoidUnit} (h : s.commitVoid u = .ok after) :
    ∃ t sh e, s.VoidFits u t sh e ∧ after = s.afterVoid u e := by
  rw [commitVoid_eq_map, Outcome.map_eq_ok] at h
  obtain ⟨⟨_, e⟩, happend, rfl⟩ := h
  obtain ⟨t, sh, hfits, hafter⟩ := appendVoid_eq_ok happend
  exact ⟨t, sh, e, hfits, hafter⟩

/-! ### Refunds -/

/-- **The tests of a refund** whose event is added to the log of a shift. -/
structure RefundFits (s : Store) (u : RefundUnit) (t : Transaction) (sh : Shift) (e : DrawerEvent) :
    Prop where
  found : s.transaction? u.refund.store u.refund.transaction = some t
  completed : t.status = .completed
  /-- Nothing was refunded since the refund was computed. -/
  before : t.refunded = u.refundedBefore
  /-- What is refunded with it is a part of the total. -/
  after : 0 ≤ u.refundedAfter ∧ u.refundedAfter ≤ t.grand
  amount : 0 < u.refund.amount
  fresh : ∀ r ∈ s.refunds, r.id ≠ u.refund.id
  movements : ∀ m ∈ u.movements,
    m.delta ≠ 0 ∧ s.hasProduct m.product = true ∧ ∀ n ∈ s.movements, n.id ≠ m.id
  distinct : (u.movements.map (·.id)).Nodup
  entry : e = u.entry.place u.entryId u.refund.shift (nextSeq sh.events) u.refund.createdAt
  appends : s.Appends sh e

/-- The store after a refund. -/
def afterRefund (s : Store) (u : RefundUnit) (e : DrawerEvent) : Store :=
  { s with
    shifts := (s.logged e).shifts
    transactions := Rows.update (·.id) u.refund.transaction (paidBack u) s.transactions
    refunds := s.refunds ++ [u.refund]
    movements := s.movements ++ u.movements }

/-- Books a refund, and gives the event that its append returns. -/
def appendRefund (s : Store) (u : RefundUnit) : Stored (Store × DrawerEvent) := do
  let r := u.refund
  let t ← Outcome.ofOption (.rejected (.modifiedConcurrently "Transaction" r.transaction))
    ((s.transaction? r.store r.transaction).filter (isRefundOf u))
  testNumbers (decide (0 ≤ u.refundedAfter ∧ u.refundedAfter ≤ t.grand))
  let s ← (s.updateTransaction r.transaction (paidBack u)).addRefund r
  let s ← s.addMovements u.movements
  s.appendEntry r.shift u.entryId u.entry r.createdAt

theorem commitRefund_eq_map (s : Store) (u : RefundUnit) :
    s.commitRefund u = Prod.fst <$> s.appendRefund u := by
  simp only [commitRefund, appendRefund, map_bind]
  rfl

theorem appendRefund_eq_ok {u : RefundUnit} {e : DrawerEvent}
    (h : s.appendRefund u = .ok (after, e)) :
    ∃ t sh, s.RefundFits u t sh e ∧ after = s.afterRefund u e := by
  simp only [appendRefund, Outcome.bind_eq_ok, Outcome.ofOption_eq_ok, testNumbers_eq_ok,
    addRefund_eq_ok, addMovements_eq_ok, Option.filter_eq_some_iff, isRefundOf, Bool.and_eq_true,
    decide_eq_true_eq] at h
  obtain ⟨t, ⟨hfound, hcompleted, hbefore⟩, _, hafter, _, ⟨hamount, hfresh, -, -, rfl⟩, _,
    ⟨hmovements, hdistinct, rfl⟩, hentry⟩ := h
  obtain ⟨sh, hplace, happends, rfl⟩ := appendEntry_eq_ok hentry
  exact ⟨t, sh, ⟨hfound, hcompleted, hbefore, hafter, hamount, hfresh, hmovements, hdistinct,
    hplace, happends.of_shifts rfl⟩, rfl⟩

theorem commitRefund_eq_ok {u : RefundUnit} (h : s.commitRefund u = .ok after) :
    ∃ t sh e, s.RefundFits u t sh e ∧ after = s.afterRefund u e := by
  rw [commitRefund_eq_map, Outcome.map_eq_ok] at h
  obtain ⟨⟨_, e⟩, happend, rfl⟩ := h
  obtain ⟨t, sh, hfits, hafter⟩ := appendRefund_eq_ok happend
  exact ⟨t, sh, e, hfits, hafter⟩

/-! ### Receipts -/

/-- **The tests of a receipt** that leaves an order with the given lines. -/
structure ReceiptFits (s : Store) (u : ReceiptUnit) (o : PurchaseOrder) (lines : List OrderLine) :
    Prop where
  found : s.order? u.store u.order = some o
  /-- Something is outstanding. -/
  unfinished : o.status ≠ .received
  /-- The units are booked on the lines. -/
  lines : receiveAll u.order u.lines o.lines = .ok lines
  movements : ∀ m ∈ u.movements,
    m.delta ≠ 0 ∧ s.hasProduct m.product = true ∧ ∀ n ∈ s.movements, n.id ≠ m.id
  distinct : (u.movements.map (·.id)).Nodup

/-- The store after a receipt. -/
def afterReceipt (s : Store) (u : ReceiptUnit) (lines : List OrderLine) : Store :=
  { s with
    orders := Rows.update (·.id) u.order (fun o => bookedOrder o lines u.receivedAt) s.orders
    movements := s.movements ++ u.movements }

theorem commitReceipt_eq_ok {u : ReceiptUnit} (h : s.commitReceipt u = .ok after) :
    ∃ o lines, s.ReceiptFits u o lines ∧ after = s.afterReceipt u lines := by
  unfold commitReceipt at h
  cases hfound : s.order? u.store u.order with
  | none => simp [hfound] at h
  | some o =>
    by_cases hstatus : o.status = .received
    · simp [hfound, hstatus] at h
    · simp only [hfound, hstatus, if_false, Outcome.bind_eq_ok, addMovements_eq_ok] at h
      obtain ⟨lines, hlines, hmovements, hdistinct, rfl⟩ := h
      exact ⟨o, lines, ⟨hfound, hstatus, hlines, hmovements, hdistinct⟩, rfl⟩

/-! ### Closing a shift -/

/-- **The tests of the end of a shift** that is recorded by the given event. -/
structure CloseFits (s : Store) (closed sh : Shift) (e : DrawerEvent) : Prop where
  /-- The event is the last of the log. -/
  last : closed.events.getLast? = some e
  kind : e.kind = .close
  ended : closed.closedAt.isSome
  found : s.shift? closed.id = some sh
  isOpen : sh.isOpen = true
  /-- The log is as long as it was. -/
  length : sh.events.length + 1 = closed.events.length
  amount : 0 ≤ e.amount
  fresh : s.hasEvent e.id = false

/-- The store after the end of a shift. -/
def afterClose (s : Store) (closed : Shift) (e : DrawerEvent) : Store :=
  (s.updateShift closed.id fun sh => ended sh closed).logged e

theorem hasEvent_updateShift_ended {closed : Shift} {id id' : String} :
    (s.updateShift id fun sh => ended sh closed).hasEvent id' = s.hasEvent id' := by
  simp only [hasEvent, updateShift, List.any_map]
  congr 1
  funext sh
  by_cases h : sh.id = id <;> simp [h, ended]

theorem closeShift_eq_ok {closed : Shift} (h : s.closeShift closed = .ok after) :
    ∃ sh e, s.CloseFits closed sh e ∧ after = s.afterClose closed e := by
  simp only [closeShift, Outcome.bind_eq_ok, Outcome.ofOption_eq_ok, Outcome.require_eq_ok,
    Option.filter_eq_some_iff, decide_eq_true_eq] at h
  obtain ⟨e, ⟨hlast, hkind⟩, _, hended, h⟩ := h
  cases hfound : s.shift? closed.id with
  | none => simp [hfound] at h
  | some sh =>
    cases hopen : sh.isOpen with
    | false => simp [hfound, hopen] at h
    | true =>
      by_cases hlength : sh.events.length + 1 = closed.events.length
      · simp only [hfound, hopen, hlength, Bool.not_true, Bool.false_eq_true, if_false, if_true,
          addEvent_eq_ok] at h
        -- The identifier was looked for after the shift had got its end.
        obtain ⟨hamount, -, hfresh, -, rfl⟩ := h
        rw [hasEvent_updateShift_ended] at hfresh
        exact ⟨sh, e, ⟨hlast, hkind, hended, hfound, hopen, hlength, hamount, hfresh⟩, rfl⟩
      · simp [hfound, hopen, hlength] at h

end Store

end Till
