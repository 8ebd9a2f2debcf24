import Till.Proofs.RefundSeries
import Till.Proofs.Stock

/-!
# What becomes of transactions

A transaction is completed when it is sold.  From then on it is paid back in parts, which ends when
it is refunded, or it is voided, which ends it at once.  What a change of the store does to
transactions is one of four things (`LedgerChange`): nothing, a sale, a void or a refund.

* `Transaction.Precedes` : a transaction is an earlier state of another one;
* `LedgerChange.precedes` : every transaction is an earlier state of a transaction after a change;
* `Store.Restocked.change` : what refunds have put back of every product of a transaction is what
  the amount refunded so far covers;
* `Store.Restocked.coveredUnits_eq` : the same, told line by line.
-/

namespace Till

/-! ### Lines of different products -/

namespace Field

theorem firstRepeated_eq_none {seen values : List String} :
    firstRepeated seen values = none ↔ values.Nodup ∧ ∀ v ∈ values, v ∉ seen := by
  induction values generalizing seen with
  | nil => simp [firstRepeated]
  | cons v values ih =>
    rw [firstRepeated]
    by_cases hseen : v ∈ seen
    · simp [hseen]
    · rw [if_neg (by simpa using hseen), ih, List.nodup_cons]
      simp only [List.mem_cons, forall_eq_or_imp, not_or]
      grind

theorem distinct_eq_ok {field : String} {values : List String} {u : Unit} :
    distinct field values = .ok u ↔ values.Nodup := by
  have hnone : firstRepeated [] values = none ↔ values.Nodup := by
    simp [firstRepeated_eq_none]
  rw [distinct]
  cases h : firstRepeated [] values with
  | none => simp [hnone.1 h]
  | some v =>
    have hdup : ¬values.Nodup := fun hnodup => by
      rw [hnone.2 hnodup] at h
      cases h
    simp [hdup]

end Field

namespace Transaction

theorem products_numberedLines (n : Nat) (cartLines : List CartLine) :
    (numberedLines n cartLines).map LineItem.product = cartLines.map CartLine.product := by
  induction cartLines generalizing n with
  | nil => rfl
  | cons c cartLines ih =>
    rw [numberedLines, List.map_cons, List.map_cons, ih]
    rfl

/-- The lines of a sale are about different products. -/
theorem IsSold.products {cart : Cart} {c : SaleContext} {pricing : PricingRecord} {totals : Totals}
    (h : IsSold cart c pricing totals) :
    ((sold cart c pricing totals).lines.map LineItem.product).Nodup := by
  have hcheck := h.check
  simp only [Cart.check, Outcome.bind_eq_ok, Field.distinct_eq_ok] at hcheck
  obtain ⟨_, -, _, hdistinct, -⟩ := hcheck
  rw [show (sold cart c pricing totals).lines = numberedLines 1 cart.lines from rfl,
    products_numberedLines]
  exact hdistinct

/-- What is left of a product on the lines is what is not covered. -/
theorem unitsLeft_eq (covered : Int → Bool) (gross : Int) (lines : List LineItem)
    (product : String) :
    unitsLeft covered gross lines product =
      unitsSold lines product - coveredFromOf LineItem.product covered gross lines product := by
  induction lines generalizing gross with
  | nil => rfl
  | cons l lines ih =>
    have hrest := ih (gross + l.total)
    rw [unitsSold] at hrest
    rw [unitsLeft_cons, coveredFromOf_cons, unitsSold, Rows.total_cons, hrest]
    split <;> omega

/-! ### States of a transaction -/

/-- **A transaction is an earlier state** of another one. -/
structure Precedes (t later : Transaction) : Prop where
  /-- What was sold, and for how much, stays. -/
  same : later = { t with
    status := later.status
    refunded := later.refunded
    voidedAt := later.voidedAt
    voidReason := later.voidReason
    voidedBy := later.voidedBy }
  /-- What was refunded stays refunded. -/
  refunded : t.refunded ≤ later.refunded
  /-- While the transaction is completed, nothing else has changed. -/
  completed : later.status = .completed → later = { t with refunded := later.refunded }
  /-- What is no longer completed stays as it is. -/
  final : t.status ≠ .completed → later = t

variable {t later : Transaction}

theorem Precedes.refl (t : Transaction) : t.Precedes t :=
  ⟨rfl, Int.le_refl _, fun _ => rfl, fun _ => rfl⟩

theorem Precedes.trans {last : Transaction} (h : t.Precedes later) (h' : later.Precedes last) :
    t.Precedes last where
  same := by
    have hlast := h'.same
    rw [h.same] at hlast
    exact hlast
  refunded := Int.le_trans h.refunded h'.refunded
  completed hcompleted := by
    have hlast := h'.completed hcompleted
    have hmid : later.status = .completed := by
      rw [hlast] at hcompleted
      exact hcompleted
    rw [h.completed hmid] at hlast
    exact hlast
  final hended := by
    have hmid := h.final hended
    rw [← hmid] at hended
    exact (h'.final hended).trans hmid

/-- A completed transaction without new refunds is what it was. -/
theorem Precedes.eq_of_refunded (h : t.Precedes later) (hcompleted : later.status = .completed)
    (hrefunded : later.refunded = t.refunded) : later = t := by
  rw [h.completed hcompleted, hrefunded]

theorem precedes_marked (hcompleted : t.status = .completed) (u : VoidUnit) :
    t.Precedes (Store.marked u t) :=
  ⟨rfl, Int.le_refl _, nofun, fun hended => absurd hcompleted hended⟩

theorem IsRefund.precedes {refunded : Transaction} {amount : Int} {units : List RestockLine}
    (h : t.IsRefund amount refunded units) : t.Precedes refunded := by
  have hpositive := h.positive
  have hcompleted := h.completed
  rw [h.refunded]
  refine ⟨rfl, ?_, ?_, fun hended => absurd hcompleted hended⟩
  · simp only
    omega
  · intro hstill
    simp only at hstill ⊢
    rw [hstill, ← hcompleted]

end Transaction

/-! ### What a change does to transactions -/

namespace Store

/-- The movements that put back what was refunded. -/
def reversals (s : Store) : List StockMovement :=
  s.movements.filter fun m => decide (m.reason = .refundReversal)

/-- **The units of a product** that refunds of a transaction have put back. -/
def restocked (s : Store) (transaction product : String) : Int :=
  Rows.total (fun m => m.reference == transaction && m.product == product) StockMovement.delta
    s.reversals

variable {s after : Store} {ms : List StockMovement}

theorem reversals_of_ne (ms : List StockMovement) (hmovements : after.movements = s.movements ++ ms)
    (h : ∀ m ∈ ms, m.reason ≠ .refundReversal) : after.reversals = s.reversals := by
  have hnone : ms.filter (fun m => decide (m.reason = .refundReversal)) = [] := by
    refine List.filter_eq_nil_iff.2 ?_
    intro m hm
    simpa using h m hm
  rw [reversals, hmovements, List.filter_append, hnone, List.append_nil]
  rfl

theorem reversals_of_eq (ms : List StockMovement) (hmovements : after.movements = s.movements ++ ms)
    (h : ∀ m ∈ ms, m.reason = .refundReversal) : after.reversals = s.reversals ++ ms := by
  have hall : ms.filter (fun m => decide (m.reason = .refundReversal)) = ms := by
    refine List.filter_eq_self.2 ?_
    intro m hm
    simpa using h m hm
  rw [reversals, hmovements, List.filter_append, hall]
  rfl

end Store

open Store (marked paidBack)

/-- **What a change does to transactions.** -/
inductive LedgerChange (s after : Store) : Prop
  /-- Nothing. -/
  | none (transactions : after.transactions = s.transactions)
      (refunds : after.refunds = s.refunds) (reversals : after.reversals = s.reversals)
  /-- A transaction is sold. -/
  | sold {t : Transaction} (fresh : s.hasTransaction t.id = false)
      (products : (t.lines.map LineItem.product).Nodup) (unrefunded : t.refunded = 0)
      (transactions : after.transactions = s.transactions ++ [t])
      (refunds : after.refunds = s.refunds) (reversals : after.reversals = s.reversals)
  /-- A transaction is voided. -/
  | voided {t : Transaction} {u : VoidUnit} (mem : t ∈ s.transactions)
      (completed : t.status = .completed)
      (transactions : after.transactions = Rows.update (·.id) t.id (marked u) s.transactions)
      (refunds : after.refunds = s.refunds) (reversals : after.reversals = s.reversals)
  /-- A part of a transaction is refunded. -/
  | refunded {ids : Ids} {now : Instant} {t : Transaction} {u : RefundUnit} {amount : Int}
      {units : List RestockLine} (mem : t ∈ s.transactions)
      (refund : t.IsRefund amount (paidBack u t) units) (positive : 0 < u.refund.amount)
      (transactions : after.transactions = Rows.update (·.id) t.id (paidBack u) s.transactions)
      (refunds : after.refunds = s.refunds ++ [u.refund])
      (reversals : after.reversals = s.reversals ++ Engine.refundMovements ids t now units)

/-- The lines of a sale stand in the order of their numbers. -/
theorem Transaction.numberedLines_sorted (n : Nat) (cartLines : List CartLine) :
    (numberedLines n cartLines).Pairwise fun a b => decide (a.number ≤ b.number) = true :=
  (List.pairwise_map.1 (numberedLines_pairwise n cartLines)).imp fun hlt =>
    decide_eq_true (Int.le_of_lt hlt)

/-- A sale is stored as it is. -/
theorem Store.unvoided_sold (cart : Cart) (c : SaleContext) (pricing : PricingRecord)
    (totals : Totals) :
    unvoided (Transaction.sold cart c pricing totals) =
      Transaction.sold cart c pricing totals := by
  have hlines := List.mergeSort_of_pairwise (Transaction.numberedLines_sorted 1 cart.lines)
  simp only [unvoided, Transaction.sold, hlines]

theorem Engine.planSale_ledger {e : Engine} {ids : Ids} {now : Instant} {actor : Actor}
    {cart : Cart} {claim : Claim} {s : Store} {u : SaleUnit} {sh : Shift} {ev : DrawerEvent}
    (plan : e.planSale ids now actor cart claim s = .ok u) (fits : s.SaleFits u sh ev) :
    LedgerChange s (s.afterSale u ev) := by
  obtain ⟨sh', pricing, totals, -, hsold, hunit⟩ := planSale_eq_ok plan
  have hproducts : (u.transaction.lines.map LineItem.product).Nodup := by
    rw [hunit]
    exact hsold.products
  refine .sold (t := Store.unvoided u.transaction) fits.fresh ?_ ?_ rfl rfl ?_
  · exact ((Store.lines_unvoided u.transaction).map LineItem.product).nodup_iff.2 hproducts
  · rw [hunit]
    rfl
  · refine Store.reversals_of_ne u.movements rfl ?_
    rw [hunit]
    exact Rows.forall_mem_mapIdx fun _ _ _ => nofun

theorem Transaction.IsRefund.paidBack_eq {ids : Ids} {now : Instant} {actor : Actor}
    {shift reason : String} {t refunded : Transaction} {amount : Int} {units : List RestockLine}
    (h : t.IsRefund amount refunded units) :
    paidBack (Engine.refundUnit ids now actor shift amount reason t refunded units) t =
      refunded := by
  rw [h.refunded]
  rfl

/-- **Every change does one of these things to transactions.** -/
theorem Change.ledger {e : Engine} {now : Instant} {s after : Store} (h : Change e now s after) :
    LedgerChange s after := by
  cases h with
  | shiftOpened start added =>
    obtain ⟨-, -, -, rfl⟩ := Store.addShift_eq_ok.1 added
    exact .none rfl rfl rfl
  | shiftClosed => exact .none rfl rfl rfl
  | entryRecorded => exact .none rfl rfl rfl
  | sold claims plan fits => exact Engine.planSale_ledger plan fits
  | refused => exact .none rfl rfl rfl
  | @voided ids actor reason sh sh' t u ev plan fits =>
    have hid : u.transaction = t.id := by rw [plan.unit]; rfl
    refine .voided (u := u) (Store.transaction?_eq_some fits.found).1 fits.completed (hid ▸ rfl)
      rfl ?_
    refine Store.reversals_of_ne u.movements rfl ?_
    rw [plan.unit]
    exact Rows.forall_mem_mapIdx fun _ _ _ => nofun
  | @refunded ids actor amount reason sh sh' t refunded units u ev elevated shift owned plan unit
      fits =>
    have hid : u.refund.transaction = t.id := by rw [unit]; rfl
    have hpaid : paidBack u t = refunded := by
      rw [unit]
      exact plan.paidBack_eq
    have hmovements : u.movements = Engine.refundMovements ids t now units := by rw [unit]; rfl
    have hreversals : (s.afterRefund u ev).reversals =
        s.reversals ++ Engine.refundMovements ids t now units := by
      refine Store.reversals_of_eq _ (hmovements ▸ rfl) ?_
      exact Rows.forall_mem_mapIdx fun _ _ _ => rfl
    exact .refunded (Store.transaction?_eq_some fits.found).1 (hpaid.symm ▸ plan) fits.amount
      (hid ▸ rfl) rfl hreversals
  | productAdded check added =>
    obtain ⟨-, -, -, rfl⟩ := Store.addProduct_eq_ok.1 added
    exact .none rfl rfl rfl
  | supplierAdded check added =>
    obtain ⟨-, rfl⟩ := Store.addSupplier_eq_ok.1 added
    exact .none rfl rfl rfl
  | orderAdded elevated check products added =>
    obtain ⟨-, -, -, -, rfl⟩ := Store.addOrder_eq_ok.1 added
    exact .none rfl rfl rfl
  | @received ids actor lines o received u booked check owned receive unit fits =>
    refine .none rfl rfl (Store.reversals_of_ne u.movements rfl ?_)
    rw [unit]
    exact Rows.forall_mem_mapIdx fun _ _ _ => nofun
  | purged => exact .none rfl rfl rfl

/-- **Every transaction is an earlier state** of a transaction after a change. -/
theorem LedgerChange.precedes {s after : Store} (k : s.Keyed) (h : LedgerChange s after) :
    ∀ t ∈ s.transactions, ∃ later ∈ after.transactions, t.Precedes later := by
  -- A change of one transaction leaves the others as they are.
  have hupdate : ∀ {t : Transaction} {f : Transaction → Transaction}, t ∈ s.transactions →
      t.Precedes (f t) → after.transactions = Rows.update (·.id) t.id f s.transactions →
      ∀ t' ∈ s.transactions, ∃ later ∈ after.transactions, t'.Precedes later := by
    intro t f ht hprecedes htransactions t' ht'
    rw [htransactions]
    by_cases hid : t'.id = t.id
    · obtain rfl := List.inj_on_of_nodup_map k.transactions ht' ht hid
      exact ⟨f t', (Rows.mem_update k.transactions ht').2 (.inl rfl), hprecedes⟩
    · exact ⟨t', (Rows.mem_update k.transactions ht).2 (.inr ⟨ht', hid⟩), .refl t'⟩
  cases h with
  | none transactions => exact fun t ht => ⟨t, transactions ▸ ht, .refl t⟩
  | sold fresh products unrefunded transactions =>
    exact fun t ht => ⟨t, transactions ▸ List.mem_append_left _ ht, .refl t⟩
  | voided mem completed transactions =>
    exact hupdate mem (Transaction.precedes_marked completed _) transactions
  | refunded mem refund positive transactions => exact hupdate mem refund.precedes transactions

/-! ### What refunds have put back -/

namespace Store

open Transaction (unitsSold)

variable {s after : Store} {t : Transaction} {product : String}

/-- **What was put back is what is covered.** -/
structure Restocked (s : Store) : Prop where
  /-- The lines of a transaction are about different products. -/
  products : ∀ t ∈ s.transactions, (t.lines.map LineItem.product).Nodup
  /-- What refunds of a transaction have put back is what the customer does not keep. -/
  units : ∀ t ∈ s.transactions, ∀ product,
    s.restocked t.id product = unitsSold t.lines product - t.unitsKept t.refunded product
  /-- Behind what was put back stand transactions. -/
  referred : ∀ m ∈ s.reversals, ∃ t ∈ s.transactions, m.reference = t.id
  /-- A refund pays something back. -/
  positive : ∀ r ∈ s.refunds, 0 < r.amount

theorem restocked_empty : ({} : Store).Restocked :=
  ⟨fun _ h => absurd h List.not_mem_nil, fun _ h => absurd h List.not_mem_nil,
    fun _ h => absurd h List.not_mem_nil, fun _ h => absurd h List.not_mem_nil⟩

theorem restocked_of_same (h : after.reversals = s.reversals) (id product : String) :
    after.restocked id product = s.restocked id product := by
  rw [restocked, h]
  rfl

/-- A refund puts back units of its transaction and of no other one. -/
theorem restocked_refund {ids : Ids} {now : Instant} {units : List RestockLine}
    (h : after.reversals = s.reversals ++ Engine.refundMovements ids t now units)
    (id product : String) :
    after.restocked id product = s.restocked id product +
      if t.id == id then Rows.total (fun l => l.product == product) RestockLine.quantity units
      else 0 := by
  have hsum : Rows.total (fun m : StockMovement => m.reference == id && m.product == product)
      StockMovement.delta (Engine.refundMovements ids t now units) =
      Rows.total (fun l : RestockLine => t.id == id && l.product == product)
        RestockLine.quantity units :=
    Rows.total_mapIdx (fun _ _ => rfl) (fun _ _ => rfl)
  rw [restocked, h, Rows.total_append, hsum]
  cases t.id == id with
  | true => simp [restocked]
  | false => simp [restocked, Rows.total]

/-- Nothing was put back for a transaction that is not there. -/
theorem Restocked.restocked_of_fresh (h : s.Restocked) {id : String}
    (hfresh : s.hasTransaction id = false) (product : String) : s.restocked id product = 0 := by
  have hnone : s.reversals.filter (fun m => m.reference == id && m.product == product) = [] := by
    refine List.filter_eq_nil_iff.2 ?_
    intro m hm hid
    obtain ⟨t, ht, href⟩ := h.referred m hm
    simp only [Bool.and_eq_true, beq_iff_eq] at hid
    rw [href] at hid
    exact hasTransaction_eq_false.1 hfresh (hid.1 ▸ List.mem_map_of_mem ht)
  rw [restocked, Rows.total, hnone]
  rfl

/-- A change of one transaction keeps what was put back equal to what is covered if it does so for
this transaction, and puts back nothing for others. -/
theorem Restocked.updated (h : s.Restocked) (k : s.Keyed) (ht : t ∈ s.transactions)
    {f : Transaction → Transaction} (hid : (f t).id = t.id) (hlines : (f t).lines = t.lines)
    (htransactions : after.transactions = Rows.update (·.id) t.id f s.transactions)
    (hunits : ∀ product, after.restocked t.id product =
      unitsSold t.lines product - (f t).unitsKept (f t).refunded product)
    (hothers : ∀ id product, t.id ≠ id → after.restocked id product = s.restocked id product)
    (hreferred : ∀ m ∈ after.reversals, m ∈ s.reversals ∨ m.reference = t.id)
    (hpositive : ∀ r ∈ after.refunds, 0 < r.amount) : after.Restocked := by
  refine ⟨?_, ?_, ?_, hpositive⟩
  · rw [htransactions]
    intro t' ht'
    rcases (Rows.mem_update k.transactions ht).1 ht' with rfl | ⟨ht', -⟩
    · exact hlines ▸ h.products t ht
    · exact h.products t' ht'
  · rw [htransactions]
    intro t' ht' product
    rcases (Rows.mem_update k.transactions ht).1 ht' with rfl | ⟨ht', hne⟩
    · rw [hid, hlines]
      exact hunits product
    · rw [hothers t'.id product (Ne.symm hne)]
      exact h.units t' ht' product
  · rw [htransactions]
    intro m hm
    refine exists_update k ht hid (p := fun id => m.reference = id) ?_
    rcases hreferred m hm with hm | href
    · exact h.referred m hm
    · exact ⟨t, ht, href⟩

/-- **Every change keeps what was put back equal to what is covered.** -/
theorem Restocked.change (h : s.Restocked) (sound : s.Sound) (hchange : LedgerChange s after) :
    after.Restocked := by
  cases hchange with
  | none transactions refunds reversals =>
    refine ⟨transactions ▸ h.products, ?_, ?_, refunds ▸ h.positive⟩
    · intro t ht product
      rw [restocked_of_same reversals]
      exact h.units t (transactions ▸ ht) product
    · rw [reversals, transactions]
      exact h.referred
  | @sold t fresh products unrefunded transactions refunds reversals =>
    refine ⟨?_, ?_, ?_, refunds ▸ h.positive⟩
    · rw [transactions]
      intro t' ht'
      rcases List.mem_append.1 ht' with ht' | ht'
      · exact h.products t' ht'
      · exact List.mem_singleton.1 ht' ▸ products
    · rw [transactions]
      intro t' ht' product
      rw [restocked_of_same reversals]
      rcases List.mem_append.1 ht' with ht' | ht'
      · exact h.units t' ht' product
      · rw [List.mem_singleton.1 ht', h.restocked_of_fresh fresh, unrefunded,
          Transaction.unitsKept_of_none, Int.sub_self]
    · rw [reversals, transactions]
      intro m hm
      obtain ⟨t', ht', href⟩ := h.referred m hm
      exact ⟨t', List.mem_append_left _ ht', href⟩
  | @voided t u mem completed transactions refunds reversals =>
    refine h.updated sound.keyed mem (f := marked u) rfl rfl transactions ?_ ?_ ?_
      (refunds ▸ h.positive)
    · intro product
      rw [restocked_of_same reversals]
      exact h.units t mem product
    · intro id product _
      exact restocked_of_same reversals id product
    · intro m hm
      exact .inl (reversals ▸ hm)
  | @refunded ids now t u amount units mem refund positive transactions refunds reversals =>
    have hpriced := sound.stocked.priced t mem
    have hbounds := (sound.balanced.accounted t mem).bounds
    have hpositive := refund.positive
    have hrefunded : (paidBack u t).refunded = t.refunded + amount :=
      congrArg Transaction.refunded refund.refunded
    refine h.updated sound.keyed mem (f := paidBack u) rfl rfl transactions ?_ ?_ ?_ ?_
    · intro product
      have hunits := Transaction.restock_total hpriced (by omega) (by omega) refund.units product
      have hkept : (paidBack u t).unitsKept (t.refunded + amount) product =
          t.unitsKept (t.refunded + amount) product := rfl
      rw [restocked_refund reversals, if_pos (beq_self_eq_true _), hunits, h.units t mem, hrefunded,
        hkept]
      omega
    · intro id product hne
      rw [restocked_refund reversals, if_neg (by simpa using hne), Int.add_zero]
    · rw [reversals]
      intro m hm
      have hreferred : ∀ m ∈ Engine.refundMovements ids t now units, m.reference = t.id :=
        Rows.forall_mem_mapIdx fun _ _ _ => rfl
      rcases List.mem_append.1 hm with hm | hm
      · exact .inl hm
      · exact .inr (hreferred m hm)
    · rw [refunds]
      intro q hq
      rcases List.mem_append.1 hq with hq | hq
      · exact h.positive q hq
      · exact List.mem_singleton.1 hq ▸ positive

/-- **What was put back of every line** is what the amount refunded so far covers, so it is a part
of the line. -/
theorem Restocked.coveredUnits_eq (h : s.Restocked) (sound : s.Sound) (ht : t ∈ s.transactions) :
    t.coveredUnits t.refunded = .ok (t.lines.map fun l => s.restocked t.id l.product) ∧
      ∀ l ∈ t.lines, 0 ≤ s.restocked t.id l.product ∧
        s.restocked t.id l.product ≤ l.quantity := by
  have hpriced := sound.stocked.priced t ht
  have hbounds := (sound.balanced.accounted t ht).bounds
  have hunits : ∀ product, s.restocked t.id product =
      Transaction.coveredFromOf LineItem.product (t.covers t.refunded) 0 t.lines product := by
    intro product
    have hleft := Transaction.unitsLeft_eq (t.covers t.refunded) 0 t.lines product
    have hkept : t.unitsKept t.refunded product =
        Transaction.unitsLeft (t.covers t.refunded) 0 t.lines product := rfl
    rw [h.units t ht, hkept, hleft]
    omega
  refine ⟨?_, ?_⟩
  · rw [Transaction.coveredUnits_eq hpriced (by omega), Transaction.coverage,
      ← Transaction.map_coveredFromOf (h.products t ht)]
    simp only [hunits]
  · intro l hl
    rw [hunits]
    refine ⟨?_, ?_⟩
    · -- Nothing is covered before a refund, and from there on it only grows.
      have hnone := Transaction.coveredFromOf_none (t := t) LineItem.product
        (Int.le_refl 0) 0 t.lines l.product
      have hgrows := Transaction.coveredFromOf_mono LineItem.product
        (Transaction.subtotal_nonneg hpriced) hbounds.1 0 t.lines l.product
      omega
    · rw [← Transaction.quantityOf_eq (h.products t ht) hl]
      exact Transaction.coveredFromOf_le LineItem.product hpriced.lines 0 l.product

end Store

end Till
