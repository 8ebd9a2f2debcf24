import Till.Proofs.ReceiptsAgree
import Till.Proofs.Reconciliation

/-!
# Receipts that name a product more than once

`PurchaseOrder.receive` compares every line of a receipt with the order as it was before the
receipt.  Lines about one product are each compared with all that is outstanding of it, so together
they can bring in more than that.  This file tells what any receipt of positive quantities does:

* `PurchaseOrder.withUnits`, `PurchaseOrder.receive_givesIf` : a receipt that is not refused adds to
  each line all units of its product, as long as the sums fit;
* `PurchaseOrder.ReceivesWithin`, `PurchaseOrder.receivesWithin_iff` : it stays within the order
  exactly if it is refused, or brings in no more of any product than is outstanding;
* `PurchaseOrder.receivesWithin_of_distinct` : lines about different products stay within it;
* `PurchaseOrder.not_receivesWithin_twice` : two lines about one product need not.
-/

namespace Till

open Outcome (GivesIf)

namespace ReceiptLine

variable {rs : List ReceiptLine}

theorem unitsOf_nonneg (h : ∀ r ∈ rs, 0 < r.quantity) (product : String) :
    0 ≤ unitsOf product rs := by
  refine List.sum_nonneg ?_
  intro n hn
  obtain ⟨r, hr, rfl⟩ := List.mem_map.1 hn
  exact Int.le_of_lt (h r (List.mem_of_mem_filter hr))

end ReceiptLine

namespace PurchaseOrder

open OrderLine ReceiptLine

variable {o : PurchaseOrder} {lines : List OrderLine} {r : ReceiptLine} {rs : List ReceiptLine}

/-! ### Units are added to the lines -/

/-- The status of an order of which something arrived, told from what is outstanding. -/
def statusOf (lines : List OrderLine) : OrderStatus :=
  if lines.all fun l => decide (l.ordered - l.received = 0) then .received else .partiallyReceived

theorem statusOf_eq_received :
    statusOf lines = .received ↔ ∀ l ∈ lines, l.ordered - l.received = 0 := by
  rw [statusOf]
  split
  · next hall => simpa using hall
  · next hsome => simpa using hsome

/-- The order with the units of a receipt, be they outstanding or not. -/
def withUnits (o : PurchaseOrder) (rs : List ReceiptLine) (at' : Instant) : PurchaseOrder :=
  { o with
    lines := o.lines.map (OrderLine.afterReceipt rs)
    status := statusOf (o.lines.map (OrderLine.afterReceipt rs))
    updatedAt := at' }

/-- What was received on each line is a number that fits, and not negative. -/
def ReceivedFits (lines : List OrderLine) : Prop :=
  ∀ l ∈ lines, 0 ≤ l.received ∧ l.received ≤ Cents.greatest

theorem fits_of_nonneg {n : Int} (h : 0 ≤ n) : Cents.Fits n ↔ n ≤ Cents.greatest := by
  simp only [Cents.Fits, Cents.least]
  omega

/-- A line fits before a receipt if it fits after it. -/
theorem ReceivedFits.of_afterReceipt (hpositive : ∀ r ∈ rs, 0 < r.quantity)
    (hnonneg : ∀ l ∈ lines, 0 ≤ l.received)
    (h : ReceivedFits (lines.map (OrderLine.afterReceipt rs))) : ReceivedFits lines := by
  intro l hl
  have hunits := unitsOf_nonneg hpositive l.product
  have hafter : l.received + unitsOf l.product rs ≤ Cents.greatest :=
    (h _ (List.mem_map_of_mem hl)).2
  exact ⟨hnonneg l hl, by omega⟩

/-- The lines after units of one product arrived. -/
theorem mem_receiveLine (hk : (lines.map (·.product)).Nodup) {l : OrderLine} (hl : l ∈ lines)
    (hproduct : l.product = r.product) {k : OrderLine} :
    k ∈ Rows.update (·.product) r.product (more r.quantity) lines ↔
      k = more r.quantity l ∨ k ∈ lines ∧ k.product ≠ l.product := by
  rw [← hproduct]
  exact Rows.mem_update hk hl

theorem receiveLine_givesIf (hk : (lines.map (·.product)).Nodup) {l : OrderLine} (hl : l ∈ lines)
    (hproduct : l.product = r.product) :
    GivesIf (receiveLine r lines) (Rows.update (·.product) r.product (more r.quantity) lines)
      (Cents.Fits (l.received + r.quantity)) := by
  rw [receiveLine_of_mem hk hl hproduct]
  refine ⟨fun hfits => ?_, fun hlarge => ?_⟩
  · rw [Cents.exact_of_fits hfits]
    rfl
  · rw [Cents.exact, if_neg hlarge]
    rfl

/-- **The units of a receipt** are added to the lines one after the other, as long as what is then
received fits. -/
theorem foldlM_receiveLine_givesIf (hk : (lines.map (·.product)).Nodup)
    (hfits : ReceivedFits lines) (hpositive : ∀ r ∈ rs, 0 < r.quantity)
    (hordered : ∀ r ∈ rs, r.product ∈ lines.map (·.product)) :
    GivesIf (rs.foldlM (fun lines r => receiveLine r lines) lines : Result (List OrderLine))
      (lines.map (OrderLine.afterReceipt rs))
      (ReceivedFits (lines.map (OrderLine.afterReceipt rs))) := by
  induction rs generalizing lines with
  | nil =>
    rw [map_afterReceipt_nil]
    exact (Outcome.givesIf_pure lines).congr (iff_of_true trivial hfits)
  | cons r rs ih =>
    obtain ⟨hr, hrest⟩ := List.forall_mem_cons.1 hpositive
    obtain ⟨hfirst, hothers⟩ := List.forall_mem_cons.1 hordered
    obtain ⟨l, hl, hproduct⟩ := List.mem_map.1 hfirst
    have hmem := fun k => mem_receiveLine (k := k) hk hl hproduct
    have hproducts : (Rows.update (·.product) r.product (more r.quantity) lines).map (·.product) =
        lines.map (·.product) := Rows.map_update fun _ => rfl
    have hsum : 0 ≤ l.received + r.quantity := by
      have hbefore := (hfits l hl).1
      omega
    rw [List.foldlM_cons, ← map_afterReceipt_update]
    have hbooked := receiveLine_givesIf hk hl hproduct
    refine (hbooked.bind (f := fun lines => rs.foldlM (fun lines r => receiveLine r lines) lines)
      fun hfirstFits => ih (hproducts ▸ hk) ?_ hrest (hproducts ▸ hothers)).congr ⟨And.right, ?_⟩
    · intro k hkmem
      rcases (hmem k).1 hkmem with rfl | ⟨hold, -⟩
      · exact ⟨hsum, hfirstFits.2⟩
      · exact hfits k hold
    · -- What fits in the end has fitted all the time.
      intro hlast
      have hnonneg : ∀ k ∈ Rows.update (·.product) r.product (more r.quantity) lines,
          0 ≤ k.received := by
        intro k hkmem
        rcases (hmem k).1 hkmem with rfl | ⟨hold, -⟩
        · exact hsum
        · exact (hfits k hold).1
      have hthis := (hlast.of_afterReceipt hrest hnonneg _ ((hmem _).2 (.inl rfl))).2
      exact ⟨(fits_of_nonneg hsum).2 hthis, hlast⟩

/-- **A receipt of any lines** that is not refused adds its units to the order, as long as what is
then received fits. -/
theorem receive_givesIf (h : Orderly o.lines) (hpositive : ∀ r ∈ rs, 0 < r.quantity)
    (haccepted : o.refusal? rs = none) (at' : Instant) :
    GivesIf (o.receive rs at') (o.withUnits rs at')
      (ReceivedFits (o.lines.map (OrderLine.afterReceipt rs))) := by
  have hopen : o.status ≠ .received := by
    intro hclosed
    rw [refusal?, if_pos hclosed] at haccepted
    cases haccepted
  rw [refusal?, if_neg hopen] at haccepted
  have hbefore : ReceivedFits o.lines := fun l hl =>
    ⟨(h.bounds l hl).1, (h.bounds l hl).2.trans (h.most l hl)⟩
  have hordered : ∀ r ∈ rs, r.product ∈ o.lines.map (·.product) := by
    intro r hr
    obtain ⟨l, hl, hproduct, -⟩ :=
      exists_of_lineRefusal? (List.findSome?_eq_none_iff.1 haccepted r hr)
    exact List.mem_map.2 ⟨l, hl, hproduct⟩
  have hfold := foldlM_receiveLine_givesIf h.distinct hbefore hpositive hordered
  rw [receive, if_neg hopen, checkReceipt_eq h, haccepted]
  refine ⟨fun hfits => ?_, fun hlarge => ?_⟩
  · have houtstanding : ∀ l ∈ o.lines.map (OrderLine.afterReceipt rs),
        l.outstanding = .ok (l.ordered - l.received) := by
      intro k hk
      obtain ⟨l, hl, rfl⟩ := List.mem_map.1 hk
      have hreceived := hfits _ hk
      have hbounds := h.bounds l hl
      have hmost := h.most l hl
      refine Cents.exact_of_fits ?_
      simp only [OrderLine.afterReceipt, Cents.Fits, Cents.least, Cents.greatest] at *
      omega
    simp only [Outcome.unlessRefused_none, bind, Except.bind, hfold.gives hfits,
      isComplete_eq houtstanding]
    rfl
  · simp only [Outcome.unlessRefused_none, bind, Except.bind, hfold.overflows hlarge]

/-- A receipt that is refused leaves no order. -/
theorem receive_of_refusal (h : Orderly o.lines) {reason : Rejection}
    (hrefused : o.refusal? rs = some reason) (at' : Instant) :
    o.receive rs at' = Outcome.reject reason := by
  unfold refusal? at hrefused
  unfold receive
  split at hrefused
  · next hclosed =>
    rw [if_pos hclosed, ← Option.some.inj hrefused]
  · next hopen =>
    rw [if_neg hopen, checkReceipt_eq h, hrefused]
    rfl

/-! ### Staying within an order -/

/-- **A receipt stays within an order**: it is refused, or what was received on each line grows by
all units of its product, to no more than was ordered, and the order is received if then nothing is
outstanding.  Nothing else changes. -/
inductive ReceivesWithin (o : PurchaseOrder) (rs : List ReceiptLine) (at' : Instant) : Prop
  /-- It is refused, so there is no other order than the one before. -/
  | refused {reason : Rejection} (value : o.receive rs at' = Outcome.reject reason)
  /-- It is taken. -/
  | received {after : PurchaseOrder} (value : o.receive rs at' = .ok after)
      (lines : after.lines = o.lines.map (OrderLine.afterReceipt rs))
      (bounds : ∀ l ∈ after.lines, 0 ≤ l.received ∧ l.received ≤ l.ordered)
      (status : after.status = .received ↔ ∀ l ∈ after.lines, l.ordered - l.received = 0)
      (kept : after = { o with
        lines := after.lines, status := after.status, updatedAt := at' })

/-- A receipt that stays within an order and is not refused brings in no more of any product than is
outstanding. -/
theorem ReceivesWithin.le {at' : Instant} (hwithin : o.ReceivesWithin rs at') (h : Orderly o.lines)
    (hpositive : ∀ r ∈ rs, 0 < r.quantity) (haccepted : o.refusal? rs = none) :
    ∀ l ∈ o.lines, unitsOf l.product rs ≤ l.ordered - l.received := by
  intro l hl
  have hgives := receive_givesIf h hpositive haccepted at'
  by_cases hfits : ReceivedFits (o.lines.map (OrderLine.afterReceipt rs))
  · cases hwithin with
    | refused value =>
      rw [hgives.gives hfits] at value
      cases value
    | received value lines bounds =>
      rw [lines] at bounds
      have hafter : l.received + unitsOf l.product rs ≤ l.ordered :=
        (bounds _ (List.mem_map_of_mem hl)).2
      omega
  · cases hwithin with
    | refused value | received value =>
      rw [hgives.overflows hfits] at value
      cases value

/-- A receipt that brings in no more of any product than is outstanding stays within the order. -/
theorem receivesWithin_of_le (h : Orderly o.lines) (hpositive : ∀ r ∈ rs, 0 < r.quantity)
    (hle : o.refusal? rs = none → ∀ l ∈ o.lines, unitsOf l.product rs ≤ l.ordered - l.received)
    (at' : Instant) : o.ReceivesWithin rs at' := by
  cases hrefusal : o.refusal? rs with
  | some reason => exact .refused (receive_of_refusal h hrefusal at')
  | none =>
    have hbounds : ∀ l ∈ o.lines.map (OrderLine.afterReceipt rs),
        0 ≤ l.received ∧ l.received ≤ l.ordered := by
      refine List.forall_mem_map.2 ?_
      intro l hl
      have hunits := hle hrefusal l hl
      have hmore := unitsOf_nonneg hpositive l.product
      have hbefore := h.bounds l hl
      simp only [OrderLine.afterReceipt]
      omega
    have hfits : ReceivedFits (o.lines.map (OrderLine.afterReceipt rs)) := by
      intro k hk
      obtain ⟨l, hl, rfl⟩ := List.mem_map.1 hk
      exact ⟨(hbounds _ hk).1, (hbounds _ hk).2.trans (h.most l hl)⟩
    exact .received ((receive_givesIf h hpositive hrefusal at').gives hfits) rfl hbounds
      statusOf_eq_received rfl

/-- Lines about different products stay within the order: each of them does. -/
theorem receivesWithin_of_distinct (h : Orderly o.lines) (hrs : (rs.map (·.product)).Nodup)
    (hpositive : ∀ r ∈ rs, 0 < r.quantity) (at' : Instant) : o.ReceivesWithin rs at' := by
  refine receivesWithin_of_le h hpositive (fun haccepted l hl => ?_) at'
  have hlines : ∀ r ∈ rs, lineRefusal? o.id o.lines r = none := by
    unfold refusal? at haccepted
    split at haccepted
    · cases haccepted
    · exact List.findSome?_eq_none_iff.1 haccepted
  by_cases hsome : ∃ r ∈ rs, r.product = l.product
  · obtain ⟨r, hr, hproduct⟩ := hsome
    have hunits : unitsOf l.product rs = r.quantity := by
      rw [← hproduct]
      exact Rows.total_of_key hrs hr
    obtain ⟨k, hk, hkproduct, hle⟩ := exists_of_lineRefusal? (hlines r hr)
    obtain rfl := List.inj_on_of_nodup_map h.distinct hk hl (hkproduct.trans hproduct)
    omega
  · have hunits : unitsOf l.product rs = 0 := by
      refine Rows.total_eq_zero ?_
      intro r hr
      exact beq_false_of_ne fun hproduct => hsome ⟨r, hr, hproduct⟩
    have hbounds := h.bounds l hl
    omega

/-- **A receipt stays within an order exactly if** it is refused, or all its lines together bring in
no more of any product than is outstanding. -/
theorem receivesWithin_iff (h : Orderly o.lines) (hpositive : ∀ r ∈ rs, 0 < r.quantity)
    (at' : Instant) :
    o.ReceivesWithin rs at' ↔ (o.refusal? rs = none →
      ∀ l ∈ o.lines, unitsOf l.product rs ≤ l.ordered - l.received) :=
  ⟨fun hwithin => hwithin.le h hpositive, fun hle => receivesWithin_of_le h hpositive hle at'⟩

/-! ### The same product twice -/

/-- An order of coffee and tea before anything has arrived. -/
def coffeeAndTea : PurchaseOrder :=
  ⟨"po-1", "store-1", "sup-1", .open, [⟨"COFFEE", 10, 0, 400⟩, ⟨"TEA", 5, 0, 200⟩], "mgr", ⟨0⟩, ⟨0⟩⟩

theorem orderly_coffeeAndTea : Orderly coffeeAndTea.lines where
  distinct := by decide
  bounds := by decide
  most := by decide

/-- Four units of coffee and another six are all that was ordered. -/
theorem receivesWithin_iff_fourAndSix :
    Orderly coffeeAndTea.lines ∧
      (∀ r ∈ [ReceiptLine.mk "COFFEE" 4, ⟨"COFFEE", 6⟩], 0 < r.quantity) ∧
      coffeeAndTea.ReceivesWithin [⟨"COFFEE", 4⟩, ⟨"COFFEE", 6⟩] ⟨1⟩ :=
  ⟨orderly_coffeeAndTea, by decide,
    (receivesWithin_iff orderly_coffeeAndTea (by decide) ⟨1⟩).2 fun _ => by decide⟩

/-- **Not every receipt stays within its order**: each of two lines about six units of coffee is
within the ten that are outstanding, so both are taken, and twelve units of ten have arrived. -/
theorem not_receivesWithin_twice :
    Orderly coffeeAndTea.lines ∧
      (∀ r ∈ [ReceiptLine.mk "COFFEE" 6, ⟨"COFFEE", 6⟩], 0 < r.quantity) ∧
      coffeeAndTea.receive [⟨"COFFEE", 6⟩, ⟨"COFFEE", 6⟩] ⟨1⟩ = .ok { coffeeAndTea with
        lines := [⟨"COFFEE", 10, 12, 400⟩, ⟨"TEA", 5, 0, 200⟩]
        status := .partiallyReceived
        updatedAt := ⟨1⟩ } ∧
      ¬coffeeAndTea.ReceivesWithin [⟨"COFFEE", 6⟩, ⟨"COFFEE", 6⟩] ⟨1⟩ := by
  refine ⟨orderly_coffeeAndTea, by decide, by decide, fun hwithin => ?_⟩
  have hunits := hwithin.le orderly_coffeeAndTea (by decide) (by decide) ⟨"COFFEE", 10, 0, 400⟩
    (by decide)
  revert hunits
  decide

end PurchaseOrder

end Till
