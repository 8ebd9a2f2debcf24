import Till.Proofs.Run

/-!
# What a receipt adds to an order

The lines of an order are about different products, so the units of a receipt are booked on one line
each.

* `Store.receiveAll_eq_map` : the lines after a receipt;
* `Store.total_receiveAll` : the units received of a product grow by those of the receipt;
* `Store.unitsReceived_update` : so do those of all orders of a store.
-/

namespace Till

/-- The units of a product that were received on the lines of an order. -/
def PurchaseOrder.receivedOf (product : String) (lines : List OrderLine) : Int :=
  Rows.total (fun l => l.product == product) OrderLine.received lines

/-- The units of a product on the lines of a receipt. -/
def ReceiptLine.unitsOf (product : String) (lines : List ReceiptLine) : Int :=
  Rows.total (fun l => l.product == product) ReceiptLine.quantity lines

namespace OrderLine

/-- The line after units of its product have arrived. -/
def more (units : Int) (l : OrderLine) : OrderLine := { l with received := l.received + units }

/-- The line after a receipt: the units of its product have arrived. -/
def afterReceipt (rs : List ReceiptLine) (l : OrderLine) : OrderLine :=
  { l with received := l.received + ReceiptLine.unitsOf l.product rs }

variable {lines : List OrderLine}

/-- Booking units of a product and then a receipt without it is booking both as one receipt. -/
theorem map_afterReceipt_update {r : ReceiptLine} {rs : List ReceiptLine} :
    (Rows.update (·.product) r.product (more r.quantity) lines).map (afterReceipt rs) =
      lines.map (afterReceipt (r :: rs)) := by
  rw [Rows.update, List.map_map]
  refine List.map_congr_left ?_
  intro l _
  simp only [Function.comp_apply, afterReceipt, ReceiptLine.unitsOf, Rows.total_cons]
  by_cases hl : l.product = r.product
  · simp [hl, more, Int.add_assoc]
  · simp [hl, Ne.symm hl]

theorem map_afterReceipt_nil (lines : List OrderLine) : lines.map (afterReceipt []) = lines := by
  have hsame : ∀ l ∈ lines, afterReceipt [] l = id l := by
    simp [afterReceipt, ReceiptLine.unitsOf]
  rw [List.map_congr_left hsame, List.map_id]

end OrderLine

namespace Store

open PurchaseOrder

/-- The units of a product that were received on all orders of a store. -/
def unitsReceived (s : Store) (store product : String) : Int :=
  Rows.total (fun o => o.store == store) (fun o => receivedOf product o.lines) s.orders

variable {order : String} {lines after : List OrderLine}

theorem receiveUnits_eq_ok {r : ReceiptLine} (h : receiveUnits order r lines = .ok after) :
    ∃ l ∈ lines, l.product = r.product ∧ l.received + r.quantity ≤ l.ordered ∧
      after = Rows.update (·.product) l.product
        (fun k => { k with received := k.received + r.quantity }) lines := by
  unfold receiveUnits at h
  split at h
  · simp at h
  · next l hfound =>
    have hproduct : l.product = r.product := by simpa using List.find?_some hfound
    by_cases hle : l.received + r.quantity ≤ l.ordered
    · rw [if_pos hle] at h
      simp only [Outcome.bind_eq_ok, Outcome.pure_eq_ok] at h
      obtain ⟨_, -, rfl⟩ := h
      refine ⟨l, List.mem_of_find?_eq_some hfound, hproduct, hle, ?_⟩
      rw [hproduct]
      rfl
    · rw [if_neg hle] at h
      cases h

theorem total_receiveUnits {r : ReceiptLine} (hk : (lines.map (·.product)).Nodup)
    (h : receiveUnits order r lines = .ok after) (product : String) :
    receivedOf product after =
      receivedOf product lines + (if r.product == product then r.quantity else 0) := by
  obtain ⟨l, hl, hproduct, -, rfl⟩ := receiveUnits_eq_ok h
  rw [receivedOf, Rows.total_update _ _ hk hl, hproduct, receivedOf]
  simp only
  split <;> omega

/-- **A receipt is booked line by line**: what has arrived of a product is added on its line. -/
theorem receiveAll_eq_map {rs : List ReceiptLine} (h : receiveAll order rs lines = .ok after) :
    after = lines.map (OrderLine.afterReceipt rs) := by
  induction rs generalizing lines with
  | nil =>
    obtain rfl := Except.ok.inj h
    exact (OrderLine.map_afterReceipt_nil lines).symm
  | cons r rs ih =>
    simp only [receiveAll, Outcome.bind_eq_ok] at h
    obtain ⟨mid, hmid, hrest⟩ := h
    obtain ⟨l, -, hproduct, -, rfl⟩ := receiveUnits_eq_ok hmid
    rw [ih hrest, hproduct]
    exact OrderLine.map_afterReceipt_update

theorem map_product_receiveAll {rs : List ReceiptLine} (h : receiveAll order rs lines = .ok after) :
    after.map (·.product) = lines.map (·.product) := by
  rw [receiveAll_eq_map h, List.map_map]
  rfl

/-- **A receipt adds its units** to those received. -/
theorem total_receiveAll {rs : List ReceiptLine} (hk : (lines.map (·.product)).Nodup)
    (h : receiveAll order rs lines = .ok after) (product : String) :
    receivedOf product after = receivedOf product lines + ReceiptLine.unitsOf product rs := by
  induction rs generalizing lines with
  | nil =>
    obtain rfl := Except.ok.inj h
    simp [ReceiptLine.unitsOf]
  | cons r rs ih =>
    simp only [receiveAll, Outcome.bind_eq_ok] at h
    obtain ⟨mid, hmid, hrest⟩ := h
    -- The lines that are left are still about different products.
    have hkmid : (mid.map (·.product)).Nodup := by
      obtain ⟨l, -, -, -, rfl⟩ := receiveUnits_eq_ok hmid
      refine Rows.nodup_update hk ?_
      intro k
      rfl
    rw [ih hkmid hrest, total_receiveUnits hk hmid, ReceiptLine.unitsOf, ReceiptLine.unitsOf,
      Rows.total_cons]
    omega

/-- **The units received** of a product at a store grow by those of a receipt. -/
theorem unitsReceived_update {s : Store} (k : s.Keyed) {o : PurchaseOrder} (ho : o ∈ s.orders)
    (hk : (o.lines.map (·.product)).Nodup) {rs : List ReceiptLine}
    (h : receiveAll order rs o.lines = .ok after) {f : PurchaseOrder → PurchaseOrder}
    (hlines : (f o).lines = after) (hstore : (f o).store = o.store) (store product : String) :
    Rows.total (fun o => o.store == store) (fun o => receivedOf product o.lines)
        (Rows.update (·.id) o.id f s.orders) =
      s.unitsReceived store product +
        (if o.store == store then ReceiptLine.unitsOf product rs else 0) := by
  rw [Rows.total_update _ _ k.orders ho, hlines, hstore, total_receiveAll hk h, unitsReceived]
  split <;> omega

end Store

end Till
