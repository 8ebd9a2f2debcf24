import Till.Proofs.AtMostOnce
import Till.Proofs.Orders

/-!
# A receipt on an order and in the store

`PurchaseOrder.receive` compares all lines of a receipt with an order before it adds their units,
and `Store.commitReceipt` books the lines one after the other, each compared with what the lines
before have left.  The lines of a receipt are about different products, so for an order of a run both
decide alike: `PurchaseOrder.refusal?` is the reason of both, and `PurchaseOrder.afterReceipt` is
what they leave.

* `PurchaseOrder.receive_eq` : the receipt on the order;
* `Store.receiveAll_result` : the receipt on the lines, one by one;
* `Store.commitReceipt_result` : the receipt in the store;
* `Engine.run_receivesAlike` : both agree on every order of every run.
-/

namespace Till

/-! ### Reasons -/

namespace Outcome

variable {ε α β : Type}

/-- A value, unless there is a reason against it. -/
def unlessRefused (reason : Option ε) (a : α) : Outcome ε α :=
  match reason with
  | some r => reject r
  | none => .ok a

@[simp] theorem unlessRefused_none (a : α) : unlessRefused (none : Option ε) a = .ok a := rfl

@[simp] theorem unlessRefused_some (r : ε) (a : α) : unlessRefused (some r) a = reject r := rfl

end Outcome

theorem Stored.result_bind {α β : Type} (x : Stored α) (f : α → Stored β) :
    Stored.result (x >>= f) = Stored.result x >>= fun a => Stored.result (f a) := by
  match x with
  | .ok a => rfl
  | .error (.rejected e) => rfl
  | .error .overflow => rfl

namespace PurchaseOrder

/-- Why a line of a receipt is refused by an order with the given lines: it is about something else,
or about more than is outstanding. -/
def lineRefusal? (order : String) (lines : List OrderLine) (r : ReceiptLine) : Option Rejection :=
  match lines.find? fun l => l.product == r.product with
  | none => some (.notFound "Purchase order line" (lineName order r.product))
  | some l =>
    if r.quantity ≤ l.ordered - l.received then none
    else some (.overReceipt order r.product (l.ordered - l.received) r.quantity)

/-- Why a receipt is refused: the order is closed, or the first line that is refused. -/
def refusal? (o : PurchaseOrder) (rs : List ReceiptLine) : Option Rejection :=
  if o.status = .received then some (.orderClosed o.id)
  else rs.findSome? (lineRefusal? o.id o.lines)

/-- The order after a receipt. -/
def afterReceipt (o : PurchaseOrder) (rs : List ReceiptLine) (at' : Instant) : PurchaseOrder :=
  Store.bookedOrder o (o.lines.map (OrderLine.afterReceipt rs)) at'

end PurchaseOrder

/-! ### Lines -/

namespace OrderLine

/-- **The lines of an order**: they are about different products, no more has arrived than was
ordered, and that fits 64 bits. -/
structure Orderly (lines : List OrderLine) : Prop where
  distinct : (lines.map (·.product)).Nodup
  bounds : ∀ l ∈ lines, 0 ≤ l.received ∧ l.received ≤ l.ordered
  most : ∀ l ∈ lines, l.ordered ≤ Cents.greatest

variable {lines : List OrderLine} {l : OrderLine} {r : ReceiptLine} {order : String}

theorem Orderly.outstanding_eq (h : Orderly lines) (hl : l ∈ lines) :
    l.outstanding = .ok (l.ordered - l.received) := by
  have hbounds := h.bounds l hl
  have hmost := h.most l hl
  refine Cents.exact_of_fits ?_
  simp only [Cents.Fits, Cents.least, Cents.greatest] at *
  omega

open PurchaseOrder

/-- A line of a receipt that is not refused is about a line with that much outstanding. -/
theorem exists_of_lineRefusal? (h : lineRefusal? order lines r = none) :
    ∃ l ∈ lines, l.product = r.product ∧ l.received + r.quantity ≤ l.ordered := by
  unfold lineRefusal? at h
  split at h
  · cases h
  · next l hfound =>
    have hproduct : l.product = r.product := by simpa using List.find?_some hfound
    refine ⟨l, List.mem_of_find?_eq_some hfound, hproduct, ?_⟩
    split at h
    · omega
    · cases h

/-- Booking a line of a receipt that is not refused leaves the lines in order. -/
theorem Orderly.update (h : Orderly lines) (hpositive : 0 < r.quantity)
    (haccepted : lineRefusal? order lines r = none) :
    Orderly (Rows.update (·.product) r.product (more r.quantity) lines) := by
  obtain ⟨l, hl, hproduct, hle⟩ := exists_of_lineRefusal? haccepted
  rw [← hproduct]
  refine ⟨Rows.nodup_update h.distinct fun _ => rfl, ?_, ?_⟩ <;> intro k hk
  · rcases (Rows.mem_update h.distinct hl).1 hk with rfl | ⟨hold, -⟩
    · have hbounds := h.bounds l hl
      exact ⟨by simp only [more]; omega, hle⟩
    · exact h.bounds k hold
  · rcases (Rows.mem_update h.distinct hl).1 hk with rfl | ⟨hold, -⟩
    · exact h.most l hl
    · exact h.most k hold

/-- A line of a receipt is compared with a line that the others do not change. -/
theorem lineRefusal?_update {r' : ReceiptLine} (hne : r'.product ≠ r.product) :
    lineRefusal? order (Rows.update (·.product) r.product (more r.quantity) lines) r' =
      lineRefusal? order lines r' := by
  have hfind : (Rows.update (·.product) r.product (more r.quantity) lines).find?
      (·.product == r'.product) = lines.find? (·.product == r'.product) := by
    refine Rows.find?_update_of_ne ?_ hne lines
    exact fun _ => rfl
  rw [lineRefusal?, hfind, lineRefusal?]

/-- Once a line of a receipt is booked, the others are refused as they were. -/
theorem findSome?_lineRefusal?_update {rs : List ReceiptLine} (hne : r.product ∉ rs.map (·.product)) :
    rs.findSome? (lineRefusal? order
      (Rows.update (·.product) r.product (more r.quantity) lines)) =
      rs.findSome? (lineRefusal? order lines) := by
  induction rs with
  | nil => rfl
  | cons r' rs ih =>
    simp only [List.map_cons, List.mem_cons, not_or] at hne
    rw [List.findSome?_cons, List.findSome?_cons, lineRefusal?_update (Ne.symm hne.1), ih hne.2]

end OrderLine

/-! ### A receipt on an order -/

namespace PurchaseOrder

open OrderLine

variable {o : PurchaseOrder} {lines : List OrderLine} {r : ReceiptLine} {rs : List ReceiptLine}

theorem checkReceiptLine_eq (h : Orderly o.lines) (r : ReceiptLine) :
    o.checkReceiptLine r = Outcome.unlessRefused (lineRefusal? o.id o.lines r) () := by
  unfold checkReceiptLine lineRefusal?
  cases hfound : o.lines.find? fun l => l.product == r.product with
  | none => rfl
  | some l =>
    simp only [h.outstanding_eq (List.mem_of_find?_eq_some hfound), bind, Except.bind,
      Outcome.require, decide_eq_true_eq]
    split <;> rfl

theorem checkReceipt_eq (h : Orderly o.lines) (rs : List ReceiptLine) :
    o.checkReceipt rs = Outcome.unlessRefused (rs.findSome? (lineRefusal? o.id o.lines)) () := by
  induction rs with
  | nil => rfl
  | cons r rs ih =>
    rw [checkReceipt, checkReceiptLine_eq h, ih, List.findSome?_cons]
    cases lineRefusal? o.id o.lines r <;> rfl

/-- Units are added on the line of their product, if the sum fits. -/
theorem receiveLine_of_mem {l : OrderLine} (hk : (lines.map (·.product)).Nodup) (hl : l ∈ lines)
    (hproduct : l.product = r.product) :
    receiveLine r lines = Cents.exact (l.received + r.quantity) >>= fun _ =>
      pure (Rows.update (·.product) r.product (more r.quantity) lines) := by
  induction lines with
  | nil => cases hl
  | cons k lines ih =>
    rw [List.map_cons, List.nodup_cons] at hk
    rw [receiveLine, Rows.update, List.map_cons]
    rcases List.mem_cons.1 hl with rfl | hl
    · have hrest : Rows.update (·.product) r.product (more r.quantity) lines = lines := by
        refine Rows.update_eq_self ?_
        intro k hkmem heq
        exact hk.1 (hproduct ▸ heq ▸ List.mem_map_of_mem hkmem)
      rw [Rows.update] at hrest
      have hthis : (l.product == r.product) = true := beq_iff_eq.2 hproduct
      simp only [hthis, if_true, hrest, Cents.exact]
      split <;> rfl
    · have hne : (k.product == r.product) = false := by
        refine beq_false_of_ne ?_
        intro heq
        exact hk.1 (heq ▸ hproduct ▸ List.mem_map_of_mem hl)
      simp only [hne, Bool.false_eq_true, if_false, ih hk.2 hl, Cents.exact]
      split <;> rfl

theorem receiveLine_eq (h : Orderly lines) (hpositive : 0 < r.quantity) {order : String}
    (haccepted : lineRefusal? order lines r = none) :
    receiveLine r lines = .ok (Rows.update (·.product) r.product (more r.quantity) lines) := by
  obtain ⟨l, hl, hproduct, hle⟩ := exists_of_lineRefusal? haccepted
  have hfits : Cents.Fits (l.received + r.quantity) := by
    have hbounds := h.bounds l hl
    have hmost := h.most l hl
    simp only [Cents.Fits, Cents.least, Cents.greatest] at *
    omega
  rw [receiveLine_of_mem h.distinct hl hproduct, Cents.exact_of_fits hfits]
  rfl

/-- **The units of a receipt that is not refused** are added on the lines. -/
theorem foldlM_receiveLine (h : Orderly lines) (hrs : (rs.map (·.product)).Nodup)
    (hpositive : ∀ r ∈ rs, 0 < r.quantity) {order : String}
    (haccepted : rs.findSome? (lineRefusal? order lines) = none) :
    rs.foldlM (fun lines r => receiveLine r lines) lines =
        (.ok (lines.map (OrderLine.afterReceipt rs)) : Result (List OrderLine)) ∧
      Orderly (lines.map (OrderLine.afterReceipt rs)) := by
  induction rs generalizing lines with
  | nil =>
    rw [map_afterReceipt_nil]
    exact ⟨rfl, h⟩
  | cons r rs ih =>
    obtain ⟨hr, hrest⟩ := List.forall_mem_cons.1 hpositive
    rw [List.map_cons, List.nodup_cons] at hrs
    rw [List.findSome?_eq_none_iff, List.forall_mem_cons] at haccepted
    obtain ⟨hfirst, hothers⟩ := haccepted
    rw [← List.findSome?_eq_none_iff, ← findSome?_lineRefusal?_update hrs.1] at hothers
    obtain ⟨hfold, horderly⟩ := ih (h.update hr hfirst) hrs.2 hrest hothers
    rw [map_afterReceipt_update] at hfold horderly
    rw [List.foldlM_cons, receiveLine_eq h hr hfirst]
    exact ⟨hfold, horderly⟩

theorem isComplete_eq (h : ∀ l ∈ lines, l.outstanding = .ok (l.ordered - l.received)) :
    isComplete lines = .ok (lines.all fun l => decide (l.ordered - l.received = 0)) := by
  induction lines with
  | nil => rfl
  | cons l lines ih =>
    obtain ⟨hl, hlines⟩ := List.forall_mem_cons.1 h
    rw [isComplete, hl, ih hlines, List.all_cons]
    simp only [bind, Except.bind]
    split
    · next hzero => rw [decide_eq_true hzero, Bool.true_and]
    · next hzero => rw [decide_eq_false hzero, Bool.false_and]; rfl

/-- Nothing is outstanding if no line has received less than was ordered. -/
theorem status_eq (h : Orderly lines) :
    (if lines.all fun l => decide (l.ordered - l.received = 0) then OrderStatus.received
      else OrderStatus.partiallyReceived) = Store.statusAfterReceipt lines := by
  have hall : (lines.all fun l => decide (l.ordered - l.received = 0)) = true ↔
      ¬(lines.any fun l => decide (l.received < l.ordered)) = true := by
    simp only [List.all_eq_true, List.any_eq_true, decide_eq_true_eq, not_exists, not_and]
    refine forall₂_congr fun l hl => ?_
    have hle := (h.bounds l hl).2
    omega
  rw [Store.statusAfterReceipt]
  by_cases hless : (lines.any fun l => decide (l.received < l.ordered)) = true
  · rw [if_pos hless, if_neg fun hc => hall.1 hc hless]
  · rw [if_neg hless, if_pos (hall.2 hless)]

/-- **A receipt on an order** is refused for the first reason there is, or leaves the order with its
units. -/
theorem receive_eq (h : Orderly o.lines) (hrs : (rs.map (·.product)).Nodup)
    (hpositive : ∀ r ∈ rs, 0 < r.quantity) (at' : Instant) :
    o.receive rs at' = Outcome.unlessRefused (o.refusal? rs) (o.afterReceipt rs at') := by
  unfold receive refusal?
  split
  · rfl
  · rw [checkReceipt_eq h]
    cases haccepted : rs.findSome? (lineRefusal? o.id o.lines) with
    | some reason => rfl
    | none =>
      obtain ⟨hfold, horderly⟩ := foldlM_receiveLine h hrs hpositive haccepted
      simp only [Outcome.unlessRefused_none, bind, Except.bind, hfold,
        isComplete_eq fun _ => horderly.outstanding_eq, status_eq horderly]
      rfl

end PurchaseOrder

/-! ### A receipt in the store -/

namespace Store

open PurchaseOrder OrderLine

variable {s : Store} {o : PurchaseOrder} {order : String} {lines : List OrderLine}
  {r : ReceiptLine} {rs : List ReceiptLine}

theorem receiveUnits_result (h : Orderly lines) (hpositive : 0 < r.quantity) :
    (receiveUnits order r lines).result = Outcome.unlessRefused (lineRefusal? order lines r)
      (Rows.update (·.product) r.product (more r.quantity) lines) := by
  unfold receiveUnits lineRefusal?
  cases hfound : lines.find? fun l => l.product == r.product with
  | none => rfl
  | some l =>
    have hbounds := h.bounds l (List.mem_of_find?_eq_some hfound)
    by_cases hle : r.quantity ≤ l.ordered - l.received
    · have hroom : l.received + r.quantity ≤ l.ordered := by omega
      have hnumbers : decide (0 ≤ l.received + r.quantity) = true := by
        rw [decide_eq_true_eq]
        omega
      simp only [hroom, hle, hnumbers, if_true, testNumbers, Outcome.require]
      rfl
    · have hroom : ¬l.received + r.quantity ≤ l.ordered := by omega
      simp only [hroom, hle, if_false]
      rfl

/-- **A receipt on the lines, one by one**, is refused for the first of the reasons there were
before it, or leaves the lines with its units. -/
theorem receiveAll_result (h : Orderly lines) (hrs : (rs.map (·.product)).Nodup)
    (hpositive : ∀ r ∈ rs, 0 < r.quantity) :
    (receiveAll order rs lines).result = Outcome.unlessRefused
      (rs.findSome? (lineRefusal? order lines)) (lines.map (OrderLine.afterReceipt rs)) := by
  induction rs generalizing lines with
  | nil =>
    rw [map_afterReceipt_nil]
    rfl
  | cons r rs ih =>
    obtain ⟨hr, hrest⟩ := List.forall_mem_cons.1 hpositive
    rw [List.map_cons, List.nodup_cons] at hrs
    rw [receiveAll, Stored.result_bind, receiveUnits_result h hr, List.findSome?_cons]
    cases haccepted : lineRefusal? order lines r with
    | some reason => rfl
    | none =>
      rw [← map_afterReceipt_update, ← findSome?_lineRefusal?_update hrs.1]
      exact ih (h.update hr haccepted) hrs.2 hrest

end Store

/-! ### Receipts with their movements -/

/-- What a movement brings in, as a line of a receipt. -/
def StockMovement.asReceiptLine (m : StockMovement) : ReceiptLine := ⟨m.product, m.delta⟩

/-- **A receipt of units of an order**: its lines are about different products, some units of each,
and its movements, which are new, bring in what the lines say. -/
structure ReceiptUnit.Delivers (u : ReceiptUnit) (o : PurchaseOrder) (s : Store) : Prop where
  store : u.store = o.store
  order : u.order = o.id
  distinct : (u.lines.map (·.product)).Nodup
  positive : ∀ r ∈ u.lines, 0 < r.quantity
  movements : u.movements.map StockMovement.asReceiptLine = u.lines
  fresh : ∀ m ∈ u.movements, ∀ n ∈ s.movements, n.id ≠ m.id
  apart : (u.movements.map (·.id)).Nodup

/-- **A receipt is the same on an order and in the store** that the order was loaded from. -/
inductive Store.ReceivesAlike (s : Store) (o : PurchaseOrder) (u : ReceiptUnit) : Prop
  /-- Both refuse it, and the store stays as it is. -/
  | refused {reason : Rejection} (because : o.refusal? u.lines = some reason)
      (value : o.receive u.lines u.receivedAt = Outcome.reject reason)
      (booked : Engine.book (·.commitReceipt u) s = (Outcome.reject reason, s))
  /-- Both take it, and what is loaded afterwards is the order with its units. -/
  | received {after : Store} (accepted : o.refusal? u.lines = none)
      (value : o.receive u.lines u.receivedAt = .ok (o.afterReceipt u.lines u.receivedAt))
      (booked : Engine.book (·.commitReceipt u) s = (.ok (), after))
      (loaded : after.order? o.store o.id = some (o.afterReceipt u.lines u.receivedAt))

namespace Store

open PurchaseOrder OrderLine

variable {s : Store} {o : PurchaseOrder} {u : ReceiptUnit}

/-- The movements of a receipt that is not refused can be added. -/
theorem addMovements_of_delivers (h : u.Delivers o s) (consistent : s.Consistent) (ho : o ∈ s.orders)
    (haccepted : o.refusal? u.lines = none) (f : PurchaseOrder → PurchaseOrder) :
    (s.updateOrder o.id f).addMovements u.movements =
      .ok { s.updateOrder o.id f with movements := s.movements ++ u.movements } := by
  have hline : ∀ m ∈ u.movements, m.asReceiptLine ∈ u.lines :=
    fun m hm => h.movements ▸ List.mem_map_of_mem hm
  unfold refusal? at haccepted
  split at haccepted
  · cases haccepted
  refine addMovements_eq_ok.2 ⟨?_, h.apart, rfl⟩
  intro m hm
  refine ⟨Int.ne_of_gt (h.positive _ (hline m hm)), ?_, h.fresh m hm⟩
  -- What arrives was ordered, and what was ordered is carried.
  obtain ⟨l, hl, hproduct, -⟩ :=
    exists_of_lineRefusal? (List.findSome?_eq_none_iff.1 haccepted _ (hline m hm))
  obtain ⟨p, hp, hid, -⟩ := consistent.ordered o ho l hl
  exact List.any_eq_true.2 ⟨p, hp, beq_iff_eq.2 (hid.trans hproduct)⟩

/-- **A receipt in the store** is refused for the first reason there is, or is booked. -/
theorem commitReceipt_result (k : s.Keyed) (consistent : s.Consistent) (ho : o ∈ s.orders)
    (horderly : Orderly o.lines) (h : u.Delivers o s) :
    (s.commitReceipt u).result = Outcome.unlessRefused (o.refusal? u.lines)
      (s.afterReceipt u (o.lines.map (OrderLine.afterReceipt u.lines))) := by
  simp only [commitReceipt, h.store, h.order, order?_of_mem k ho]
  by_cases hclosed : o.status = .received
  · rw [if_pos hclosed, refusal?, if_pos hclosed]
    rfl
  · rw [if_neg hclosed, Stored.result_bind, receiveAll_result horderly h.distinct h.positive]
    have hrefusal : o.refusal? u.lines = u.lines.findSome? (lineRefusal? o.id o.lines) :=
      if_neg hclosed
    rw [← hrefusal]
    cases haccepted : o.refusal? u.lines with
    | some reason => rfl
    | none =>
      simp only [Outcome.unlessRefused_none, bind, Except.bind,
        addMovements_of_delivers h consistent ho haccepted]
      rw [afterReceipt, h.order]
      rfl

theorem receivesAlike (k : s.Keyed) (consistent : s.Consistent) (ho : o ∈ s.orders)
    (horderly : Orderly o.lines) (h : u.Delivers o s) : s.ReceivesAlike o u := by
  have hvalue := receive_eq horderly h.distinct h.positive u.receivedAt
  have hresult := commitReceipt_result k consistent ho horderly h
  cases hreason : o.refusal? u.lines with
  | some reason =>
    rw [hreason] at hvalue hresult
    refine .refused hreason hvalue ?_
    simp only [Engine.book, Action.transact, hresult, Outcome.unlessRefused_some, bind, Except.bind,
      Outcome.reject]
  | none =>
    rw [hreason] at hvalue hresult
    have kafter : (s.afterReceipt u (o.lines.map (OrderLine.afterReceipt u.lines))).Keyed :=
      ⟨k.shifts, k.transactions, Rows.nodup_update k.orders fun _ => rfl⟩
    have hmem : o.afterReceipt u.lines u.receivedAt ∈
        (s.afterReceipt u (o.lines.map (OrderLine.afterReceipt u.lines))).orders := by
      rw [Store.afterReceipt, h.order]
      exact (Rows.mem_update k.orders ho).2 (.inl rfl)
    refine .received hreason hvalue ?_ (order?_of_mem kafter hmem)
    simp only [Engine.book, Action.transact, hresult, Outcome.unlessRefused_none, bind,
      Except.bind, pure, Except.pure]

/-! ### Every run -/

/-- What is ordered is a quantity that may be asked for. -/
def OrdersFit (s : Store) : Prop := ∀ o ∈ s.orders, ∀ l ∈ o.lines, l.ordered ≤ Field.greatestQuantity

theorem OrdersFit.change {e : Engine} {now : Instant} {s after : Store} (h : Change e now s after)
    (fits : s.OrdersFit) : after.OrdersFit := by
  cases h with
  | shiftOpened start added =>
    obtain ⟨-, -, -, rfl⟩ := addShift_eq_ok.1 added
    exact fits
  | productAdded check added =>
    obtain ⟨-, -, -, rfl⟩ := addProduct_eq_ok.1 added
    exact fits
  | supplierAdded check added =>
    obtain ⟨-, rfl⟩ := addSupplier_eq_ok.1 added
    exact fits
  | shiftClosed | entryRecorded | sold | refused | voided | refunded | purged => exact fits
  | orderAdded elevated check products added =>
    obtain ⟨-, -, -, -, rfl⟩ := addOrder_eq_ok.1 added
    simp only [NewOrder.check, NewOrder.checkLine, Outcome.bind_eq_ok, Field.each_eq_ok,
      Field.quantity_eq_ok] at check
    obtain ⟨_, -, _, -, _, -, hlines⟩ := check
    intro o ho
    rcases List.mem_append.1 ho with hold | hnew
    · exact fits o hold
    · obtain rfl := List.mem_singleton.1 hnew
      refine List.forall_mem_map.2 ?_
      intro l hl
      obtain ⟨_, -, _, hquantity, -⟩ := hlines l hl
      exact hquantity.2
  | @received _ _ _ o _ u _ check owned receive unit reception =>
    obtain rfl := receiveAll_eq_map reception.lines
    intro o' ho'
    obtain ⟨p, hp, rfl⟩ := List.mem_map.1 ho'
    split
    · -- A receipt changes what has arrived on the lines, not what was ordered.
      refine List.forall_mem_map.2 ?_
      exact fits o (order?_eq_some reception.found).1
    · exact fits p hp

end Store

namespace Engine

variable {κ : Type}

theorem run_ordersFit (e : Engine) (c : CacheAccess κ) (now : Instant) (cache : κ)
    (steps : List (Step κ)) : (e.run c (World.empty now cache) steps).store.OrdersFit :=
  run_induction (P := Store.OrdersFit) (fun _ h => absurd h List.not_mem_nil)
    (fun h fits => fits.change h) c now cache steps

theorem run_orderly (e : Engine) (c : CacheAccess κ) (now : Instant) (cache : κ)
    (steps : List (Step κ)) :
    ∀ o ∈ (e.run c (World.empty now cache) steps).store.orders, OrderLine.Orderly o.lines := by
  intro o ho
  have tallies := (e.run_ordersTally c now cache steps).tallies o ho
  refine ⟨tallies.distinct, tallies.bounds, ?_⟩
  intro l hl
  exact (e.run_ordersFit c now cache steps o ho l hl).trans (by decide)

/-- **Receiving in memory and in the store is the same** in every run: each order is loaded as it
is, and for each receipt with its movements both refuse for the same reason and change nothing, or
both take the receipt, and the order that is loaded afterwards is the order that was computed. -/
theorem run_receivesAlike (e : Engine) (c : CacheAccess κ) (now : Instant) (cache : κ)
    (steps : List (Step κ)) :
    ∀ o ∈ (e.run c (World.empty now cache) steps).store.orders,
      (e.run c (World.empty now cache) steps).store.order? o.store o.id = some o ∧
        ∀ u : ReceiptUnit, u.Delivers o (e.run c (World.empty now cache) steps).store →
          (e.run c (World.empty now cache) steps).store.ReceivesAlike o u := by
  intro o ho
  have k := (e.run_sound c now cache steps).keyed
  refine ⟨Store.order?_of_mem k ho, ?_⟩
  intro u h
  exact Store.receivesAlike k (e.run_inPlace c now cache steps) ho
    (e.run_orderly c now cache steps o ho) h

/-! ### A part of an order, and too much of it -/

open DoubleSale (till stocking)

/-- The order of the till of `DoubleSale` before anything has arrived. -/
def twoOrdered : PurchaseOrder :=
  ⟨"3", "store", "2", .open, [⟨"1", 2, 0, 1⟩], "manager", ⟨0⟩, ⟨0⟩⟩

/-- A receipt of so many units for that order. -/
def delivery (units : Int) : ReceiptUnit :=
  ⟨"store", "3", [⟨"1", units⟩], [⟨"4", "1", "store", units, .receive, "3", ⟨1⟩⟩], ⟨1⟩⟩

theorem delivers_delivery {units : Int} (h : 0 < units) {s : Store} (hs : s.movements = []) :
    (delivery units).Delivers twoOrdered s where
  store := rfl
  order := rfl
  distinct := List.nodup_singleton _
  positive := by simpa [delivery] using h
  movements := rfl
  fresh := by simp [hs]
  apart := List.nodup_singleton _

/-- One unit of two is taken, three are too many. -/
theorem run_receivesAlike_deliveries :
    ((till 0).run Cache.access (World.empty ⟨0⟩ .absent) (stocking.take 3)).store.ReceivesAlike
        twoOrdered (delivery 1) ∧
      ((till 0).run Cache.access (World.empty ⟨0⟩ .absent) (stocking.take 3)).store.ReceivesAlike
        twoOrdered (delivery 3) ∧
      twoOrdered.refusal? (delivery 1).lines = none ∧
      twoOrdered.refusal? (delivery 3).lines = some (.overReceipt "3" "1" 2 3) :=
  have hmem : twoOrdered ∈
      ((till 0).run Cache.access (World.empty ⟨0⟩ .absent) (stocking.take 3)).store.orders :=
    List.mem_singleton_self _
  have halike := (run_receivesAlike (till 0) Cache.access ⟨0⟩ .absent (stocking.take 3) twoOrdered
    hmem).2
  ⟨halike _ (delivers_delivery (by decide) rfl), halike _ (delivers_delivery (by decide) rfl),
    by decide, by decide⟩

end Engine

end Till
