import Till.Proofs.Coverage

/-!
# Refunds one after another

A transaction can be paid back in many parts, and each part puts back the units that it newly
covers.  What all parts together put back is a difference of two coverages, so it depends on the sum
that was paid back and not on how it was split.

* `Transaction.refundEach` : refunds of given amounts, one after another;
* `Transaction.refundEach_of_le` : which amounts are accepted;
* `Transaction.unitsOf_restocks` : the units of a line that a series puts back;
* `Transaction.refundEach_restocksOnce` : a series puts every unit back at most once, and exactly
  once when it pays back the whole total.
-/

namespace Till

/-- The units of the line with a number. -/
def RestockLine.unitsOf (number : Int) (units : List RestockLine) : Int :=
  Rows.total (fun u => u.number == number) RestockLine.quantity units

namespace Transaction

open RestockLine (unitsOf)

/-- Refunds amounts one after another: the transaction afterwards and, for each refund, the units
that go back into stock. -/
def refundEach (t : Transaction) : List Int → Result (Transaction × List (List RestockLine))
  | [] => .ok (t, [])
  | amount :: amounts => do
    let (t, units) ← t.refund amount
    let (t, calls) ← t.refundEach amounts
    pure (t, units :: calls)

/-- The units that go back into stock when the refunded amount grows by one amount after another. -/
def restocks (t : Transaction) : Int → List Int → Result (List (List RestockLine))
  | _, [] => .ok []
  | before, amount :: amounts => do
    let units ← t.restock before (before + amount)
    let calls ← t.restocks (before + amount) amounts
    pure (units :: calls)

section Keys

variable {κ : Type} [BEq κ] (key : LineItem → κ)

/-- The covered units of the lines with a key, given which gross prices are covered. -/
def coveredFromOf (covered : Int → Bool) (gross : Int) (lines : List LineItem) (k : κ) : Int :=
  Rows.total (fun p => key p.1 == k) Prod.snd (lines.zip (coverageFrom covered gross lines))

/-- The units on the lines with a key. -/
def quantityOf (lines : List LineItem) (k : κ) : Int :=
  Rows.total (fun l => key l == k) LineItem.quantity lines

end Keys

/-- **The covered units of a line** when so much was refunded. -/
def coveredOf (t : Transaction) (refunded : Int) (number : Int) : Int :=
  coveredFromOf LineItem.number (t.covers refunded) 0 t.lines number

variable {t : Transaction} {before after refunded gross : Int} {number : Int}
  {lines : List LineItem} {amounts : List Int} {calls : List (List RestockLine)}
  {κ : Type} [BEq κ] {key : LineItem → κ} {k : κ}

/-! ### One refund -/

theorem coveredFromOf_cons (key : LineItem → κ) (covered : Int → Bool) (gross : Int) (l : LineItem)
    (lines : List LineItem) (k : κ) :
    coveredFromOf key covered gross (l :: lines) k =
      (if key l == k then coverCount covered l.unitPrice l.quantity.toNat gross else 0) +
        coveredFromOf key covered (gross + l.total) lines k := by
  rw [coveredFromOf, coverageFrom, List.zip_cons_cons, Rows.total_cons]
  rfl

theorem unitsOf_newlyCovered (hsubtotal : 0 ≤ t.subtotal) (h : before ≤ after) (gross : Int)
    (lines : List LineItem) (number : Int) :
    unitsOf number (newlyCovered lines (coverageFrom (t.covers before) gross lines)
        (coverageFrom (t.covers after) gross lines)) =
      coveredFromOf LineItem.number (t.covers after) gross lines number -
        coveredFromOf LineItem.number (t.covers before) gross lines number := by
  induction lines generalizing gross with
  | nil => rfl
  | cons l lines ih =>
    have hrest := ih (gross + l.total)
    have hmono := coverCount_mono hsubtotal h l.unitPrice l.quantity.toNat gross
    -- A line that is covered no further is left out, and contributes nothing.
    rw [coveredFromOf_cons, coveredFromOf_cons, coverageFrom, coverageFrom, newlyCovered]
    by_cases hgrows : coverCount (t.covers after) l.unitPrice l.quantity.toNat gross -
        coverCount (t.covers before) l.unitPrice l.quantity.toNat gross > 0
    · rw [if_pos hgrows, unitsOf, Rows.total_cons]
      rw [unitsOf] at hrest
      rw [hrest]
      simp only
      split <;> omega
    · rw [if_neg hgrows, hrest]
      split <;> omega

/-- The lines of a refund are lines of the transaction, in their order. -/
theorem newlyCovered_sublist (lines : List LineItem) (befores afters : List Int) :
    ((newlyCovered lines befores afters).map RestockLine.number).Sublist
      (lines.map LineItem.number) := by
  induction lines generalizing befores afters with
  | nil => cases befores <;> exact .slnil
  | cons l lines ih =>
    match befores, afters with
    | [], _ => exact List.nil_sublist _
    | _ :: _, [] => exact List.nil_sublist _
    | before :: befores, after :: afters =>
      rw [newlyCovered]
      split
      · exact (ih befores afters).cons_cons l.number
      · exact (ih befores afters).cons l.number

theorem line_of_mem_newlyCovered {befores afters : List Int} {u : RestockLine}
    (h : u ∈ newlyCovered lines befores afters) :
    0 < u.quantity ∧ ∃ l ∈ lines, l.number = u.number ∧ l.product = u.product := by
  induction lines generalizing befores afters with
  | nil => cases befores <;> cases h
  | cons l lines ih =>
    match befores, afters with
    | [], _ => cases h
    | _ :: _, [] => cases h
    | before :: befores, after :: afters =>
      have hrest : u ∈ newlyCovered lines befores afters →
          0 < u.quantity ∧ ∃ k ∈ l :: lines, k.number = u.number ∧ k.product = u.product := by
        intro hmem
        obtain ⟨hpos, k, hk, hline⟩ := ih hmem
        exact ⟨hpos, k, List.mem_cons_of_mem _ hk, hline⟩
      rw [newlyCovered] at h
      split at h
      · next hpos =>
        rcases List.mem_cons.1 h with rfl | hmem
        · exact ⟨hpos, l, List.mem_cons_self, rfl, rfl⟩
        · exact hrest hmem
      · exact hrest h

theorem subtotal_nonneg (h : t.Priced) : 0 ≤ t.subtotal :=
  h.subtotal ▸ grossOf_nonneg h.countable

theorem restock_eq (h : t.Priced) (hgrand : 0 ≤ t.grand) (before after : Int) :
    t.restock before after = .ok (newlyCovered t.lines (t.coverage before) (t.coverage after)) := by
  rw [restock, coveredUnits_eq h hgrand, coveredUnits_eq h hgrand]
  rfl

/-- **What a refund puts back of a line** is what the coverage of the line grows by. -/
theorem unitsOf_restock (h : t.Priced) (hgrand : 0 ≤ t.grand) (hle : before ≤ after)
    {units : List RestockLine} (hunits : t.restock before after = .ok units) (number : Int) :
    unitsOf number units = t.coveredOf after number - t.coveredOf before number := by
  rw [restock_eq h hgrand] at hunits
  obtain rfl := Except.ok.inj hunits
  exact unitsOf_newlyCovered (subtotal_nonneg h) hle 0 t.lines number

/-! ### The covered units of a line -/

theorem coveredFromOf_eq_zero [LawfulBEq κ] {covered : Int → Bool} (h : k ∉ lines.map key) :
    coveredFromOf key covered gross lines k = 0 := by
  induction lines generalizing gross with
  | nil => rfl
  | cons l lines ih =>
    rw [List.map_cons, List.mem_cons, not_or] at h
    have hne : (key l == k) = false := beq_eq_false_iff_ne.2 (Ne.symm h.1)
    rw [coveredFromOf_cons, ih h.2, hne]
    rfl

/-- When the lines have keys of their own, the covered units are told line by line. -/
theorem map_coveredFromOf [LawfulBEq κ] {covered : Int → Bool} (hk : (lines.map key).Nodup) :
    (lines.map fun l => coveredFromOf key covered gross lines (key l)) =
      coverageFrom covered gross lines := by
  induction lines generalizing gross with
  | nil => rfl
  | cons l lines ih =>
    rw [List.map_cons, List.nodup_cons] at hk
    rw [List.map_cons, coverageFrom, coveredFromOf_cons, coveredFromOf_eq_zero hk.1,
      ← ih hk.2]
    congr 1
    · simp
    · refine List.map_congr_left ?_
      intro l' hl'
      have hne : (key l == key l') = false :=
        beq_eq_false_iff_ne.2 fun heq => hk.1 (heq ▸ List.mem_map_of_mem hl')
      rw [coveredFromOf_cons, hne]
      simp

theorem map_coveredOf (hk : (t.lines.map LineItem.number).Nodup) (refunded : Int) :
    (t.lines.map fun l => t.coveredOf refunded l.number) = t.coverage refunded :=
  map_coveredFromOf hk

theorem coveredFromOf_mono (key : LineItem → κ) (hsubtotal : 0 ≤ t.subtotal)
    (h : before ≤ after) (gross : Int) (lines : List LineItem) (k : κ) :
    coveredFromOf key (t.covers before) gross lines k ≤
      coveredFromOf key (t.covers after) gross lines k := by
  induction lines generalizing gross with
  | nil => exact Int.le_refl 0
  | cons l lines ih =>
    have hrest := ih (gross + l.total)
    have hline := coverCount_mono hsubtotal h l.unitPrice l.quantity.toNat gross
    rw [coveredFromOf_cons, coveredFromOf_cons]
    split <;> omega

/-- The more was refunded, the more units of a line are covered. -/
theorem coveredOf_mono (h : t.Priced) (hle : before ≤ after) (number : Int) :
    t.coveredOf before number ≤ t.coveredOf after number :=
  coveredFromOf_mono LineItem.number (subtotal_nonneg h) hle 0 t.lines number

theorem coveredFromOf_none (key : LineItem → κ) (hnone : refunded ≤ 0) (gross : Int)
    (lines : List LineItem) (k : κ) :
    coveredFromOf key (t.covers refunded) gross lines k = 0 := by
  induction lines generalizing gross with
  | nil => rfl
  | cons l lines ih =>
    rw [coveredFromOf_cons, ih, coverCount_none hnone]
    simp

theorem coveredOf_none (t : Transaction) (number : Int) : t.coveredOf 0 number = 0 :=
  coveredFromOf_none LineItem.number (Int.le_refl 0) 0 t.lines number

theorem quantityOf_eq_zero [LawfulBEq κ] (h : k ∉ lines.map key) : quantityOf key lines k = 0 := by
  have hnone : lines.filter (fun l => key l == k) = [] := by
    refine List.filter_eq_nil_iff.2 ?_
    intro l hl hkey
    exact h (List.mem_map.2 ⟨l, hl, beq_iff_eq.1 hkey⟩)
  rw [quantityOf, Rows.total, hnone]
  rfl

theorem quantityOf_eq [LawfulBEq κ] (hk : (lines.map key).Nodup) {l : LineItem} (hl : l ∈ lines) :
    quantityOf key lines (key l) = l.quantity := by
  induction lines with
  | nil => cases hl
  | cons l' lines ih =>
    rw [List.map_cons, List.nodup_cons] at hk
    rw [quantityOf, Rows.total_cons]
    rcases List.mem_cons.1 hl with rfl | hl
    · have hrest := quantityOf_eq_zero hk.1
      rw [quantityOf] at hrest
      rw [hrest, if_pos (beq_self_eq_true _)]
      exact Int.add_zero _
    · have hne : ¬(key l' == key l) = true := by
        intro heq
        exact hk.1 (beq_iff_eq.1 heq ▸ List.mem_map_of_mem hl)
      have hrest := ih hk.2 hl
      rw [quantityOf] at hrest
      rw [hrest, if_neg hne]
      exact Int.zero_add _

theorem coveredFromOf_le (key : LineItem → κ) {covered : Int → Bool}
    (hlines : ∀ l ∈ lines, l.InRange) (gross : Int) (k : κ) :
    coveredFromOf key covered gross lines k ≤ quantityOf key lines k := by
  induction lines generalizing gross with
  | nil => exact Int.le_refl 0
  | cons l lines ih =>
    obtain ⟨hl, hrest⟩ := List.forall_mem_cons.1 hlines
    have hothers := ih hrest (gross + l.total)
    have hline := coverCount_le covered l.unitPrice l.quantity.toNat gross
    have hpos := hl.quantity.1
    rw [quantityOf] at hothers
    rw [coveredFromOf_cons, quantityOf, Rows.total_cons]
    split <;> omega

theorem coveredFromOf_full (hgrand : 0 < t.grand) (hlines : ∀ l ∈ lines, l.InRange)
    (hfits : gross + grossOf lines ≤ t.subtotal) (k : κ) :
    coveredFromOf key (t.covers t.grand) gross lines k = quantityOf key lines k := by
  induction lines generalizing gross with
  | nil => rfl
  | cons l lines ih =>
    obtain ⟨hl, hrest⟩ := List.forall_mem_cons.1 hlines
    have hsum : grossOf (l :: lines) = l.total + grossOf lines := by simp [grossOf]
    have hnonneg := grossOf_nonneg fun l hl => (hrest l hl).countable
    have hcount : coverCount (t.covers t.grand) l.unitPrice l.quantity.toNat gross =
        l.quantity.toNat :=
      coverCount_full hgrand hl.price _ (by rw [total_eq_toNat hl.quantity.1]; omega)
    have hleft : gross + l.total + grossOf lines ≤ t.subtotal := by omega
    have hothers := ih hrest hleft
    have hpos := hl.quantity.1
    rw [quantityOf] at hothers
    rw [coveredFromOf_cons, hothers, hcount, quantityOf, Rows.total_cons]
    split <;> omega

/-- No more units of a line are covered than there are. -/
theorem coveredOf_le (h : t.Priced) (hk : (t.lines.map LineItem.number).Nodup) (refunded : Int)
    {l : LineItem} (hl : l ∈ t.lines) : t.coveredOf refunded l.number ≤ l.quantity := by
  rw [← quantityOf_eq hk hl]
  exact coveredFromOf_le LineItem.number h.lines 0 l.number

/-- Once the whole total was paid back, all units of a line are covered. -/
theorem coveredOf_full (h : t.Priced) (hgrand : 0 < t.grand)
    (hk : (t.lines.map LineItem.number).Nodup) {l : LineItem} (hl : l ∈ t.lines) :
    t.coveredOf t.grand l.number = l.quantity := by
  rw [← quantityOf_eq hk hl]
  refine coveredFromOf_full hgrand h.lines ?_ l.number
  rw [Int.zero_add, h.subtotal]

/-! ### A series of refunds -/

theorem unitsOf_append (units more : List RestockLine) (number : Int) :
    unitsOf number (units ++ more) = unitsOf number units + unitsOf number more :=
  Rows.total_append units more

/-- **What a series puts back of a line** is what the coverage of the line grows by from the
beginning of the series to its end. -/
theorem unitsOf_restocks (h : t.Priced) (hgrand : 0 ≤ t.grand) (hpos : ∀ a ∈ amounts, 0 < a)
    (hcalls : t.restocks before amounts = .ok calls) (number : Int) :
    unitsOf number calls.flatten =
      t.coveredOf (before + amounts.sum) number - t.coveredOf before number := by
  -- The coverage between two refunds is added once and taken away once.
  induction amounts generalizing before calls with
  | nil =>
    obtain rfl := Except.ok.inj hcalls
    rw [List.sum_nil, Int.add_zero, Int.sub_self]
    rfl
  | cons amount amounts ih =>
    obtain ⟨hamount, hpos⟩ := List.forall_mem_cons.1 hpos
    simp only [restocks, Outcome.bind_eq_ok, Outcome.pure_eq_ok] at hcalls
    obtain ⟨units, hunits, calls, hcalls, rfl⟩ := hcalls
    have hhere := unitsOf_restock h hgrand (by omega) hunits number
    have hrest := ih hpos hcalls
    rw [List.flatten_cons, unitsOf_append, hhere, hrest, List.sum_cons, ← Int.add_assoc]
    omega

theorem length_restocks (hcalls : t.restocks before amounts = .ok calls) :
    calls.length = amounts.length := by
  induction amounts generalizing before calls with
  | nil =>
    obtain rfl := Except.ok.inj hcalls
    rfl
  | cons amount amounts ih =>
    simp only [restocks, Outcome.bind_eq_ok, Outcome.pure_eq_ok] at hcalls
    obtain ⟨units, -, calls, hcalls, rfl⟩ := hcalls
    rw [List.length_cons, List.length_cons, ih hcalls]

/-- The first refunds of a series are a series. -/
theorem restocks_take (hcalls : t.restocks before amounts = .ok calls) (n : Nat) :
    t.restocks before (amounts.take n) = .ok (calls.take n) := by
  induction amounts generalizing before calls n with
  | nil =>
    obtain rfl := Except.ok.inj hcalls
    simp [restocks]
  | cons amount amounts ih =>
    simp only [restocks, Outcome.bind_eq_ok, Outcome.pure_eq_ok] at hcalls
    obtain ⟨units, hunits, calls, hcalls, rfl⟩ := hcalls
    cases n with
    | zero => rfl
    | succ n =>
      simp only [List.take_succ_cons, restocks, hunits, ih hcalls n, bind, Except.bind, pure,
        Except.pure]

/-! ### Amounts that are accepted -/

/-- A transaction after a refund that brings what was refunded to an amount. -/
def afterRefund (t : Transaction) (after : Int) : Transaction :=
  { t with refunded := after, status := if after = t.grand then .refunded else t.status }

theorem IsRefund.eq_afterRefund {amount : Int} {paidBack : Transaction} {units : List RestockLine}
    (h : t.IsRefund amount paidBack units) : paidBack = t.afterRefund (t.refunded + amount) := by
  rw [h.refunded, afterRefund, h.completed]

theorem priced_afterRefund (h : t.Priced) (after : Int) : (t.afterRefund after).Priced :=
  ⟨h.count, h.lines, h.subtotal, h.fits, h.rate⟩

/-- What goes back into stock does not depend on what was refunded before. -/
theorem restocks_afterRefund (h : t.Priced) (hgrand : 0 ≤ t.grand) (after before : Int)
    (amounts : List Int) :
    (t.afterRefund after).restocks before amounts = t.restocks before amounts := by
  induction amounts generalizing before with
  | nil => rfl
  | cons amount amounts ih =>
    rw [restocks, restocks, restock_eq (priced_afterRefund h after) hgrand, restock_eq h hgrand]
    simp only [ih]
    rfl

/-- **A refund is accepted** if there is as much to refund. -/
theorem refund_of_le (h : t.Priced) (hcompleted : t.status = .completed)
    (hrefunded : 0 ≤ t.refunded) {amount : Int} (hpos : 0 < amount)
    (hle : t.refunded + amount ≤ t.grand) :
    ∃ units, t.refund amount = .ok (t.afterRefund (t.refunded + amount), units) := by
  have hgreatest := h.fits.grand.2
  have hleft : Cents.Fits (t.grand - t.refunded) := by
    simp only [Cents.Fits, Cents.least, Cents.greatest] at *
    omega
  have hafter : Cents.Fits (t.refunded + amount) := by
    simp only [Cents.Fits, Cents.least, Cents.greatest] at *
    omega
  have hamount : Field.positive "amount" amount = .ok () := Field.positive_eq_ok.2 hpos
  have hstatus : t.checkRefundable amount = .ok () := checkRefundable_eq_ok.2 hcompleted
  refine ⟨newlyCovered t.lines (t.coverage t.refunded) (t.coverage (t.refunded + amount)), ?_⟩
  simp only [refund, hamount, hstatus, refundable, Cents.exact_of_fits hleft,
    Cents.exact_of_fits hafter, restock_eq h (by omega), Field.Check.run, Outcome.ofCheck, bind,
    Except.bind]
  rw [if_neg (by omega)]
  rfl

/-- **What a series does**: its amounts are positive, it puts back what it newly covers, and it pays
back no more than there is. -/
theorem refundEach_eq_ok (hpriced : t.Priced) (hgrand : 0 ≤ t.grand) {after : Transaction}
    (h : t.refundEach amounts = .ok (after, calls)) :
    (∀ a ∈ amounts, 0 < a) ∧ t.restocks t.refunded amounts = .ok calls ∧
      (amounts ≠ [] → t.refunded + amounts.sum ≤ t.grand) := by
  induction amounts generalizing t calls with
  | nil =>
    obtain ⟨-, rfl⟩ := Prod.mk.inj (Except.ok.inj h)
    exact ⟨fun a ha => absurd ha List.not_mem_nil, rfl, fun hne => absurd rfl hne⟩
  | cons amount amounts ih =>
    simp only [refundEach, Outcome.bind_eq_ok, Outcome.pure_eq_ok, Prod.mk.injEq] at h
    obtain ⟨⟨mid, units⟩, hrefund, ⟨_, calls⟩, hrest, rfl, rfl⟩ := h
    have hfirst := refund_eq_ok hrefund
    obtain rfl := hfirst.eq_afterRefund
    obtain ⟨hpos, hcalls, hle⟩ := ih (priced_afterRefund hpriced _) hgrand hrest
    rw [restocks_afterRefund hpriced hgrand] at hcalls
    have henough := hfirst.enough
    refine ⟨List.forall_mem_cons.2 ⟨hfirst.positive, hpos⟩, ?_, ?_⟩
    · simp only [restocks, hfirst.units, bind, Except.bind]
      rw [show t.restocks (t.refunded + amount) amounts = .ok calls from hcalls]
      rfl
    · intro _
      rw [List.sum_cons]
      by_cases hnil : amounts = []
      · rw [hnil, List.sum_nil]
        omega
      · have hrestle := hle hnil
        simp only [afterRefund] at hrestle
        omega

/-- A series of positive amounts is accepted if there is as much to refund. -/
theorem refundEach_of_le (h : t.Priced) (hcompleted : t.status = .completed)
    (hrefunded : 0 ≤ t.refunded) (hpos : ∀ a ∈ amounts, 0 < a)
    (hle : t.refunded + amounts.sum ≤ t.grand) : ∃ r, t.refundEach amounts = .ok r := by
  induction amounts generalizing t with
  | nil => exact ⟨(t, []), rfl⟩
  | cons amount amounts ih =>
    obtain ⟨hamount, hpos⟩ := List.forall_mem_cons.1 hpos
    rw [List.sum_cons] at hle
    have hsum : 0 ≤ amounts.sum := List.sum_nonneg fun a ha => Int.le_of_lt (hpos a ha)
    obtain ⟨units, hfirst⟩ := refund_of_le h hcompleted hrefunded hamount (by omega)
    simp only [refundEach, hfirst, bind, Except.bind]
    by_cases hnil : amounts = []
    · exact ⟨(t.afterRefund (t.refunded + amount), [units]), by rw [hnil]; rfl⟩
    · -- Something is left to refund, so the transaction is still completed.
      have hleft : 0 < amounts.sum := List.sum_pos amounts hpos hnil
      have hstatus : (t.afterRefund (t.refunded + amount)).status = .completed := by
        simp only [afterRefund]
        rw [if_neg (by omega), hcompleted]
      have hmid : 0 ≤ (t.afterRefund (t.refunded + amount)).refunded := by
        simp only [afterRefund]
        omega
      obtain ⟨r, hrest⟩ := ih (priced_afterRefund h _) hstatus hmid hpos (by
        simp only [afterRefund]
        omega)
      rw [hrest]
      exact ⟨_, rfl⟩

/-! ### A transaction that was just sold -/

theorem lt_of_mem_numberedLines {n : Nat} {cartLines : List CartLine} {l : LineItem}
    (h : l ∈ numberedLines n cartLines) : (n : Int) ≤ l.number := by
  obtain ⟨k, -, c, -, rfl⟩ := mem_numberedLines h
  simp only [LineItem.ofCartLine]
  omega

/-- The lines of a cart are numbered upwards. -/
theorem numberedLines_pairwise (n : Nat) (cartLines : List CartLine) :
    ((numberedLines n cartLines).map LineItem.number).Pairwise (· < ·) := by
  induction cartLines generalizing n with
  | nil => exact .nil
  | cons c cartLines ih =>
    rw [numberedLines, List.map_cons, List.pairwise_cons]
    refine ⟨?_, ih (n + 1)⟩
    intro number hnumber
    obtain ⟨l, hl, rfl⟩ := List.mem_map.1 hnumber
    have hle := lt_of_mem_numberedLines hl
    simp only [LineItem.ofCartLine]
    omega

/-- **Every unit goes back once**: what refunds of given amounts, one after another, put back of the
lines of a transaction. -/
structure RestocksOnce (t : Transaction) (amounts : List Int)
    (calls : List (List RestockLine)) : Prop where
  /-- Each refund has its own units. -/
  length : calls.length = amounts.length
  /-- The lines of the transaction are numbered upwards. -/
  numbers : (t.lines.map (·.number)).Pairwise (· < ·)
  /-- The lines of a refund are in this order, each at most once. -/
  inOrder : ∀ units ∈ calls, (units.map (·.number)).Pairwise (· < ·)
  /-- They are lines of the transaction, and units of them go back. -/
  lines : ∀ units ∈ calls, ∀ u ∈ units,
    0 < u.quantity ∧ ∃ l ∈ t.lines, l.number = u.number ∧ l.product = u.product
  /-- After any refund, what went back of each line is what the sum refunded covers. -/
  covered : ∀ n, t.coveredUnits (amounts.take n).sum =
    .ok (t.lines.map fun l => unitsOf l.number (calls.take n).flatten)
  /-- No more goes back of a line than was sold. -/
  bounded : ∀ n, ∀ l ∈ t.lines, unitsOf l.number (calls.take n).flatten ≤ l.quantity
  /-- What went back stays there. -/
  grows : ∀ m n, m ≤ n → ∀ l ∈ t.lines,
    unitsOf l.number (calls.take m).flatten ≤ unitsOf l.number (calls.take n).flatten
  /-- A series that pays back the whole total puts back everything. -/
  complete : amounts ≠ [] → amounts.sum = t.grand → ∀ l ∈ t.lines,
    unitsOf l.number calls.flatten = l.quantity

theorem restocks_lines (h : t.Priced) (hgrand : 0 ≤ t.grand)
    (hcalls : t.restocks before amounts = .ok calls) {units : List RestockLine}
    (hunits : units ∈ calls) :
    ∃ befores afters, units = newlyCovered t.lines befores afters := by
  induction amounts generalizing before calls with
  | nil =>
    obtain rfl := Except.ok.inj hcalls
    cases hunits
  | cons amount amounts ih =>
    simp only [restocks, Outcome.bind_eq_ok, Outcome.pure_eq_ok] at hcalls
    obtain ⟨first, hfirst, calls, hcalls, rfl⟩ := hcalls
    rcases List.mem_cons.1 hunits with rfl | hunits
    · rw [restock_eq h hgrand] at hfirst
      exact ⟨_, _, (Except.ok.inj hfirst).symm⟩
    · exact ih hcalls hunits

theorem sum_take_le (hpos : ∀ a ∈ amounts, 0 < a) {m n : Nat} (hle : m ≤ n) :
    (amounts.take m).sum ≤ (amounts.take n).sum := by
  rw [← List.take_append_drop m (amounts.take n), List.take_take, Nat.min_eq_left hle,
    List.sum_append]
  have hrest : 0 ≤ ((amounts.take n).drop m).sum := by
    refine List.sum_nonneg ?_
    intro a ha
    exact Int.le_of_lt (hpos a (List.mem_of_mem_take (List.mem_of_mem_drop ha)))
  omega

/-- What a series puts back is what its sum covers. -/
theorem restocksOnce_of_restocks (h : t.Priced) (hgrand : 0 ≤ t.grand)
    (hnumbers : (t.lines.map (·.number)).Pairwise (· < ·)) (hpos : ∀ a ∈ amounts, 0 < a)
    (hcalls : t.restocks 0 amounts = .ok calls) : t.RestocksOnce amounts calls := by
  have hk : (t.lines.map LineItem.number).Nodup := hnumbers.imp fun hlt => Int.ne_of_lt hlt
  have hunits : ∀ n number, unitsOf number (calls.take n).flatten =
      t.coveredOf (amounts.take n).sum number := by
    intro n number
    rw [unitsOf_restocks h hgrand (fun a ha => hpos a (List.mem_of_mem_take ha))
      (restocks_take hcalls n), coveredOf_none, Int.zero_add, Int.sub_zero]
  exact {
    length := length_restocks hcalls
    numbers := hnumbers
    inOrder := by
      intro units hmem
      obtain ⟨befores, afters, rfl⟩ := restocks_lines h hgrand hcalls hmem
      exact hnumbers.sublist (newlyCovered_sublist t.lines befores afters)
    lines := by
      intro units hmem u hu
      obtain ⟨befores, afters, rfl⟩ := restocks_lines h hgrand hcalls hmem
      exact line_of_mem_newlyCovered hu
    covered := by
      intro n
      rw [coveredUnits_eq h hgrand, ← map_coveredOf hk]
      simp only [hunits]
    bounded := by
      intro n l hl
      rw [hunits]
      exact coveredOf_le h hk _ hl
    grows := by
      intro m n hle l _
      rw [hunits, hunits]
      exact coveredOf_mono h (sum_take_le hpos hle) l.number
    complete := by
      intro hne hsum l hl
      have hall : 0 < t.grand := hsum ▸ List.sum_pos amounts hpos hne
      rw [unitsOf_restocks h hgrand hpos hcalls, coveredOf_none, Int.zero_add, Int.sub_zero, hsum]
      exact coveredOf_full h hall hk hl }

/-- **A series of refunds puts every unit back once**, whatever the prices, discounts and taxes of
the cart that was sold: any positive amounts are accepted that the total can pay for, and what went
back depends on their sum and not on how it was split. -/
theorem refundEach_restocksOnce {cart : Cart} {c : SaleContext} {priced t : Transaction}
    (hcart : ofCart cart c = .ok priced) (hcomplete : priced.complete = .ok t)
    (amounts : List Int) :
    ((∃ r, t.refundEach amounts = .ok r) ↔ (∀ a ∈ amounts, 0 < a) ∧ amounts.sum ≤ t.grand) ∧
      ∀ after calls, t.refundEach amounts = .ok (after, calls) → t.RestocksOnce amounts calls := by
  obtain ⟨pricing, totals, hsold, rfl⟩ := ofCart_eq_ok hcart
  obtain rfl : sold cart c pricing totals = t := by
    simpa [complete, TransactionStatus.canBecome, sold] using hcomplete
  have hpriced := hsold.priced
  have hgrand : 0 ≤ (sold cart c pricing totals).grand :=
    Pricing.computeTotals_nonneg hsold.totals
  refine ⟨⟨?_, ?_⟩, ?_⟩
  · rintro ⟨⟨after, calls⟩, h⟩
    obtain ⟨hpos, -, hle⟩ := refundEach_eq_ok hpriced hgrand h
    refine ⟨hpos, ?_⟩
    by_cases hnil : amounts = []
    · rw [hnil]
      exact hgrand
    · simpa [sold] using hle hnil
  · rintro ⟨hpos, hle⟩
    exact refundEach_of_le hpriced rfl (Int.le_refl 0) hpos (by simpa [sold] using hle)
  · intro after calls h
    obtain ⟨hpos, hcalls, -⟩ := refundEach_eq_ok hpriced hgrand h
    exact restocksOnce_of_restocks hpriced hgrand (numberedLines_pairwise 1 cart.lines) hpos hcalls

/-- Three units with discounts and tax and two that cost nothing, paid back in two parts. -/
theorem refundEach_restocksOnce_twoParts :
    let cart : Cart := ⟨[⟨"tea", 3, 100, 10⟩, ⟨"bag", 2, 0, 0⟩], .percentage 1000, .cash, none⟩
    let c : SaleContext :=
      ⟨"sale", ⟨"cashier", .cashier, "store", none⟩, "shift", "key", ⟨875⟩, ⟨0⟩⟩
    let t := sold cart c {} ⟨300, 39, 23, 284⟩
    ofCart cart c = .ok { t with status := .pending } ∧
      complete { t with status := .pending } = .ok t ∧
      (∃ r, t.refundEach [100, 184] = .ok r) ∧
      ∀ after calls, t.refundEach [100, 184] = .ok (after, calls) →
        t.RestocksOnce [100, 184] calls := by
  intro cart c t
  have hcheck : cart.check = .ok () := by decide +kernel
  have htotals : Pricing.computeTotals cart.lines cart.discount c.rate cart.manual =
      .ok ⟨300, 39, 23, 284⟩ := by decide +kernel
  have hcart : ofCart cart c = .ok { t with status := .pending } := by
    simp only [ofCart, hcheck, htotals, Field.Check.run, Outcome.ofCheck]
    rfl
  have hseries := refundEach_restocksOnce hcart rfl [100, 184]
  exact ⟨hcart, rfl, hseries.1.2 ⟨by decide, by decide⟩, hseries.2⟩

end Transaction

end Till
