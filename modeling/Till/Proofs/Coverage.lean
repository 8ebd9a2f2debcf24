import Mathlib.Algebra.Order.BigOperators.Group.List
import Till.Proofs.Prices

/-!
# Units that a refund covers

How many units of each line a refunded amount covers is computed with products that could leave
their range.  For a priced transaction they never do, so the computation gives
`Transaction.coverage`, which counts the covered units in integers without bounds.

* `Transaction.coveredUnits_eq` : the computation gives the coverage;
* `Transaction.coverage_none`, `Transaction.unitsKept_of_full` : nothing is covered before a refund,
  and everything once the whole total was paid back;
* `Transaction.total_newlyCovered` : what goes back into stock is what the coverage grows by.
-/

namespace Till

namespace LineItem

/-- A line whose units can be counted: there are some, and their price is not negative. -/
structure Countable (l : LineItem) : Prop where
  quantity : 0 < l.quantity
  price : 0 ≤ l.unitPrice

theorem Countable.total_nonneg {l : LineItem} (h : l.Countable) : 0 ≤ l.total :=
  Int.mul_nonneg h.price (Int.le_of_lt h.quantity)

theorem InRange.countable {l : LineItem} (h : l.InRange) : l.Countable := ⟨h.quantity.1, h.price⟩

end LineItem

namespace Transaction

/-- Whether the unit that brings the gross price to `gross` is covered. -/
def covers (t : Transaction) (refunded gross : Int) : Bool :=
  decide (0 < refunded) && decide (gross * t.grand ≤ refunded * t.subtotal)

/-- The covered units among so many of one price, given which gross prices are covered and the gross
price of the units before. -/
def coverCount (covered : Int → Bool) (price : Int) : Nat → Int → Int
  | 0, _ => 0
  | units + 1, gross =>
    (if covered (gross + price) then 1 else 0) + coverCount covered price units (gross + price)

/-- The covered units of each line, given which gross prices are covered and the gross price of the
lines before. -/
def coverageFrom (covered : Int → Bool) : Int → List LineItem → List Int
  | _, [] => []
  | gross, l :: rest =>
    coverCount covered l.unitPrice l.quantity.toNat gross ::
      coverageFrom covered (gross + l.total) rest

/-- **The coverage** of a transaction: the covered units of each line when so much was refunded. -/
def coverage (t : Transaction) (refunded : Int) : List Int :=
  coverageFrom (t.covers refunded) 0 t.lines

/-- The units of a product that are neither covered nor put back. -/
def unitsKept (t : Transaction) (refunded : Int) (product : String) : Int :=
  Rows.total (fun p => p.1.product == product) (fun p => p.1.quantity - p.2)
    (t.lines.zip (t.coverage refunded))

/-! ### The computation -/

variable {t : Transaction} {refunded gross price : Int}

/-- The grand total is a number of cents. -/
def GrandFits (t : Transaction) : Prop := 0 ≤ t.grand ∧ t.grand ≤ Cents.greatest

theorem isCovered_eq (hgrand : t.GrandFits) (refunded : Int)
    (hgross : 0 ≤ gross ∧ gross ≤ Cents.greatest) :
    t.isCovered refunded gross = .ok (t.covers refunded gross) := by
  have hlow : 0 ≤ gross * t.grand := Int.mul_nonneg hgross.1 hgrand.1
  have hhigh : gross * t.grand ≤ Cents.greatest * Cents.greatest :=
    Int.mul_le_mul hgross.2 hgrand.2 hgrand.1 (by decide)
  have hfits : leastProduct ≤ gross * t.grand ∧ gross * t.grand ≤ greatestProduct :=
    ⟨Int.le_trans (by decide) hlow, Int.le_trans hhigh (by decide)⟩
  rw [isCovered, covers, if_pos hfits]
  by_cases hpos : 0 < refunded
  · rw [if_neg (show ¬refunded ≤ 0 by omega), decide_eq_true hpos, Bool.true_and]
  · rw [if_pos (show refunded ≤ 0 by omega), decide_eq_false hpos, Bool.false_and]

theorem price_mul_succ (price : Int) (units : Nat) :
    price * ((units + 1 : Nat) : Int) = price * units + price := by
  rw [Int.natCast_add, Int.mul_add]
  simp

theorem countCovered_eq (hgrand : t.GrandFits) (refunded : Int) (hprice : 0 ≤ price) (units : Nat)
    (hgross : 0 ≤ gross) (hfits : gross + price * units ≤ Cents.greatest) (covered : Int) :
    t.countCovered refunded price units gross covered =
      .ok (gross + price * units, covered + coverCount (t.covers refunded) price units gross) := by
  induction units generalizing gross covered with
  | zero => simp [countCovered, coverCount]
  | succ units ih =>
    have hrest : 0 ≤ price * (units : Int) := Int.mul_nonneg hprice (by omega)
    rw [price_mul_succ] at hfits ⊢
    -- The gross price of the next unit is at most that of all units, so the product stays in range.
    have hhere : 0 ≤ gross + price ∧ gross + price ≤ Cents.greatest := ⟨by omega, by omega⟩
    rw [countCovered, isCovered_eq hgrand refunded hhere]
    simp only
    rw [ih (by omega) (by omega), coverCount]
    congr 2
    · omega
    · split <;> omega

theorem grossOf_nonneg {lines : List LineItem} (hlines : ∀ l ∈ lines, l.Countable) :
    0 ≤ grossOf lines := by
  refine List.sum_nonneg ?_
  intro n hn
  obtain ⟨l, hl, rfl⟩ := List.mem_map.1 hn
  exact (hlines l hl).total_nonneg

theorem total_eq_toNat {l : LineItem} (h : 0 < l.quantity) :
    l.unitPrice * (l.quantity.toNat : Int) = l.total := by
  rw [Int.toNat_of_nonneg (by omega), LineItem.total]

theorem coveredFrom_eq (hgrand : t.GrandFits) (refunded : Int) {lines : List LineItem}
    (hlines : ∀ l ∈ lines, l.Countable) (hgross : 0 ≤ gross)
    (hfits : gross + grossOf lines ≤ Cents.greatest) :
    t.coveredFrom refunded gross lines = .ok (coverageFrom (t.covers refunded) gross lines) := by
  induction lines generalizing gross with
  | nil => rfl
  | cons l lines ih =>
    obtain ⟨hl, hrest⟩ := List.forall_mem_cons.1 hlines
    have htotal := hl.total_nonneg
    have hsum : grossOf (l :: lines) = l.total + grossOf lines := by simp [grossOf]
    have hnonneg : 0 ≤ grossOf lines := grossOf_nonneg hrest
    have hcount := countCovered_eq hgrand refunded hl.price l.quantity.toNat hgross
      (by rw [total_eq_toNat hl.quantity]; omega) 0
    rw [total_eq_toNat hl.quantity, Int.zero_add] at hcount
    rw [coveredFrom, hcount]
    simp only [bind, Except.bind]
    rw [ih hrest (by omega) (by omega)]
    rfl

theorem Priced.countable (h : t.Priced) : ∀ l ∈ t.lines, l.Countable :=
  fun l hl => (h.lines l hl).countable

/-- **The covered units** of a priced transaction can always be told. -/
theorem coveredUnits_eq (h : t.Priced) (hgrand : 0 ≤ t.grand) (refunded : Int) :
    t.coveredUnits refunded = .ok (t.coverage refunded) := by
  refine coveredFrom_eq ⟨hgrand, h.fits.grand.2⟩ refunded h.countable (by decide) ?_
  rw [Int.zero_add, ← h.subtotal]
  exact h.fits.subtotal.2

/-! ### Bounds -/

theorem coverCount_nonneg (covered : Int → Bool) (price : Int) (units : Nat) (gross : Int) :
    0 ≤ coverCount covered price units gross := by
  induction units generalizing gross with
  | zero => exact Int.le_refl 0
  | succ units ih =>
    have := ih (gross + price)
    rw [coverCount]
    split <;> omega

theorem coverCount_le (covered : Int → Bool) (price : Int) (units : Nat) (gross : Int) :
    coverCount covered price units gross ≤ units := by
  induction units generalizing gross with
  | zero => exact Int.le_refl 0
  | succ units ih =>
    have := ih (gross + price)
    rw [coverCount]
    split <;> omega

theorem coverCount_mono (hsubtotal : 0 ≤ t.subtotal) {before after : Int} (h : before ≤ after)
    (price : Int) (units : Nat) (gross : Int) :
    coverCount (t.covers before) price units gross ≤
      coverCount (t.covers after) price units gross := by
  have hcovers : ∀ {gross}, t.covers before gross = true → t.covers after gross = true := by
    intro gross hbefore
    simp only [covers, Bool.and_eq_true, decide_eq_true_eq] at hbefore ⊢
    exact ⟨by omega, Int.le_trans hbefore.2 (Int.mul_le_mul_of_nonneg_right h hsubtotal)⟩
  induction units generalizing gross with
  | zero => exact Int.le_refl 0
  | succ units ih =>
    have hrest := ih (gross + price)
    rw [coverCount, coverCount]
    by_cases hb : t.covers before (gross + price) = true
    · rw [if_pos hb, if_pos (hcovers hb)]
      omega
    · rw [if_neg hb]
      split <;> omega

theorem coverCount_none (hnone : refunded ≤ 0) (price : Int) (units : Nat) (gross : Int) :
    coverCount (t.covers refunded) price units gross = 0 := by
  induction units generalizing gross with
  | zero => rfl
  | succ units ih =>
    have hcovers : t.covers refunded (gross + price) = false := by
      simp [covers, show ¬0 < refunded by omega]
    rw [coverCount, hcovers, ih]
    rfl

theorem coverCount_full (hgrand : 0 < t.grand) (hprice : 0 ≤ price) (units : Nat)
    (hfits : gross + price * units ≤ t.subtotal) :
    coverCount (t.covers t.grand) price units gross = units := by
  induction units generalizing gross with
  | zero => rfl
  | succ units ih =>
    have hrest : 0 ≤ price * (units : Int) := Int.mul_nonneg hprice (by omega)
    rw [price_mul_succ] at hfits
    have hle : (gross + price) * t.grand ≤ t.grand * t.subtotal := by
      rw [Int.mul_comm]
      exact Int.mul_le_mul_of_nonneg_left (by omega) (by omega)
    have hcovers : t.covers t.grand (gross + price) = true := by simp [covers, hgrand, hle]
    rw [coverCount, if_pos hcovers, ih (by omega)]
    omega

/-! ### Units of a product -/

/-- The units of a product on the lines. -/
def unitsSold (lines : List LineItem) (product : String) : Int :=
  Rows.total (fun l => l.product == product) LineItem.quantity lines

/-- The units of a product on the lines that are not covered. -/
def unitsLeft (covered : Int → Bool) (gross : Int) (lines : List LineItem)
    (product : String) : Int :=
  Rows.total (fun p => p.1.product == product) (fun p => p.1.quantity - p.2)
    (lines.zip (coverageFrom covered gross lines))

theorem unitsLeft_cons (covered : Int → Bool) (gross : Int) (l : LineItem) (lines : List LineItem)
    (product : String) :
    unitsLeft covered gross (l :: lines) product =
      (if l.product == product then
        l.quantity - coverCount covered l.unitPrice l.quantity.toNat gross else 0) +
      unitsLeft covered (gross + l.total) lines product := by
  rw [unitsLeft, coverageFrom, List.zip_cons_cons, Rows.total_cons]
  rfl

theorem unitsLeft_none (hnone : refunded ≤ 0) (gross : Int) (lines : List LineItem)
    (product : String) :
    unitsLeft (t.covers refunded) gross lines product = unitsSold lines product := by
  induction lines generalizing gross with
  | nil => rfl
  | cons l lines ih =>
    rw [unitsLeft_cons, ih, coverCount_none hnone, unitsSold, unitsSold, Rows.total_cons,
      Int.sub_zero]

theorem unitsLeft_full (hgrand : 0 < t.grand) {lines : List LineItem}
    (hlines : ∀ l ∈ lines, l.InRange) (hfits : gross + grossOf lines ≤ t.subtotal)
    (product : String) : unitsLeft (t.covers t.grand) gross lines product = 0 := by
  induction lines generalizing gross with
  | nil => rfl
  | cons l lines ih =>
    obtain ⟨hl, hrest⟩ := List.forall_mem_cons.1 hlines
    have hsum : grossOf (l :: lines) = l.total + grossOf lines := by simp [grossOf]
    have hnonneg := grossOf_nonneg fun l hl => (hrest l hl).countable
    have hcount :
        coverCount (t.covers t.grand) l.unitPrice l.quantity.toNat gross = l.quantity.toNat :=
      coverCount_full hgrand hl.price _ (by rw [total_eq_toNat hl.quantity.1]; omega)
    have hpos := hl.quantity.1
    rw [unitsLeft_cons, ih hrest (by omega), hcount]
    split <;> omega

/-- **Before any refund** all units of a product are kept. -/
theorem unitsKept_of_none (t : Transaction) (product : String) :
    t.unitsKept 0 product = unitsSold t.lines product :=
  unitsLeft_none (Int.le_refl 0) 0 t.lines product

/-- **After the whole total was paid back** no unit of a product is kept. -/
theorem unitsKept_of_full (h : t.Priced) (hgrand : 0 < t.grand) (product : String) :
    t.unitsKept t.grand product = 0 := by
  refine unitsLeft_full hgrand h.lines ?_ product
  rw [Int.zero_add, h.subtotal]

/-! ### Units that go back into stock -/

theorem total_newlyCovered (hsubtotal : 0 ≤ t.subtotal) {before after : Int} (h : before ≤ after)
    (gross : Int) (lines : List LineItem) (product : String) :
    Rows.total (fun l => l.product == product) RestockLine.quantity
        (newlyCovered lines (coverageFrom (t.covers before) gross lines)
          (coverageFrom (t.covers after) gross lines)) =
      unitsLeft (t.covers before) gross lines product -
        unitsLeft (t.covers after) gross lines product := by
  induction lines generalizing gross with
  | nil => rfl
  | cons l lines ih =>
    have hrest := ih (gross + l.total)
    have hmono := coverCount_mono hsubtotal h l.unitPrice l.quantity.toNat gross
    -- A line that is covered no further is left out, and contributes nothing.
    rw [unitsLeft_cons, unitsLeft_cons, coverageFrom, coverageFrom, newlyCovered]
    split
    · rw [Rows.total_cons, hrest]
      simp only
      split <;> omega
    · rw [hrest]
      split <;> omega

/-- **A refund puts back** what the coverage grows by. -/
theorem restock_total (hpriced : t.Priced) (hgrand : 0 ≤ t.grand) {before after : Int}
    (h : before ≤ after) {units : List RestockLine} (hunits : t.restock before after = .ok units)
    (product : String) :
    Rows.total (fun l => l.product == product) RestockLine.quantity units =
      t.unitsKept before product - t.unitsKept after product := by
  simp only [restock, coveredUnits_eq hpriced hgrand, Outcome.bind_eq_ok, Outcome.pure_eq_ok,
    Except.ok.injEq] at hunits
  obtain ⟨_, rfl, _, rfl, rfl⟩ := hunits
  have hsubtotal : 0 ≤ t.subtotal := hpriced.subtotal ▸ grossOf_nonneg hpriced.countable
  exact total_newlyCovered hsubtotal h 0 t.lines product

theorem mem_newlyCovered {lines : List LineItem} {before after : Int} {u : RestockLine}
    (h : u ∈ newlyCovered lines (coverageFrom (t.covers before) gross lines)
      (coverageFrom (t.covers after) gross lines)) :
    0 < u.quantity ∧ ∃ l ∈ lines, l.product = u.product ∧ u.quantity ≤ l.quantity.toNat := by
  induction lines generalizing gross with
  | nil => simp [newlyCovered] at h
  | cons l lines ih =>
    have hlow := coverCount_nonneg (t.covers before) l.unitPrice l.quantity.toNat gross
    have hhigh := coverCount_le (t.covers after) l.unitPrice l.quantity.toNat gross
    rw [coverageFrom, coverageFrom, newlyCovered] at h
    split at h
    · next hpos =>
      rcases List.mem_cons.1 h with rfl | h
      · exact ⟨hpos, l, List.mem_cons_self, rfl, by simp only; omega⟩
      · obtain ⟨hq, l', hl', hp⟩ := ih h
        exact ⟨hq, l', List.mem_cons_of_mem _ hl', hp⟩
    · obtain ⟨hq, l', hl', hp⟩ := ih h
      exact ⟨hq, l', List.mem_cons_of_mem _ hl', hp⟩

theorem length_newlyCovered_le (lines : List LineItem) (befores afters : List Int) :
    (newlyCovered lines befores afters).length ≤ lines.length := by
  induction lines generalizing befores afters with
  | nil => cases befores <;> simp [newlyCovered]
  | cons l lines ih =>
    match befores, afters with
    | [], _ => simp [newlyCovered]
    | _ :: _, [] => simp [newlyCovered]
    | before :: befores, after :: afters =>
      have := ih befores afters
      rw [newlyCovered]
      split <;> simp <;> omega

/-- **The units of a refund**: no more lines than the transaction has, of no more units each. -/
theorem restock_bounds (hpriced : t.Priced) (hgrand : 0 ≤ t.grand) {before after : Int}
    {units : List RestockLine} (hunits : t.restock before after = .ok units) :
    units.length ≤ Field.mostLines ∧
      ∀ u ∈ units, 0 < u.quantity ∧ u.quantity ≤ Field.greatestQuantity := by
  simp only [restock, coveredUnits_eq hpriced hgrand, Outcome.bind_eq_ok, Outcome.pure_eq_ok,
    Except.ok.injEq] at hunits
  obtain ⟨_, rfl, _, rfl, rfl⟩ := hunits
  refine ⟨(length_newlyCovered_le ..).trans hpriced.count, ?_⟩
  intro u hu
  obtain ⟨hpos, l, hl, -, hle⟩ := mem_newlyCovered hu
  have := (hpriced.lines l hl).quantity
  exact ⟨hpos, by omega⟩

end Transaction

end Till
