import Till.Proofs.Plans
import Till.Proofs.Portions

/-!
# What is known of a priced transaction

A cart becomes a transaction only when its fields and its totals are in order.  `Transaction.Priced`
holds what the later work relies on: how many lines there are, the ranges of their numbers, and that
the subtotal is the sum of the lines.

* `Pricing.sumLines_eq_ok` : when the lines of a cart can be added up;
* `Pricing.manualTotals_eq_ok`, `Pricing.automaticTotals_eq_ok` : when totals are found from there;
* `Pricing.computeTotals_eq_ok` : what successful pricing says;
* `Transaction.IsSold.priced` : a cart that was sold has become a priced transaction.
-/

namespace Till

/-! ### Rules for fields -/

namespace Field

theorem each_eq_ok {α : Type} {rule : α → Check} {as : List α} {u : Unit} :
    each rule as = .ok u ↔ ∀ a ∈ as, rule a = .ok () := by
  induction as with
  | nil => simp [each]
  | cons a as ih =>
    simp only [each, Outcome.bind_eq_ok, ih, List.forall_mem_cons]
    constructor
    · rintro ⟨⟨⟩, ha, has⟩
      exact ⟨ha, has⟩
    · rintro ⟨ha, has⟩
      exact ⟨(), ha, has⟩

theorem quantity_eq_ok {n : Int} {u : Unit} :
    quantity n = .ok u ↔ 0 < n ∧ n ≤ greatestQuantity := by
  rw [quantity]
  by_cases hlow : n ≤ 0
  · rw [if_pos hlow]
    simp
    omega
  · rw [if_neg hlow]
    by_cases hhigh : n > greatestQuantity
    · rw [if_pos hhigh]
      simp
      omega
    · rw [if_neg hhigh]
      simp
      omega

theorem lineCount_eq_ok {n : Nat} {u : Unit} : lineCount n = .ok u ↔ 0 < n ∧ n ≤ mostLines := by
  rw [lineCount]
  by_cases hnone : n = 0
  · rw [if_pos hnone]
    simp
    omega
  · rw [if_neg hnone]
    by_cases hmany : n > mostLines
    · rw [if_pos hmany]
      simp
      omega
    · rw [if_neg hmany]
      simp
      omega

end Field

/-! ### Totals -/

namespace Pricing

theorem fitting_eq_ok {n m : Int} : fitting n = .ok m ↔ Cents.Fits n ∧ n = m := by
  simp [fitting, Cents.checked_eq_some]

/-- What pricing finds of a line. -/
structure IsPriced (l : CartLine) : Prop where
  quantity : 0 < l.quantity
  gross : Cents.Fits (l.unitPrice * l.quantity)
  discount : 0 ≤ l.discount
  discountLe : l.discount ≤ l.unitPrice * l.quantity ∨ l.discount = 0

theorem addLine_eq_ok {sums after : Int × Int} {l : CartLine} :
    addLine sums l = .ok after ↔ IsPriced l ∧ Cents.Fits after.1 ∧ Cents.Fits after.2 ∧
      after = (sums.1 + l.unitPrice * l.quantity, sums.2 + l.discount) := by
  constructor
  · intro h
    unfold addLine at h
    split at h
    · simp at h
    · next hquantity =>
      simp only [Outcome.bind_eq_ok, fitting_eq_ok] at h
      obtain ⟨_, ⟨hgross, rfl⟩, h⟩ := h
      split at h
      · simp at h
      · next hdiscount =>
        split at h
        · simp at h
        · next hle =>
          -- A discount of zero is let through even on a line of no price.
          simp only [Outcome.bind_eq_ok, fitting_eq_ok, Outcome.pure_eq_ok] at h
          obtain ⟨_, ⟨hsum, rfl⟩, _, ⟨hdiscounts, rfl⟩, rfl⟩ := h
          exact ⟨⟨by omega, hgross, by omega, by omega⟩, hsum, hdiscounts, rfl⟩
  · rintro ⟨hl, hsum, hdiscounts, rfl⟩
    have hquantity := hl.quantity
    have hdiscount := hl.discount
    have hle := hl.discountLe
    rw [addLine, if_neg (by omega), fitting_eq_ok.2 ⟨hl.gross, rfl⟩]
    simp only [bind, Except.bind]
    rw [if_neg (by omega), if_neg (by omega), fitting_eq_ok.2 ⟨hsum, rfl⟩,
      fitting_eq_ok.2 ⟨hdiscounts, rfl⟩]
    rfl

/-- The sum of the lines before discounts. -/
def grossOf (lines : List CartLine) : Int := (lines.map fun l => l.unitPrice * l.quantity).sum

/-- The sum of the discounts of the lines. -/
def discountsOf (lines : List CartLine) : Int := (lines.map CartLine.discount).sum

@[simp] theorem grossOf_nil : grossOf [] = 0 := rfl

@[simp] theorem discountsOf_nil : discountsOf [] = 0 := rfl

@[simp] theorem grossOf_cons (l : CartLine) (lines : List CartLine) :
    grossOf (l :: lines) = l.unitPrice * l.quantity + grossOf lines := rfl

@[simp] theorem discountsOf_cons (l : CartLine) (lines : List CartLine) :
    discountsOf (l :: lines) = l.discount + discountsOf lines := rfl

/-- **Lines can be added up**: each can be priced, and the sums of the first of them fit, however
many these are. -/
structure Summable (lines : List CartLine) : Prop where
  priced : ∀ l ∈ lines, IsPriced l
  gross : ∀ front, front <+: lines → Cents.Fits (grossOf front)
  discounts : ∀ front, front <+: lines → Cents.Fits (discountsOf front)

theorem foldlM_addLine_eq_ok {lines : List CartLine} {sums after : Int × Int}
    (hgross : Cents.Fits sums.1) (hdiscounts : Cents.Fits sums.2) :
    lines.foldlM addLine sums = .ok after ↔ (∀ l ∈ lines, IsPriced l) ∧
      (∀ front, front <+: lines → Cents.Fits (sums.1 + grossOf front) ∧
        Cents.Fits (sums.2 + discountsOf front)) ∧
      after = (sums.1 + grossOf lines, sums.2 + discountsOf lines) := by
  induction lines generalizing sums with
  | nil =>
    simp [hgross, hdiscounts, pure, Except.pure, eq_comm]
  | cons l lines ih =>
    -- The first lines of all are none, or this line and the first of the others.
    simp only [List.foldlM_cons, Outcome.bind_eq_ok, addLine_eq_ok, List.forall_mem_cons,
      List.prefix_cons_iff]
    constructor
    · rintro ⟨mid, ⟨hl, hmid, hmid', rfl⟩, hrest⟩
      obtain ⟨hpriced, hfits, rfl⟩ := (ih hmid hmid').1 hrest
      refine ⟨⟨hl, hpriced⟩, ?_, ?_⟩
      · rintro front (rfl | ⟨front, rfl, hfront⟩)
        · simpa using ⟨hgross, hdiscounts⟩
        · simpa [Int.add_assoc] using hfits front hfront
      · simp [Int.add_assoc]
    · rintro ⟨⟨hl, hpriced⟩, hfits, rfl⟩
      have hmid := hfits [l] (.inr ⟨[], rfl, List.nil_prefix⟩)
      simp only [grossOf_cons, discountsOf_cons, grossOf_nil, discountsOf_nil, Int.add_zero] at hmid
      refine ⟨_, ⟨hl, hmid.1, hmid.2, rfl⟩, (ih hmid.1 hmid.2).2 ⟨hpriced, ?_, ?_⟩⟩
      · intro front hfront
        simpa [Int.add_assoc] using hfits (l :: front) (.inr ⟨front, rfl, hfront⟩)
      · simp [Int.add_assoc]

theorem sumLines_eq_ok {lines : List CartLine} {sums : Int × Int} :
    sumLines lines = .ok sums ↔ Summable lines ∧ sums = (grossOf lines, discountsOf lines) := by
  have hzero : Cents.Fits 0 := by decide
  rw [sumLines, foldlM_addLine_eq_ok hzero hzero]
  simp only [Int.zero_add]
  constructor
  · rintro ⟨hpriced, hfits, rfl⟩
    exact ⟨⟨hpriced, fun front h => (hfits front h).1, fun front h => (hfits front h).2⟩, rfl⟩
  · rintro ⟨h, rfl⟩
    exact ⟨h.priced, fun front hfront => ⟨h.gross front hfront, h.discounts front hfront⟩, rfl⟩

/-- All totals fit 64 bits. -/
structure TotalsFit (totals : Totals) : Prop where
  subtotal : Cents.Fits totals.subtotal
  discount : Cents.Fits totals.discount
  tax : Cents.Fits totals.tax
  grand : Cents.Fits totals.grand

/-- **Totals by hand**: the amounts are not negative, the subtotal covers the discount, and what
the customer pays fits. -/
theorem manualTotals_eq_ok {subtotal : Int} {o : ManualOverride} {totals : Totals}
    (hsubtotal : Cents.Fits subtotal) : manualTotals subtotal o = .ok totals ↔
      0 ≤ o.discount ∧ 0 ≤ o.tax ∧ o.discount ≤ subtotal ∧
        Cents.Fits (subtotal - o.discount + o.tax) ∧
        totals = ⟨subtotal, o.discount, o.tax, subtotal - o.discount + o.tax⟩ := by
  unfold manualTotals
  split
  · simp only [Outcome.reject_ne_ok, false_iff]
    omega
  · split
    · simp only [Outcome.reject_ne_ok, false_iff]
      omega
    · have hnet : Cents.Fits (subtotal - o.discount) := by
        simp only [Cents.Fits, Cents.least, Cents.greatest] at *
        omega
      simp only [Outcome.bind_eq_ok, Cents.exact_eq_ok, fitting_eq_ok, Outcome.pure_eq_ok]
      constructor
      · rintro ⟨_, ⟨-, rfl⟩, _, ⟨hgrand, rfl⟩, rfl⟩
        exact ⟨by omega, by omega, by omega, hgrand, rfl⟩
      · rintro ⟨-, -, -, hgrand, rfl⟩
        exact ⟨_, ⟨hnet, rfl⟩, _, ⟨hgrand, rfl⟩, rfl⟩

/-- **Computed totals**: the discount of the cart is in order, the subtotal covers all discounts,
and what the steps compute on the way fits. -/
theorem automaticTotals_eq_ok {subtotal lineDiscounts : Int} {discount : CartDiscount}
    {rate : TaxRate} {totals : Totals} :
    automaticTotals subtotal lineDiscounts discount rate = .ok totals ↔
      Cents.Fits (subtotal - lineDiscounts) ∧
      ∃ ofCart, cartDiscount (subtotal - lineDiscounts) discount = .ok ofCart ∧
        Cents.Fits (lineDiscounts + ofCart) ∧ lineDiscounts + ofCart ≤ subtotal ∧
        Cents.Fits (subtotal - (lineDiscounts + ofCart)) ∧
        Cents.Fits (subtotal - (lineDiscounts + ofCart) +
          Cents.portion (subtotal - (lineDiscounts + ofCart)) rate.bps) ∧
        totals = ⟨subtotal, lineDiscounts + ofCart,
          Cents.portion (subtotal - (lineDiscounts + ofCart)) rate.bps,
          subtotal - (lineDiscounts + ofCart) +
            Cents.portion (subtotal - (lineDiscounts + ofCart)) rate.bps⟩ := by
  simp only [automaticTotals, Outcome.bind_eq_ok, Cents.exact_eq_ok]
  constructor
  · rintro ⟨_, ⟨hleft, rfl⟩, ofCart, hofCart, _, ⟨hdiscounts, rfl⟩, h⟩
    split at h
    · simp at h
    · simp only [Outcome.bind_eq_ok, Cents.exact_eq_ok, fitting_eq_ok, Outcome.pure_eq_ok] at h
      obtain ⟨_, ⟨htaxable, rfl⟩, _, ⟨hgrand, rfl⟩, rfl⟩ := h
      exact ⟨hleft, ofCart, hofCart, hdiscounts, by omega, htaxable, hgrand, rfl⟩
  · rintro ⟨hleft, ofCart, hofCart, hdiscounts, hcovered, htaxable, hgrand, rfl⟩
    refine ⟨_, ⟨hleft, rfl⟩, ofCart, hofCart, _, ⟨hdiscounts, rfl⟩, ?_⟩
    rw [if_neg (by omega)]
    simp only [Outcome.bind_eq_ok, Cents.exact_eq_ok, fitting_eq_ok, Outcome.pure_eq_ok]
    exact ⟨_, ⟨htaxable, rfl⟩, _, ⟨hgrand, rfl⟩, rfl⟩

/-- **Successful pricing, step by step**: the rate is valid, the lines can be added up, the subtotal
is not negative, and the totals are found from there. -/
theorem computeTotals_eq_ok_iff {lines : List CartLine} {discount : CartDiscount} {rate : TaxRate}
    {manual : Option ManualOverride} {totals : Totals} :
    computeTotals lines discount rate manual = .ok totals ↔
      rate.bps ≤ Cents.wholeBps ∧ Summable lines ∧ 0 ≤ grossOf lines ∧
        (match manual with
          | some o => manualTotals (grossOf lines) o
          | none => automaticTotals (grossOf lines) (discountsOf lines) discount rate) =
            .ok totals := by
  unfold computeTotals
  by_cases hrate : rate.bps ≤ Cents.wholeBps
  · rw [if_neg (by simpa [TaxRate.isValid] using hrate)]
    simp only [Outcome.bind_eq_ok, sumLines_eq_ok, hrate, true_and]
    constructor
    · rintro ⟨_, ⟨hsummable, rfl⟩, h⟩
      split at h
      · simp at h
      · exact ⟨hsummable, by omega, by cases manual <;> exact h⟩
    · rintro ⟨hsummable, hgross, h⟩
      refine ⟨_, ⟨hsummable, rfl⟩, ?_⟩
      rw [if_neg (by simpa using hgross)]
      cases manual <;> exact h
  · rw [if_pos (by simpa [TaxRate.isValid] using hrate)]
    simp [hrate]

/-- **Successful pricing**: the rate is valid, the lines are priced, the subtotal is their sum and
not negative, and all totals fit. -/
theorem computeTotals_eq_ok {lines : List CartLine} {discount : CartDiscount} {rate : TaxRate}
    {manual : Option ManualOverride} {totals : Totals}
    (h : computeTotals lines discount rate manual = .ok totals) :
    rate.isValid = true ∧ (∀ l ∈ lines, IsPriced l) ∧ totals.subtotal = grossOf lines ∧
      TotalsFit totals := by
  obtain ⟨hrate, hsummable, -, h⟩ := computeTotals_eq_ok_iff.1 h
  have hfits := hsummable.gross lines (List.prefix_refl lines)
  refine ⟨decide_eq_true hrate, hsummable.priced, ?_⟩
  cases manual with
  | some o =>
    obtain ⟨hdiscount, htax, hcovered, hgrand, rfl⟩ := (manualTotals_eq_ok hfits).1 h
    refine ⟨rfl, hfits, ?_, ?_, hgrand⟩
    all_goals
      simp only [Cents.Fits, Cents.least, Cents.greatest] at *
      omega
  | none =>
    obtain ⟨-, _, -, hdiscounts, -, -, hgrand, rfl⟩ := automaticTotals_eq_ok.1 h
    -- The tax is not tested, but it is wrapped around to 64 bits.
    exact ⟨rfl, hfits, hdiscounts, Cents.portion_fits _ _, hgrand⟩

/-! ### The grand total -/

/-- The grand total of a priced cart is not negative. -/
theorem computeTotals_nonneg {lines : List CartLine} {discount : CartDiscount} {rate : TaxRate}
    {manual : Option ManualOverride} {totals : Totals}
    (h : computeTotals lines discount rate manual = .ok totals) : 0 ≤ totals.grand := by
  obtain ⟨hrate, hsummable, -, h⟩ := computeTotals_eq_ok_iff.1 h
  cases manual with
  | some o =>
    have hfits := hsummable.gross lines (List.prefix_refl lines)
    obtain ⟨hdiscount, htax, hcovered, -, rfl⟩ := (manualTotals_eq_ok hfits).1 h
    simp only
    omega
  | none =>
    obtain ⟨-, _, -, -, hcovered, htaxable, -, rfl⟩ := automaticTotals_eq_ok.1 h
    have htax := Cents.portion_bounds htaxable hrate
    simp only
    omega

end Pricing

/-! ### Transactions -/

namespace LineItem

/-- The total of a line before its discount, as an integer without bounds. -/
def total (l : LineItem) : Int := l.unitPrice * l.quantity

/-- **The numbers of a line** are those that a cart may have. -/
structure InRange (l : LineItem) : Prop where
  number : 1 ≤ l.number ∧ l.number ≤ Field.mostLines
  quantity : 0 < l.quantity ∧ l.quantity ≤ Field.greatestQuantity
  price : 0 ≤ l.unitPrice
  fits : Cents.Fits l.total
  discount : 0 ≤ l.discount ∧ l.discount ≤ l.total

theorem InRange.total_nonneg {l : LineItem} (h : l.InRange) : 0 ≤ l.total :=
  Int.le_trans h.discount.1 h.discount.2

end LineItem

namespace Transaction

/-- The sum of the lines of a transaction. -/
def grossOf (lines : List LineItem) : Int := (lines.map LineItem.total).sum

/-- **A priced transaction**: its lines and totals are those of a cart in order. -/
structure Priced (t : Transaction) : Prop where
  /-- There are at most a hundred lines. -/
  count : t.lines.length ≤ Field.mostLines
  /-- The numbers of the lines are in range. -/
  lines : ∀ l ∈ t.lines, l.InRange
  /-- The subtotal is the sum of the lines. -/
  subtotal : t.subtotal = grossOf t.lines
  /-- The totals fit. -/
  fits : Pricing.TotalsFit ⟨t.subtotal, t.discount, t.tax, t.grand⟩
  /-- The rate is at most the whole. -/
  rate : t.taxRate ≤ Cents.wholeBps

theorem length_numberedLines (n : Nat) (lines : List CartLine) :
    (numberedLines n lines).length = lines.length := by
  induction lines generalizing n with
  | nil => rfl
  | cons l lines ih => simp [numberedLines, ih]

theorem grossOf_numberedLines (n : Nat) (lines : List CartLine) :
    grossOf (numberedLines n lines) = Pricing.grossOf lines := by
  induction lines generalizing n with
  | nil => rfl
  | cons l lines ih =>
    have hrest := ih (n + 1)
    simp only [grossOf, Pricing.grossOf, numberedLines, List.map_cons, List.sum_cons] at hrest ⊢
    rw [hrest]
    rfl

theorem mem_numberedLines {n : Nat} {lines : List CartLine} {l : LineItem}
    (h : l ∈ numberedLines n lines) :
    ∃ k, k < lines.length ∧ ∃ c ∈ lines, l = LineItem.ofCartLine (n + k) c := by
  induction lines generalizing n with
  | nil => simp [numberedLines] at h
  | cons c lines ih =>
    rcases List.mem_cons.1 h with rfl | h
    · exact ⟨0, by simp, c, List.mem_cons_self, rfl⟩
    · obtain ⟨k, hk, c', hc', rfl⟩ := ih h
      exact ⟨k + 1, by simpa using hk, c', List.mem_cons_of_mem _ hc', by
        simp only [LineItem.ofCartLine]
        congr 1
        omega⟩

theorem inRange_ofCartLine {l : CartLine} (hcheck : Cart.checkLine l = .ok ())
    (hpriced : Pricing.IsPriced l) {n : Nat} (hn : 1 ≤ n ∧ n ≤ Field.mostLines) :
    (LineItem.ofCartLine n l).InRange := by
  simp only [Cart.checkLine, Outcome.bind_eq_ok, Field.quantity_eq_ok, Field.price,
    Field.notNegative_eq_ok] at hcheck
  obtain ⟨_, -, _, hquantity, hprice⟩ := hcheck
  have htotal : 0 ≤ l.unitPrice * l.quantity := Int.mul_nonneg hprice (by omega)
  refine ⟨?_, hquantity, hprice, hpriced.gross, hpriced.discount, ?_⟩
  · simp only [LineItem.ofCartLine]
    omega
  · rcases hpriced.discountLe with hle | hzero
    · exact hle
    · exact Int.le_trans (Int.le_of_eq hzero) htotal

/-- **A cart that was sold** has become a priced transaction. -/
theorem IsSold.priced {cart : Cart} {c : SaleContext} {pricing : PricingRecord} {totals : Totals}
    (h : IsSold cart c pricing totals) : (sold cart c pricing totals).Priced := by
  have hcheck := h.check
  simp only [Cart.check, Outcome.bind_eq_ok, Field.lineCount_eq_ok, Field.each_eq_ok] at hcheck
  obtain ⟨_, hcount, _, -, _, hlines, -⟩ := hcheck
  obtain ⟨hrate, hpriced, hgross, hfits⟩ := Pricing.computeTotals_eq_ok h.totals
  refine ⟨?_, ?_, ?_, hfits, of_decide_eq_true hrate⟩
  · simp only [sold, length_numberedLines]
    exact hcount.2
  · intro l hl
    obtain ⟨k, hk, l', hl', rfl⟩ := mem_numberedLines hl
    exact inRange_ofCartLine (hlines l' hl') (hpriced l' hl') ⟨by omega, by omega⟩
  · simp only [sold, grossOf_numberedLines]
    exact hgross

end Transaction

end Till
