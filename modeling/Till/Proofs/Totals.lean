import Mathlib.Algebra.Order.BigOperators.Group.List
import Till.Proofs.Prices

/-!
# The totals of a cart, in exact numbers

`Pricing.computeTotals` works in 64 bits: some of its steps refuse a number that does not fit, some
overflow on it, and a share keeps its low 64 bits.  Here its result is compared with the same
computation in integers without bounds.

* `Pricing.Priceable`, `Pricing.charge` : which carts have totals, and which totals these are, in
  exact numbers;
* `Pricing.computeTotals_exact` : where no price is negative, pricing accepts exactly these carts
  and finds exactly these totals;
* `Pricing.Overruns` : the discounts of the lines and an amount off the whole cart are together more
  than 64 bits hold;
* `Pricing.computeTotals_answers` : this is the one case in which pricing overflows, whatever the
  lines, and no share that it takes loses a bit.
-/

namespace Till

namespace Cents

variable {amount : Int} {bps : Nat}

theorem halfUp_nonneg (h : 0 ≤ amount) : 0 ≤ halfUp amount bps := by
  have hproduct : 0 ≤ amount * (bps : Int) := Int.mul_nonneg h (Int.natCast_nonneg bps)
  rw [halfUp]
  omega

theorem halfUp_le (h : 0 ≤ amount) (hbps : bps ≤ wholeBps) : halfUp amount bps ≤ amount := by
  have hshare := (roundedQuotient_bounds amount hbps).2
  rwa [roundedQuotient_of_nonneg h, max_eq_left h] at hshare

end Cents

namespace CartDiscount

/-- The rules for a discount of a cart: a share is at most the whole, an amount is not negative. -/
def InOrder : CartDiscount → Prop
  | none => True
  | percentage bps => bps ≤ Cents.wholeBps
  | fixed cents => 0 ≤ cents

instance : DecidablePred InOrder
  | none => inferInstanceAs (Decidable True)
  | percentage bps => inferInstanceAs (Decidable (bps ≤ Cents.wholeBps))
  | fixed cents => inferInstanceAs (Decidable (0 ≤ cents))

/-- A discount on what is left after the line discounts, halves of a cent rounded up. -/
def amount (left : Int) : CartDiscount → Int
  | none => 0
  | percentage bps => Cents.halfUp left bps
  | fixed cents => cents

theorem amount_nonneg {left : Int} {discount : CartDiscount} (hleft : 0 ≤ left)
    (h : discount.InOrder) : 0 ≤ discount.amount left := by
  cases discount with
  | none => exact Int.le_refl 0
  | percentage bps => exact Cents.halfUp_nonneg hleft
  | fixed cents => exact h

end CartDiscount

namespace Pricing

variable {lines : List CartLine} {discount : CartDiscount} {rate : TaxRate}
  {manual : Option ManualOverride}

/-! ### Sums of lines -/

theorem grossOf_append (front back : List CartLine) :
    grossOf (front ++ back) = grossOf front + grossOf back := by
  simp [grossOf]

theorem grossOf_nonneg (h : ∀ l ∈ lines, 0 ≤ l.unitPrice * l.quantity) : 0 ≤ grossOf lines :=
  List.sum_nonneg (by simpa using h)

theorem discountsOf_nonneg (h : ∀ l ∈ lines, 0 ≤ l.discount) : 0 ≤ discountsOf lines :=
  List.sum_nonneg (by simpa using h)

theorem discountsOf_le_grossOf (h : ∀ l ∈ lines, l.discount ≤ l.unitPrice * l.quantity) :
    discountsOf lines ≤ grossOf lines :=
  List.sum_le_sum h

theorem Summable.discounts_nonneg (h : Summable lines) : 0 ≤ discountsOf lines :=
  discountsOf_nonneg fun l hl => (h.priced l hl).discount

theorem Summable.fits (h : Summable lines) :
    Cents.Fits (grossOf lines) ∧ Cents.Fits (discountsOf lines) :=
  ⟨h.gross lines (List.prefix_refl lines), h.discounts lines (List.prefix_refl lines)⟩

/-- **Lines without negative prices** can be added up if their sum fits: no other sum on the way
is larger. -/
theorem summable_iff (hprices : ∀ l ∈ lines, 0 ≤ l.unitPrice) :
    Summable lines ↔ (∀ l ∈ lines, 0 < l.quantity) ∧
      (∀ l ∈ lines, 0 ≤ l.discount ∧ l.discount ≤ l.unitPrice * l.quantity) ∧
      Cents.Fits (grossOf lines) := by
  constructor
  · intro h
    refine ⟨fun l hl => (h.priced l hl).quantity, fun l hl => ?_, h.fits.1⟩
    have hl' := h.priced l hl
    have htotal := Int.mul_nonneg (hprices l hl) (Int.le_of_lt hl'.quantity)
    refine ⟨hl'.discount, ?_⟩
    rcases hl'.discountLe with hle | hzero
    · exact hle
    · exact Int.le_trans (Int.le_of_eq hzero) htotal
  · rintro ⟨hquantities, hdiscounts, hfits⟩
    have htotals : ∀ l ∈ lines, 0 ≤ l.unitPrice * l.quantity := fun l hl =>
      Int.mul_nonneg (hprices l hl) (Int.le_of_lt (hquantities l hl))
    -- Whatever part of the lines comes first, its discounts and its sum lie between zero and the
    -- sum of all lines.
    have hpart : ∀ front back, front ++ back = lines → 0 ≤ discountsOf front ∧
        discountsOf front ≤ grossOf front ∧ grossOf front ≤ grossOf lines := by
      rintro front back rfl
      have hback : 0 ≤ grossOf back := grossOf_nonneg fun l hl =>
        htotals l (List.mem_append_right front hl)
      refine ⟨discountsOf_nonneg fun l hl => (hdiscounts l (List.mem_append_left back hl)).1,
        discountsOf_le_grossOf fun l hl => (hdiscounts l (List.mem_append_left back hl)).2, ?_⟩
      rw [grossOf_append]
      omega
    simp only [Cents.Fits, Cents.least, Cents.greatest] at hfits
    refine ⟨fun l hl => ?_, ?_, ?_⟩
    · refine ⟨hquantities l hl, ?_, (hdiscounts l hl).1, .inl (hdiscounts l hl).2⟩
      have hle : l.unitPrice * l.quantity ≤ grossOf lines :=
        List.single_le_sum (by simpa using htotals) _ (List.mem_map_of_mem hl)
      have hnonneg := htotals l hl
      simp only [Cents.Fits, Cents.least, Cents.greatest]
      omega
    all_goals
      rintro front ⟨back, hback⟩
      have hfront := hpart front back hback
      simp only [Cents.Fits, Cents.least, Cents.greatest]
      omega

/-! ### The exact totals -/

/-- The totals of a cart in exact numbers. -/
def charge (lines : List CartLine) (discount : CartDiscount) (rate : TaxRate) :
    Option ManualOverride → Totals
  | some o => ⟨grossOf lines, o.discount, o.tax, grossOf lines - o.discount + o.tax⟩
  | none =>
    let discounts := discountsOf lines + discount.amount (grossOf lines - discountsOf lines)
    let tax := Cents.halfUp (grossOf lines - discounts) rate.bps
    ⟨grossOf lines, discounts, tax, grossOf lines - discounts + tax⟩

/-- **A cart has totals** if these conditions hold. -/
structure Priceable (lines : List CartLine) (discount : CartDiscount) (rate : TaxRate)
    (manual : Option ManualOverride) : Prop where
  /-- The tax rate is at most the whole. -/
  validRate : rate.bps ≤ Cents.wholeBps
  /-- There is some quantity of each product. -/
  quantities : ∀ l ∈ lines, 0 < l.quantity
  /-- The discount of a line is at most the line. -/
  discounts : ∀ l ∈ lines, 0 ≤ l.discount ∧ l.discount ≤ l.unitPrice * l.quantity
  /-- The sum of the lines fits. -/
  subtotal : Cents.Fits (grossOf lines)
  /-- Amounts entered by hand are not negative. -/
  byHand : ∀ o ∈ manual, 0 ≤ o.discount ∧ 0 ≤ o.tax
  /-- Without such amounts, the discount of the cart is in order. -/
  ofCart : manual = none → discount.InOrder
  /-- The discounts are at most the sum of the lines. -/
  covered : (charge lines discount rate manual).discount ≤ grossOf lines
  /-- What the customer pays fits. -/
  grand : Cents.Fits (charge lines discount rate manual).grand

theorem cartDiscount_eq_ok {left ofCart : Int} (hnonneg : 0 ≤ left) (hfits : Cents.Fits left) :
    cartDiscount left discount = .ok ofCart ↔
      discount.InOrder ∧ ofCart = discount.amount left := by
  cases discount with
  | none => simp [cartDiscount, CartDiscount.InOrder, CartDiscount.amount, eq_comm]
  | percentage bps =>
    simp only [cartDiscount, CartDiscount.InOrder, CartDiscount.amount]
    by_cases hbps : bps ≤ Cents.wholeBps
    · rw [if_neg (Nat.not_lt.2 hbps), Cents.portion_of_nonneg hnonneg hfits.2 hbps]
      simp [hbps, eq_comm]
    · rw [if_pos (Nat.not_le.1 hbps)]
      simp [hbps]
  | fixed cents =>
    simp only [cartDiscount, CartDiscount.InOrder, CartDiscount.amount]
    by_cases hcents : 0 ≤ cents
    · rw [if_neg (Int.not_lt.2 hcents)]
      simp [hcents, eq_comm]
    · rw [if_pos (Int.not_le.1 hcents)]
      simp [hcents]

/-- A priceable cart has a discount between zero and the sum of its lines, and a computed tax
between zero and what it is computed on. -/
theorem Priceable.bounds (h : Priceable lines discount rate manual) :
    0 ≤ (charge lines discount rate manual).discount ∧
      (charge lines discount rate manual).discount ≤ grossOf lines ∧
      (manual = none → 0 ≤ (charge lines discount rate manual).tax ∧
        (charge lines discount rate manual).tax ≤
          grossOf lines - (charge lines discount rate manual).discount) := by
  have hcovered := h.covered
  cases manual with
  | some o => exact ⟨(h.byHand o rfl).1, hcovered, nofun⟩
  | none =>
    have hlines := discountsOf_nonneg fun l hl => (h.discounts l hl).1
    have hleft := Int.sub_nonneg.2 (discountsOf_le_grossOf fun l hl => (h.discounts l hl).2)
    have hofCart := CartDiscount.amount_nonneg hleft (h.ofCart rfl)
    have htaxable := Int.sub_nonneg.2 hcovered
    refine ⟨Int.add_nonneg hlines hofCart, hcovered, fun _ => ?_⟩
    exact ⟨Cents.halfUp_nonneg htaxable, Cents.halfUp_le htaxable h.validRate⟩

/-- Computed totals are the exact ones. -/
theorem automaticTotals_exact {totals : Totals} (hrate : rate.bps ≤ Cents.wholeBps)
    (hlines : 0 ≤ discountsOf lines) (hle : discountsOf lines ≤ grossOf lines)
    (hfits : Cents.Fits (grossOf lines)) :
    automaticTotals (grossOf lines) (discountsOf lines) discount rate = .ok totals ↔
      discount.InOrder ∧ (charge lines discount rate none).discount ≤ grossOf lines ∧
        Cents.Fits (charge lines discount rate none).grand ∧
        totals = charge lines discount rate none := by
  have hleft : 0 ≤ grossOf lines - discountsOf lines := Int.sub_nonneg.2 hle
  have hleftFits : Cents.Fits (grossOf lines - discountsOf lines) := by
    simp only [Cents.Fits, Cents.least, Cents.greatest] at *
    omega
  simp only [automaticTotals_eq_ok, cartDiscount_eq_ok hleft hleftFits, charge]
  constructor
  · rintro ⟨-, _, ⟨horder, rfl⟩, -, hcovered, htaxable, hgrand, rfl⟩
    rw [Cents.portion_of_nonneg (Int.sub_nonneg.2 hcovered) htaxable.2 hrate] at hgrand ⊢
    exact ⟨horder, hcovered, hgrand, rfl⟩
  · rintro ⟨horder, hcovered, hgrand, rfl⟩
    have hofCart := CartDiscount.amount_nonneg hleft horder
    have htaxable : Cents.Fits (grossOf lines - (discountsOf lines +
        discount.amount (grossOf lines - discountsOf lines))) := by
      simp only [Cents.Fits, Cents.least, Cents.greatest] at *
      omega
    have hdiscounts : Cents.Fits (discountsOf lines +
        discount.amount (grossOf lines - discountsOf lines)) := by
      simp only [Cents.Fits, Cents.least, Cents.greatest] at *
      omega
    refine ⟨hleftFits, _, ⟨horder, rfl⟩, hdiscounts, hcovered, htaxable, ?_⟩
    rw [Cents.portion_of_nonneg (Int.sub_nonneg.2 hcovered) htaxable.2 hrate]
    exact ⟨hgrand, rfl⟩

/-- A cart without negative prices is priced if and only if it is priceable, at the exact totals. -/
theorem computeTotals_eq_ok_iff_priceable (hprices : ∀ l ∈ lines, 0 ≤ l.unitPrice)
    {totals : Totals} : computeTotals lines discount rate manual = .ok totals ↔
      Priceable lines discount rate manual ∧ totals = charge lines discount rate manual := by
  rw [computeTotals_eq_ok_iff, summable_iff hprices]
  constructor
  · rintro ⟨hrate, ⟨hquantities, hdiscounts, hfits⟩, -, h⟩
    cases manual with
    | some o =>
      obtain ⟨hdiscount, htax, hcovered, hgrand, rfl⟩ := (manualTotals_eq_ok hfits).1 h
      refine ⟨⟨hrate, hquantities, hdiscounts, hfits, ?_, nofun, hcovered, hgrand⟩, rfl⟩
      rintro _ ⟨⟩
      exact ⟨hdiscount, htax⟩
    | none =>
      have hlines := discountsOf_nonneg fun l hl => (hdiscounts l hl).1
      have hle := discountsOf_le_grossOf fun l hl => (hdiscounts l hl).2
      obtain ⟨horder, hcovered, hgrand, rfl⟩ :=
        (automaticTotals_exact hrate hlines hle hfits).1 h
      refine ⟨⟨hrate, hquantities, hdiscounts, hfits, nofun, ?_, hcovered, hgrand⟩, rfl⟩
      exact fun _ => horder
  · rintro ⟨h, rfl⟩
    have hlines := discountsOf_nonneg fun l hl => (h.discounts l hl).1
    have hle := discountsOf_le_grossOf fun l hl => (h.discounts l hl).2
    refine ⟨h.validRate, ⟨h.quantities, h.discounts, h.subtotal⟩, Int.le_trans hlines hle, ?_⟩
    cases manual with
    | some o =>
      have ho := h.byHand o rfl
      exact (manualTotals_eq_ok h.subtotal).2 ⟨ho.1, ho.2, h.covered, h.grand, rfl⟩
    | none =>
      exact (automaticTotals_exact h.validRate hlines hle h.subtotal).2
        ⟨h.ofCart rfl, h.covered, h.grand, rfl⟩

/-- **Pricing is exact**: a cart without negative prices is priced if and only if it is priceable,
and then its totals are the exact ones.  Its discount is at most its lines, and a computed tax at
most what it is computed on. -/
theorem computeTotals_exact (hprices : ∀ l ∈ lines, 0 ≤ l.unitPrice) :
    (∀ totals, computeTotals lines discount rate manual = .ok totals ↔
      Priceable lines discount rate manual ∧ totals = charge lines discount rate manual) ∧
    ∀ totals, computeTotals lines discount rate manual = .ok totals →
      0 ≤ totals.discount ∧ totals.discount ≤ totals.subtotal ∧
        (manual = none → 0 ≤ totals.tax ∧ totals.tax ≤ totals.subtotal - totals.discount) := by
  refine ⟨fun totals => computeTotals_eq_ok_iff_priceable hprices, fun totals h => ?_⟩
  obtain ⟨hpriceable, rfl⟩ := (computeTotals_eq_ok_iff_priceable hprices).1 h
  have hbounds := hpriceable.bounds
  cases manual <;> exact hbounds

/-- A tenth off a receipt of 225.00, and eleven percent of tax on the rest, half a cent of it
rounded up. -/
theorem computeTotals_exact_tenthOff :
    (∀ l ∈ [⟨"rice", 2, 10000, 0⟩, ⟨"tea", 1, 2500, 0⟩], 0 ≤ CartLine.unitPrice l) ∧
      computeTotals [⟨"rice", 2, 10000, 0⟩, ⟨"tea", 1, 2500, 0⟩] (.percentage 1000) ⟨1100⟩ none =
        .ok ⟨22500, 2250, 2228, 22478⟩ := by
  have hprices : ∀ l ∈ [⟨"rice", 2, 10000, 0⟩, ⟨"tea", 1, 2500, 0⟩], 0 ≤ CartLine.unitPrice l := by
    decide
  refine ⟨hprices, ((computeTotals_exact hprices).1 _).2 ⟨?_, by decide⟩⟩
  refine ⟨by decide, by decide, by decide, by decide, nofun, ?_, by decide, by decide⟩
  exact fun _ => by decide

/-! ### Overflow -/

/-- **The discounts overrun**: all that pricing asks of the cart before is in order, and an amount
off the whole cart makes, together with the discounts of the lines, more than 64 bits hold. -/
structure Overruns (lines : List CartLine) (discount : CartDiscount) (rate : TaxRate)
    (manual : Option ManualOverride) : Prop where
  /-- The tax rate is at most the whole. -/
  validRate : rate.bps ≤ Cents.wholeBps
  /-- The lines can be added up. -/
  summable : Summable lines
  /-- Their sum is not negative. -/
  subtotal : 0 ≤ grossOf lines
  /-- The totals are computed. -/
  computed : manual = none
  /-- The amount off is too much. -/
  tooMuch : ∃ cents, discount = .fixed cents ∧ Cents.greatest < discountsOf lines + cents

/-- **The shares that pricing takes**, as amounts and basis points: the discount of the cart, if it
is a share, and the tax. -/
inductive TakesShare (lines : List CartLine) (discount : CartDiscount) (rate : TaxRate) :
    Int → Nat → Prop
  /-- The discount is a share of what the line discounts left. -/
  | ofCart {subtotal lineDiscounts : Int} {bps : Nat} (validRate : rate.isValid)
      (sums : sumLines lines = .ok (subtotal, lineDiscounts)) (nonneg : 0 ≤ subtotal)
      (share : discount = .percentage bps) (valid : bps ≤ Cents.wholeBps) :
      TakesShare lines discount rate (subtotal - lineDiscounts) bps
  /-- The tax is a share of what all discounts left. -/
  | tax {subtotal lineDiscounts ofCart : Int} (validRate : rate.isValid)
      (sums : sumLines lines = .ok (subtotal, lineDiscounts)) (nonneg : 0 ≤ subtotal)
      (found : cartDiscount (subtotal - lineDiscounts) discount = .ok ofCart)
      (covered : lineDiscounts + ofCart ≤ subtotal) :
      TakesShare lines discount rate (subtotal - (lineDiscounts + ofCart)) rate.bps

@[simp] theorem answers_fitting (n : Int) : Outcome.Answers (fitting n) :=
  Outcome.answers_ofOption _ _

/-- Adding up lines never overflows: each step refuses a number that does not fit. -/
theorem answers_sumLines (lines : List CartLine) : Outcome.Answers (sumLines lines) := by
  refine Outcome.answers_foldlM (fun sums l => ?_) lines _
  unfold addLine
  split
  · simp
  · simp only [Outcome.answers_bind, answers_fitting, true_and]
    intro gross _
    split
    · simp
    · split
      · simp
      · simp [Outcome.answers_bind]

theorem answers_manualTotals {subtotal : Int} (hnonneg : 0 ≤ subtotal)
    (hfits : Cents.Fits subtotal) (o : ManualOverride) :
    Outcome.Answers (manualTotals subtotal o) := by
  unfold manualTotals
  split
  · simp
  · split
    · simp
    · have hnet : Cents.Fits (subtotal - o.discount) := by
        simp only [Cents.Fits, Cents.least, Cents.greatest] at *
        omega
      simp [Outcome.answers_bind, hnet]

theorem answers_cartDiscount (left : Int) (discount : CartDiscount) :
    Outcome.Answers (cartDiscount left discount) := by
  cases discount with
  | none => simp [cartDiscount]
  | percentage bps => simp only [cartDiscount]; split <;> simp
  | fixed cents => simp only [cartDiscount]; split <;> simp

/-- A discount of the cart that is not an amount lies between zero and what the line discounts
left, which may be negative where a price is. -/
theorem cartDiscount_bounds {left ofCart : Int} (hfits : Cents.Fits left)
    (h : cartDiscount left discount = .ok ofCart) :
    (∃ cents, discount = .fixed cents ∧ 0 ≤ cents ∧ ofCart = cents) ∨
      (min left 0 ≤ ofCart ∧ ofCart ≤ max left 0) := by
  cases discount with
  | none =>
    obtain rfl : 0 = ofCart := by simpa [cartDiscount] using h
    exact .inr ⟨Int.min_le_right left 0, Int.le_max_right left 0⟩
  | percentage bps =>
    simp only [cartDiscount] at h
    split at h
    · simp at h
    · next hbps =>
      obtain rfl : Cents.portion left bps = ofCart := by simpa using h
      have hwhole : bps ≤ Cents.wholeBps := Nat.not_lt.1 hbps
      exact .inr (Cents.portion_bounds hfits hwhole)
  | fixed cents =>
    simp only [cartDiscount] at h
    split at h
    · simp at h
    · next hcents =>
      obtain rfl : cents = ofCart := by simpa using h
      exact .inl ⟨cents, rfl, Int.not_lt.1 hcents, rfl⟩

/-- What the line discounts leave fits, though it may be negative. -/
theorem left_fits {subtotal lineDiscounts : Int} (hnonneg : 0 ≤ subtotal)
    (hfits : Cents.Fits subtotal) (hlines : 0 ≤ lineDiscounts)
    (hlinesFit : Cents.Fits lineDiscounts) : Cents.Fits (subtotal - lineDiscounts) := by
  simp only [Cents.Fits, Cents.least, Cents.greatest] at hfits hlinesFit ⊢
  omega

/-- What all discounts leave is nothing, or less than what the line discounts left. -/
theorem taxable_fits {subtotal lineDiscounts ofCart : Int}
    (hleft : Cents.Fits (subtotal - lineDiscounts))
    (hofCart : cartDiscount (subtotal - lineDiscounts) discount = .ok ofCart)
    (hcovered : lineDiscounts + ofCart ≤ subtotal) :
    Cents.Fits (subtotal - (lineDiscounts + ofCart)) := by
  have hbounds := cartDiscount_bounds hleft hofCart
  simp only [Cents.Fits, Cents.least, Cents.greatest] at hleft ⊢
  rcases hbounds with ⟨cents, -, hcents, rfl⟩ | ⟨hlow, hhigh⟩
  all_goals omega

/-- Computing the totals overflows on one addition only, that of an amount off the cart. -/
theorem answers_automaticTotals {subtotal lineDiscounts : Int} (hnonneg : 0 ≤ subtotal)
    (hfits : Cents.Fits subtotal) (hlines : 0 ≤ lineDiscounts)
    (hlinesFit : Cents.Fits lineDiscounts) :
    Outcome.Answers (automaticTotals subtotal lineDiscounts discount rate) ↔
      ¬ ∃ cents, discount = .fixed cents ∧ Cents.greatest < lineDiscounts + cents := by
  have hleft := left_fits hnonneg hfits hlines hlinesFit
  have hsum : Outcome.Answers (automaticTotals subtotal lineDiscounts discount rate) ↔
      ∀ ofCart, cartDiscount (subtotal - lineDiscounts) discount = .ok ofCart →
        Cents.Fits (lineDiscounts + ofCart) := by
    rw [automaticTotals, Cents.exact_of_fits hleft, Outcome.answers_bind]
    simp only [Outcome.answers_ok, true_and, Except.ok.injEq, forall_eq', Outcome.answers_bind,
      answers_cartDiscount, Outcome.answers_exact, Cents.exact_eq_ok]
    refine forall₂_congr fun ofCart hofCart => and_iff_left ?_
    rintro _ ⟨hdiscounts, rfl⟩
    split
    · simp
    · have htaxable : Cents.Fits (subtotal - (lineDiscounts + ofCart)) :=
        taxable_fits hleft hofCart (by omega)
      simp [Outcome.answers_bind, htaxable]
  rw [hsum]
  simp only [Cents.Fits, Cents.least, Cents.greatest] at *
  constructor
  · rintro h ⟨cents, rfl, htooMuch⟩
    have hcents := h cents (by rw [cartDiscount, if_neg (by omega)])
    omega
  · intro h ofCart hofCart
    rcases cartDiscount_bounds hleft hofCart with ⟨cents, rfl, hcents, rfl⟩ | ⟨hlow, hhigh⟩
    · have hle := not_exists.1 h ofCart
      simp only [true_and, Int.not_lt] at hle
      omega
    · omega

theorem answers_computeTotals : Outcome.Answers (computeTotals lines discount rate manual) ↔
    ¬ Overruns lines discount rate manual := by
  by_cases hrate : rate.bps ≤ Cents.wholeBps
  · rw [computeTotals, if_neg (by simpa [TaxRate.isValid] using hrate), Outcome.answers_bind]
    simp only [answers_sumLines, true_and, sumLines_eq_ok]
    constructor
    · rintro h ⟨-, hsummable, hgross, rfl, htooMuch⟩
      have hautomatic := h _ ⟨hsummable, rfl⟩
      simp only [if_neg (Int.not_lt.2 hgross)] at hautomatic
      exact (answers_automaticTotals hgross hsummable.fits.1 hsummable.discounts_nonneg
        hsummable.fits.2).1 hautomatic htooMuch
    · rintro h _ ⟨hsummable, rfl⟩
      split
      · simp
      · next hgross =>
        have hnonneg : 0 ≤ grossOf lines := Int.not_lt.1 hgross
        cases manual with
        | some o => exact answers_manualTotals hnonneg hsummable.fits.1 o
        | none =>
          refine (answers_automaticTotals hnonneg hsummable.fits.1 hsummable.discounts_nonneg
            hsummable.fits.2).2 fun htooMuch => ?_
          exact h ⟨hrate, hsummable, hnonneg, rfl, htooMuch⟩
  · rw [computeTotals, if_pos (by simpa [TaxRate.isValid] using hrate)]
    simp only [Outcome.answers_reject, true_iff]
    exact fun h => hrate h.validRate

/-- A share is taken of an amount that fits, and is at most the whole of it. -/
theorem TakesShare.portion_eq {amount : Int} {bps : Nat}
    (h : TakesShare lines discount rate amount bps) :
    Cents.portion amount bps = Cents.roundedQuotient (amount * bps) Cents.wholeBps := by
  have hleft : ∀ {subtotal lineDiscounts}, sumLines lines = .ok (subtotal, lineDiscounts) →
      0 ≤ subtotal → Cents.Fits (subtotal - lineDiscounts) := by
    intro subtotal lineDiscounts hsums hnonneg
    obtain ⟨hsummable, hpair⟩ := sumLines_eq_ok.1 hsums
    obtain ⟨rfl, rfl⟩ := Prod.mk.inj hpair
    exact left_fits hnonneg hsummable.fits.1 hsummable.discounts_nonneg hsummable.fits.2
  cases h with
  | ofCart _ hsums hnonneg _ hbps => exact Cents.portion_eq (hleft hsums hnonneg) hbps
  | tax hrate hsums hnonneg hofCart hcovered =>
    exact Cents.portion_eq (taxable_fits (hleft hsums hnonneg) hofCart hcovered)
      (of_decide_eq_true hrate)

/-- **Where pricing overflows**: whatever the lines, the discount, the rate and the totals entered
by hand, it gives totals or a problem unless the discounts overrun, and no share that it takes loses
a bit. -/
theorem computeTotals_answers :
    (Outcome.Answers (computeTotals lines discount rate manual) ↔
      ¬ Overruns lines discount rate manual) ∧
    ∀ amount bps, TakesShare lines discount rate amount bps →
      Cents.portion amount bps = Cents.roundedQuotient (amount * bps) Cents.wholeBps :=
  ⟨answers_computeTotals, fun _ _ h => h.portion_eq⟩

/-- A discount of one cent on a line, and the greatest amount off the cart, are no problem of the
cart but an overflow. -/
theorem not_answers_greatestOff :
    ¬ Outcome.Answers (computeTotals [⟨"tea", 1, 5, 1⟩] (.fixed Cents.greatest) ⟨0⟩ none) := by
  rw [Outcome.answers_iff, not_not]
  decide

end Pricing

end Till
