import Till.Cart

/-!
# Pricing

`Pricing.computeTotals` turns the lines of a cart into its totals.  The subtotal is the sum of
price times quantity.  Discounts come off first: those of the lines, then that of the cart, which
applies to what the line discounts left.  Tax is computed once, on what remains.  Totals entered by
hand replace discount and tax.

`Pricing.Problem` lists what makes a cart unpriceable.  The problems are looked for in a fixed
order: the tax rate, then line by line, then the sum, then the discounts.  An amount that does not
fit 64 bits is a problem of its own where the sums of the lines and the grand total are formed;
adding the discount of the cart to those of the lines can overflow.
-/

namespace Till

/-- The totals of a cart in cents. -/
structure Totals where
  /-- The sum of the lines before discounts. -/
  subtotal : Int
  /-- All discounts together. -/
  discount : Int
  /-- The tax. -/
  tax : Int
  /-- What the customer pays. -/
  grand : Int
  deriving DecidableEq, Repr

namespace Totals

/-- What the tax is computed on. -/
def taxable (t : Totals) : Result Int := Cents.exact (t.subtotal - t.discount)

/-- The totals as JSON, with what the tax is computed on. -/
def toJson (t : Totals) (taxable : Int) : Json :=
  .obj [("discount_total", .int t.discount), ("grand_total", .int t.grand),
    ("subtotal", .int t.subtotal), ("tax_total", .int t.tax), ("taxable", .int taxable)]

end Totals

namespace Pricing

/-- What makes a cart unpriceable. -/
inductive Problem where
  /-- The tax rate is above the whole. -/
  | taxRate (bps : Nat)
  /-- The quantity of a line is not positive. -/
  | quantity (product : String)
  /-- The discount of a line is negative. -/
  | negativeLineDiscount (product : String)
  /-- The discount of a line exceeds the line. -/
  | excessiveLineDiscount (product : String)
  /-- An amount does not fit 64 bits. -/
  | amountTooLarge
  /-- The sum of the lines is negative. -/
  | negativeSubtotal
  /-- An amount entered by hand is negative. -/
  | negativeOverride
  /-- The share is above the whole. -/
  | percentage (bps : Nat)
  /-- The discount of the cart is negative. -/
  | negativeCartDiscount
  /-- The discounts exceed the sum of the lines. -/
  | excessiveDiscount
  deriving DecidableEq, Repr

/-- The wording of a problem. -/
def Problem.message : Problem → String
  | taxRate bps => "tax rate " ++ toString bps ++ " bps is outside 0..=10000"
  | quantity product => "quantity for " ++ product ++ " must be positive"
  | negativeLineDiscount product => "line discount for " ++ product ++ " is negative"
  | excessiveLineDiscount product => "line discount for " ++ product ++ " exceeds line total"
  | amountTooLarge => "amount overflow"
  | negativeSubtotal => "subtotal is negative"
  | negativeOverride => "manual override amounts must not be negative"
  | percentage bps => "discount " ++ toString bps ++ " bps is outside 0..=10000"
  | negativeCartDiscount => "cart discount is negative"
  | excessiveDiscount => "discount exceeds subtotal"

/-- A priced value, or the problem that prevents it. -/
abbrev Priced (α : Type) := Outcome Problem α

/-- The number if it fits; that it does not is a problem. -/
def fitting (n : Int) : Priced Int := Outcome.ofOption .amountTooLarge (Cents.checked n)

/-- Adds a line to the sum of the lines and the sum of their discounts. -/
def addLine (sums : Int × Int) (l : CartLine) : Priced (Int × Int) :=
  if l.quantity ≤ 0 then Outcome.reject (.quantity l.product)
  else do
    let gross ← fitting (l.unitPrice * l.quantity)
    if l.discount < 0 then Outcome.reject (.negativeLineDiscount l.product)
    else if l.discount > gross ∧ l.discount > 0 then Outcome.reject (.excessiveLineDiscount l.product)
    else
      let subtotal ← fitting (sums.1 + gross)
      let discounts ← fitting (sums.2 + l.discount)
      pure (subtotal, discounts)

/-- The sum of the lines and the sum of their discounts. -/
def sumLines (lines : List CartLine) : Priced (Int × Int) := lines.foldlM addLine (0, 0)

/-- The totals with discount and tax entered by hand. -/
def manualTotals (subtotal : Int) (o : ManualOverride) : Priced Totals :=
  if o.discount < 0 ∨ o.tax < 0 then Outcome.reject .negativeOverride
  else if o.discount > subtotal then Outcome.reject .excessiveDiscount
  else do
    let net ← Cents.exact (subtotal - o.discount)
    let grand ← fitting (net + o.tax)
    pure ⟨subtotal, o.discount, o.tax, grand⟩

/-- The discount of a cart on what the line discounts left. -/
def cartDiscount (left : Int) : CartDiscount → Priced Int
  | .none => .ok 0
  | .percentage bps =>
    if bps > Cents.wholeBps then Outcome.reject (.percentage bps) else .ok (Cents.portion left bps)
  | .fixed cents => if cents < 0 then Outcome.reject .negativeCartDiscount else .ok cents

/-- The totals with computed discount and tax. -/
def automaticTotals (subtotal lineDiscounts : Int) (discount : CartDiscount) (rate : TaxRate) :
    Priced Totals := do
  let left ← Cents.exact (subtotal - lineDiscounts)
  let ofCart ← cartDiscount left discount
  let discounts ← Cents.exact (lineDiscounts + ofCart)
  if discounts > subtotal then Outcome.reject .excessiveDiscount
  else
    let taxable ← Cents.exact (subtotal - discounts)
    let tax := Cents.portion taxable rate.bps
    let grand ← fitting (taxable + tax)
    pure ⟨subtotal, discounts, tax, grand⟩

/-- The totals of a cart. -/
def computeTotals (lines : List CartLine) (discount : CartDiscount) (rate : TaxRate)
    (manual : Option ManualOverride) : Priced Totals :=
  if !rate.isValid then Outcome.reject (.taxRate rate.bps)
  else do
    let (subtotal, lineDiscounts) ← sumLines lines
    if subtotal < 0 then Outcome.reject .negativeSubtotal
    else
      match manual with
      | some o => manualTotals subtotal o
      | none => automaticTotals subtotal lineDiscounts discount rate

/-- A problem of pricing is a rejection. -/
def Problem.rejection (p : Problem) : Rejection := .unpriceable p.message

end Pricing

end Till
