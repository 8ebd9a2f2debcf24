import Till.Payment
import Till.Rejection

/-!
# Carts

A cart is what a terminal submits to be sold: lines with prices taken when they were added, a
discount on the whole, a payment method, and perhaps totals entered by hand.  `Cart.check` checks
its fields; whether the cart can be priced is decided by `Till.Pricing`.
-/

namespace Till

/-- A line of a cart. -/
structure CartLine where
  /-- The product sold. -/
  product : String
  /-- How many units are sold. -/
  quantity : Int
  /-- The price of a unit in cents. -/
  unitPrice : Int
  /-- The discount on this line in cents. -/
  discount : Int := 0
  deriving DecidableEq, Repr

/-- A discount on what is left after the line discounts. -/
inductive CartDiscount where
  /-- No discount. -/
  | none
  /-- A share in basis points. -/
  | percentage (bps : Nat)
  /-- An amount in cents. -/
  | fixed (cents : Int)
  deriving DecidableEq, Repr

/-- Discount and tax entered by hand, in place of the computed ones. -/
structure ManualOverride where
  /-- The discount in cents. -/
  discount : Int
  /-- The tax in cents. -/
  tax : Int
  /-- Why the totals were entered by hand. -/
  reason : String
  deriving DecidableEq, Repr

/-- What a terminal submits to be sold. -/
structure Cart where
  /-- The lines. -/
  lines : List CartLine
  /-- The discount on the whole. -/
  discount : CartDiscount := .none
  /-- How the sale is paid. -/
  payment : PaymentMethod
  /-- Totals entered by hand, if any. -/
  manual : Option ManualOverride := none
  deriving DecidableEq, Repr

namespace CartLine

/-- The line as JSON. -/
def toJson (l : CartLine) : Json :=
  .obj [("line_discount_cents", .int l.discount), ("product_id", .str l.product),
    ("quantity", .int l.quantity), ("unit_price_cents", .int l.unitPrice)]

/-- Reads a line. -/
def ofJson? (j : Json) : Option CartLine := do
  let m ← j.members? ["product_id", "quantity", "unit_price_cents", "line_discount_cents"] 1
  some {
    product := ← (Json.member "product_id" m).text?
    quantity := ← (Json.member "quantity" m).int?
    unitPrice := ← (Json.member "unit_price_cents" m).int?
    discount := ← Json.memberOr "line_discount_cents" 0 Json.int? m }

end CartLine

namespace CartDiscount

/-- The discount as JSON. -/
def toJson : CartDiscount → Json
  | none => .obj [("type", .str "none")]
  | percentage bps => .obj [("bps", .int bps), ("type", .str "percentage")]
  | fixed cents => .obj [("cents", .int cents), ("type", .str "fixed")]

/-- The fields of a discount of the given type. -/
def fields : String → List String
  | "percentage" => ["bps"]
  | "fixed" => ["cents"]
  | _ => []

/-- Reads a discount. -/
def ofJson? (j : Json) : Option CartDiscount := do
  let (type, m) ← j.choice? "type" fields
  match type with
  | "none" => some none
  | "percentage" => (Json.member "bps" m).nat? Json.greatest32 |>.map percentage
  | "fixed" => (Json.member "cents" m).int?.map fixed
  | _ => Option.none

end CartDiscount

namespace ManualOverride

/-- The override as JSON. -/
def toJson (o : ManualOverride) : Json :=
  .obj [("discount_cents", .int o.discount), ("reason", .str o.reason), ("tax_cents", .int o.tax)]

/-- Reads an override. -/
def ofJson? (j : Json) : Option ManualOverride := do
  let m ← j.members? ["discount_cents", "tax_cents", "reason"]
  some {
    discount := ← (Json.member "discount_cents" m).int?
    tax := ← (Json.member "tax_cents" m).int?
    reason := ← (Json.member "reason" m).text? }

end ManualOverride

namespace Cart

/-- The products in the order of the lines. -/
def products (c : Cart) : List String := c.lines.map (·.product)

/-- The rules for a line. -/
def checkLine (l : CartLine) : Field.Check := do
  Field.identifier "product_id" l.product
  Field.quantity l.quantity
  Field.price l.unitPrice

/-- The rules for the fields of a cart. -/
def check (c : Cart) : Field.Check := do
  Field.lineCount c.lines.length
  Field.distinct "product_id" c.products
  Field.each checkLine c.lines
  match c.manual with
  | some o => Field.reason "override_reason" o.reason
  | none => .ok ()

/-- The cart as JSON. -/
def toJson (c : Cart) : Json :=
  .obj [("discount", c.discount.toJson),
    ("lines", .arr (c.lines.map CartLine.toJson)),
    ("manual_override", match c.manual with
      | some o => o.toJson
      | none => .null),
    ("payment_method", c.payment.toJson)]

/-- Reads a cart. -/
def ofJson? (j : Json) : Option Cart := do
  let m ← j.members? ["lines", "discount", "payment_method", "manual_override"] 1
  some {
    lines := ← (Json.member "lines" m).list? CartLine.ofJson?
    discount := ← Json.memberOr "discount" CartDiscount.none CartDiscount.ofJson? m
    payment := ← PaymentMethod.ofJson? (Json.member "payment_method" m)
    manual := ← (Json.member "manual_override" m).nullable? ManualOverride.ofJson? }

end Cart

end Till
