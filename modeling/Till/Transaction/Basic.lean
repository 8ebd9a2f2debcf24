import Till.Actor
import Till.Instant.Json
import Till.Pricing

/-!
# Transactions

A `Transaction` is a sale: its lines with prices frozen when it was made, its totals, its status
and what was refunded.

* `Transaction.ofCart` : checks and prices a cart, giving a pending transaction;
* `Transaction.complete` : pending becomes completed;
* `Transaction.void` : completed becomes voided, within a window after the sale and as long as
  nothing was refunded.
-/

namespace Till

/-- Where the totals of a transaction come from. -/
inductive PricingSource where
  /-- Computed. -/
  | automatic
  /-- Entered by hand. -/
  | manual
  deriving DecidableEq, Repr

/-- Where the totals of a transaction come from, with reason and approval if they were entered by
hand. -/
structure PricingRecord where
  /-- Computed or entered by hand. -/
  source : PricingSource := .automatic
  /-- Why they were entered by hand. -/
  reason : Option String := none
  /-- Who approved that. -/
  approvedBy : Option String := none
  deriving DecidableEq, Repr

/-- A line of a transaction. -/
structure LineItem where
  /-- The position within the transaction, from 1. -/
  number : Int
  /-- The product sold. -/
  product : String
  /-- How many units were sold. -/
  quantity : Int
  /-- The price of a unit in cents. -/
  unitPrice : Int
  /-- The discount on this line in cents. -/
  discount : Int
  deriving DecidableEq, Repr

/-- A sale. -/
structure Transaction where
  /-- The identifier. -/
  id : String
  /-- The store. -/
  store : String
  /-- The cashier who sold. -/
  cashier : String
  /-- The shift in which it was sold. -/
  shift : String
  /-- The key under which it was requested. -/
  key : String
  /-- The lines. -/
  lines : List LineItem
  /-- The sum of the lines before discounts. -/
  subtotal : Int
  /-- All discounts together. -/
  discount : Int
  /-- The tax. -/
  tax : Int
  /-- What the customer paid. -/
  grand : Int
  /-- The tax rate in basis points. -/
  taxRate : Nat
  /-- How it was paid. -/
  payment : PaymentMethod
  /-- The status. -/
  status : TransactionStatus
  /-- Where the totals come from. -/
  pricing : PricingRecord
  /-- What was refunded so far. -/
  refunded : Int
  /-- When it was sold. -/
  createdAt : Instant
  /-- When it was voided. -/
  voidedAt : Option Instant
  /-- Why it was voided. -/
  voidReason : Option String
  /-- Who voided it. -/
  voidedBy : Option String
  deriving DecidableEq, Repr

namespace PricingSource

/-- The name of the source. -/
def text : PricingSource → String
  | automatic => "automatic"
  | manual => "manual"

/-- The source of a name. -/
def ofText? : String → Option PricingSource
  | "automatic" => some automatic
  | "manual" => some manual
  | _ => none

/-- Reads a source. -/
def ofJson? (j : Json) : Option PricingSource := j.name? >>= ofText?

end PricingSource

namespace PricingRecord

/-- The record as JSON. -/
def toJson (r : PricingRecord) : Json :=
  .obj [("approved_by", Json.ofText? r.approvedBy), ("override_reason", Json.ofText? r.reason),
    ("source", .str r.source.text)]

/-- Reads a record. -/
def ofJson? (j : Json) : Option PricingRecord := do
  let m ← j.members? ["source", "override_reason", "approved_by"]
  some {
    source := ← PricingSource.ofJson? (Json.member "source" m)
    reason := ← (Json.member "override_reason" m).nullable? Json.text?
    approvedBy := ← (Json.member "approved_by" m).nullable? Json.text? }

end PricingRecord

namespace LineItem

/-- The total of a line before its discount. -/
def gross (l : LineItem) : Result Int := Cents.exact (l.unitPrice * l.quantity)

/-- A cart line as the line of the given number. -/
def ofCartLine (number : Nat) (l : CartLine) : LineItem :=
  ⟨number, l.product, l.quantity, l.unitPrice, l.discount⟩

/-- The line as JSON. -/
def toJson (l : LineItem) : Json :=
  .obj [("line_discount_cents", .int l.discount), ("line_no", .int l.number),
    ("product_id", .str l.product), ("quantity", .int l.quantity),
    ("unit_price_cents", .int l.unitPrice)]

/-- Reads a line. -/
def ofJson? (j : Json) : Option LineItem := do
  let m ← j.members?
    ["line_no", "product_id", "quantity", "unit_price_cents", "line_discount_cents"]
  some {
    number := ← (Json.member "line_no" m).int?
    product := ← (Json.member "product_id" m).text?
    quantity := ← (Json.member "quantity" m).int?
    unitPrice := ← (Json.member "unit_price_cents" m).int?
    discount := ← (Json.member "line_discount_cents" m).int? }

end LineItem

/-- What a cart needs besides itself to become a transaction. -/
structure SaleContext where
  /-- The identifier of the transaction. -/
  id : String
  /-- Who sells. -/
  actor : Actor
  /-- The shift in which it is sold. -/
  shift : String
  /-- The key of the request. -/
  key : String
  /-- The tax rate of the store. -/
  rate : TaxRate
  /-- The time. -/
  at' : Instant

namespace Transaction

/-- The record of where the totals of a cart come from; totals entered by hand need an elevated
actor. -/
def pricingRecord (actor : Actor) : Option ManualOverride → Result PricingRecord
  | some o => do
    actor.requireElevated "override pricing"
    pure ⟨.manual, some o.reason, some actor.approver⟩
  | none => pure {}

/-- The lines of a cart, numbered from the given number on. -/
def numberedLines (number : Nat) : List CartLine → List LineItem
  | [] => []
  | l :: rest => LineItem.ofCartLine number l :: numberedLines (number + 1) rest

/-- Checks and prices a cart. -/
def ofCart (cart : Cart) (c : SaleContext) : Result Transaction := do
  cart.check.run
  let pricing ← pricingRecord c.actor cart.manual
  let totals ← (Pricing.computeTotals cart.lines cart.discount c.rate cart.manual).mapRejection
    Pricing.Problem.rejection
  pure {
    id := c.id
    store := c.actor.store
    cashier := c.actor.cashier
    shift := c.shift
    key := c.key
    lines := numberedLines 1 cart.lines
    subtotal := totals.subtotal
    discount := totals.discount
    tax := totals.tax
    grand := totals.grand
    taxRate := c.rate.bps
    payment := cart.payment
    status := .pending
    pricing
    refunded := 0
    createdAt := c.at'
    voidedAt := none
    voidReason := none
    voidedBy := none }

/-- What can still be refunded. -/
def refundable (t : Transaction) : Result Int := Cents.exact (t.grand - t.refunded)

/-- The refusal of an operation that the status does not allow. -/
def wrongStatus (t : Transaction) (operation : String) : Rejection :=
  .wrongStatus t.id t.status operation

/-- Completes a pending transaction. -/
def complete (t : Transaction) : Result Transaction :=
  if t.status.canBecome .completed then pure { t with status := .completed }
  else Outcome.reject (t.wrongStatus "complete")

/-- Refuses to void unless the transaction is completed, nothing was refunded and the window, in
nanoseconds and with its end, is not over. -/
def checkVoidable (t : Transaction) (now : Instant) (window : Int) : Result Unit :=
  if t.status = .voided then Outcome.reject (.alreadyVoided t.id)
  else if t.status = .completed ∧ t.refunded = 0 then
    Outcome.require (decide (now.since t.createdAt ≤ window))
      (.voidWindowExpired t.id (window / Instant.perSecond))
  else Outcome.reject (t.wrongStatus "void")

/-- Voids a completed transaction. -/
def void (t : Transaction) (reason approver : String) (now : Instant) (window : Int) :
    Result Transaction := do
  (Field.reason "void_reason" reason).run
  t.checkVoidable now window
  pure { t with
    status := .voided
    voidedAt := some now
    voidReason := some reason
    voidedBy := some approver }

/-- The transaction as JSON. -/
def toJson (t : Transaction) : Json :=
  .obj [("cashier_id", .str t.cashier),
    ("created_at", t.createdAt.toJson),
    ("discount_total_cents", .int t.discount),
    ("grand_total_cents", .int t.grand),
    ("id", .str t.id),
    ("idempotency_key", .str t.key),
    ("lines", .arr (t.lines.map LineItem.toJson)),
    ("payment_method", t.payment.toJson),
    ("pricing", t.pricing.toJson),
    ("refunded_cents", .int t.refunded),
    ("shift_id", .str t.shift),
    ("status", t.status.toJson),
    ("store_id", .str t.store),
    ("subtotal_cents", .int t.subtotal),
    ("tax_rate_bps", .int t.taxRate),
    ("tax_total_cents", .int t.tax),
    ("void_reason", Json.ofText? t.voidReason),
    ("voided_at", Instant.optionToJson t.voidedAt),
    ("voided_by", Json.ofText? t.voidedBy)]

/-- Reads a transaction. -/
def ofJson? (j : Json) : Option Transaction := do
  let m ← j.members? ["id", "store_id", "cashier_id", "shift_id", "idempotency_key", "lines",
    "subtotal_cents", "discount_total_cents", "tax_total_cents", "grand_total_cents",
    "tax_rate_bps", "payment_method", "status", "pricing", "refunded_cents", "created_at",
    "voided_at", "void_reason", "voided_by"]
  some {
    id := ← (Json.member "id" m).text?
    store := ← (Json.member "store_id" m).text?
    cashier := ← (Json.member "cashier_id" m).text?
    shift := ← (Json.member "shift_id" m).text?
    key := ← (Json.member "idempotency_key" m).text?
    lines := ← (Json.member "lines" m).list? LineItem.ofJson?
    subtotal := ← (Json.member "subtotal_cents" m).int?
    discount := ← (Json.member "discount_total_cents" m).int?
    tax := ← (Json.member "tax_total_cents" m).int?
    grand := ← (Json.member "grand_total_cents" m).int?
    taxRate := ← (Json.member "tax_rate_bps" m).nat? Json.greatest32
    payment := ← PaymentMethod.ofJson? (Json.member "payment_method" m)
    status := ← TransactionStatus.ofJson? (Json.member "status" m)
    pricing := ← PricingRecord.ofJson? (Json.member "pricing" m)
    refunded := ← (Json.member "refunded_cents" m).int?
    createdAt := ← Instant.ofJson? (Json.member "created_at" m)
    voidedAt := ← (Json.member "voided_at" m).nullable? Instant.ofJson?
    voidReason := ← (Json.member "void_reason" m).nullable? Json.text?
    voidedBy := ← (Json.member "voided_by" m).nullable? Json.text? }

end Transaction

end Till
