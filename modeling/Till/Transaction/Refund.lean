import Till.Transaction.Basic

/-!
# Refunds

A refund pays back a part of what a transaction cost and puts units back into stock.  The units of
a transaction are numbered in line order.  When `refunded` cents out of `grand` have been paid
back, a unit is covered if the gross price of all units up to it, as a part of the subtotal, is at
most `refunded` as a part of `grand`:

`gross * grand ≤ refunded * subtotal`, and nothing is covered while nothing is refunded.

* `Transaction.coveredUnits` : the number of covered units of each line;
* `Transaction.restock` : the units that a refund newly covers;
* `Transaction.refund` : refunds an amount; the transaction is refunded once all is paid back.
-/

namespace Till

/-- Units of a line that go back into stock. -/
structure RestockLine where
  /-- The position of the line within its transaction. -/
  number : Int
  /-- The product. -/
  product : String
  /-- How many units. -/
  quantity : Int
  deriving DecidableEq, Repr

/-- The record of a refund. -/
structure Refund where
  /-- The identifier. -/
  id : String
  /-- The transaction paid back. -/
  transaction : String
  /-- The store. -/
  store : String
  /-- The amount in cents. -/
  amount : Int
  /-- Why it was paid back. -/
  reason : String
  /-- The cashier who paid back. -/
  cashier : String
  /-- The shift in which it was paid back. -/
  shift : String
  /-- Who approved it. -/
  approvedBy : String
  /-- When it was paid back. -/
  createdAt : Instant
  deriving DecidableEq, Repr

namespace RestockLine

/-- The units as JSON. -/
def toJson (l : RestockLine) : Json :=
  .obj [("line_no", .int l.number), ("product_id", .str l.product), ("quantity", .int l.quantity)]

/-- Reads units of a line. -/
def ofJson? (j : Json) : Option RestockLine := do
  let m ← j.members? ["line_no", "product_id", "quantity"]
  some {
    number := ← (Json.member "line_no" m).int?
    product := ← (Json.member "product_id" m).text?
    quantity := ← (Json.member "quantity" m).int? }

end RestockLine

namespace Refund

/-- The refund as JSON. -/
def toJson (r : Refund) : Json :=
  .obj [("amount_cents", .int r.amount), ("approved_by", .str r.approvedBy),
    ("cashier_id", .str r.cashier), ("created_at", r.createdAt.toJson), ("id", .str r.id),
    ("reason", .str r.reason), ("shift_id", .str r.shift), ("store_id", .str r.store),
    ("transaction_id", .str r.transaction)]

/-- Reads a refund. -/
def ofJson? (j : Json) : Option Refund := do
  let m ← j.members? ["id", "transaction_id", "store_id", "amount_cents", "reason", "cashier_id",
    "shift_id", "approved_by", "created_at"]
  some {
    id := ← (Json.member "id" m).text?
    transaction := ← (Json.member "transaction_id" m).text?
    store := ← (Json.member "store_id" m).text?
    amount := ← (Json.member "amount_cents" m).int?
    reason := ← (Json.member "reason" m).text?
    cashier := ← (Json.member "cashier_id" m).text?
    shift := ← (Json.member "shift_id" m).text?
    approvedBy := ← (Json.member "approved_by" m).text?
    createdAt := ← Instant.ofJson? (Json.member "created_at" m) }

/-- The rule for the reason of a refund. -/
def checkReason (reason : String) : Result Unit := (Field.reason "refund_reason" reason).run

end Refund

namespace Transaction

/-- The greatest number that 128 bits hold; the products compared for coverage have to fit. -/
def greatestProduct : Int := 170141183460469231731687303715884105727

/-- The least number that 128 bits hold. -/
def leastProduct : Int := -170141183460469231731687303715884105728

/-- Whether the unit that brings the gross price to `gross` is covered. -/
def isCovered (t : Transaction) (refunded gross : Int) : Result Bool :=
  if refunded ≤ 0 then .ok false
  else if leastProduct ≤ gross * t.grand ∧ gross * t.grand ≤ greatestProduct then
    .ok (decide (gross * t.grand ≤ refunded * t.subtotal))
  else .error .overflow

/-- Counts the covered units among so many units of one price, given the gross price of the units
before and the units covered so far; gives the gross price after them and the new count. -/
def countCovered (t : Transaction) (refunded price : Int) : Nat → Int → Int → Result (Int × Int)
  | 0, gross, covered => .ok (gross, covered)
  | units + 1, gross, covered =>
    match t.isCovered refunded (gross + price) with
    | .ok b =>
      countCovered t refunded price units (gross + price) (if b then covered + 1 else covered)
    | .error e => .error e

/-- The covered units of each line, given the gross price of the lines before. -/
def coveredFrom (t : Transaction) (refunded : Int) : Int → List LineItem → Result (List Int)
  | _, [] => .ok []
  | gross, l :: rest => do
    let (gross, covered) ← countCovered t refunded l.unitPrice l.quantity.toNat gross 0
    let others ← coveredFrom t refunded gross rest
    pure (covered :: others)

/-- The number of units of each line that are covered when so much was refunded. -/
def coveredUnits (t : Transaction) (refunded : Int) : Result (List Int) :=
  coveredFrom t refunded 0 t.lines

/-- The lines with the units newly covered, those without any left out. -/
def newlyCovered : List LineItem → List Int → List Int → List RestockLine
  | l :: lines, before :: befores, after :: afters =>
    if after - before > 0 then
      ⟨l.number, l.product, after - before⟩ :: newlyCovered lines befores afters
    else newlyCovered lines befores afters
  | _, _, _ => []

/-- The units that go back into stock when the refunded amount grows from `before` to `after`. -/
def restock (t : Transaction) (before after : Int) : Result (List RestockLine) := do
  let coveredBefore ← t.coveredUnits before
  let coveredAfter ← t.coveredUnits after
  pure (newlyCovered t.lines coveredBefore coveredAfter)

/-- Refuses to refund unless the transaction is completed. -/
def checkRefundable (t : Transaction) (amount : Int) : Result Unit :=
  match t.status with
  | .completed => .ok ()
  | .refunded => Outcome.reject (.refundExceedsTotal t.id amount 0)
  | _ => Outcome.reject (t.wrongStatus "refund")

/-- Refunds an amount: the transaction afterwards and the units that go back into stock. -/
def refund (t : Transaction) (amount : Int) : Result (Transaction × List RestockLine) := do
  (Field.positive "amount" amount).run
  t.checkRefundable amount
  let refundable ← t.refundable
  if amount > refundable then Outcome.reject (.refundExceedsTotal t.id amount refundable)
  else
    let after ← Cents.exact (t.refunded + amount)
    let units ← t.restock t.refunded after
    pure ({ t with
      refunded := after
      status := if after = t.grand then .refunded else t.status }, units)

end Transaction

end Till
