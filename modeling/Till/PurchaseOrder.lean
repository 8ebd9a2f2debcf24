import Till.Cents
import Till.Instant.Json
import Till.Rejection

/-!
# Purchase orders

A purchase order lists how much of each product a supplier is to deliver.  Goods arrive in
receipts.  `PurchaseOrder.receive` applies a receipt: every line of it is compared with the order
as it was before the receipt, and only when all pass are the quantities added.
-/

namespace Till

/-- How far an order has been received. -/
inductive OrderStatus where
  /-- Nothing yet. -/
  | «open»
  /-- A part. -/
  | partiallyReceived
  /-- Everything. -/
  | received
  deriving DecidableEq, Repr

namespace OrderStatus

/-- The name of the status. -/
def text : OrderStatus → String
  | .open => "open"
  | .partiallyReceived => "partially_received"
  | .received => "received"

/-- The status of a name. -/
def ofText? : String → Option OrderStatus
  | "open" => some .open
  | "partially_received" => some .partiallyReceived
  | "received" => some .received
  | _ => none

/-- Reads a status. -/
def ofJson? (j : Json) : Option OrderStatus := j.name? >>= ofText?

end OrderStatus

/-- A line of an order. -/
structure OrderLine where
  /-- The product ordered. -/
  product : String
  /-- How many units are ordered. -/
  ordered : Int
  /-- How many units were received. -/
  received : Int
  /-- The cost of a unit in cents. -/
  unitCost : Int
  deriving DecidableEq, Repr

/-- Units that arrived. -/
structure ReceiptLine where
  /-- The product. -/
  product : String
  /-- How many units. -/
  quantity : Int
  deriving DecidableEq, Repr

/-- An order with a supplier. -/
structure PurchaseOrder where
  /-- The identifier. -/
  id : String
  /-- The store. -/
  store : String
  /-- The supplier. -/
  supplier : String
  /-- How far it has been received. -/
  status : OrderStatus
  /-- The lines. -/
  lines : List OrderLine
  /-- Who ordered. -/
  createdBy : String
  /-- When it was ordered. -/
  createdAt : Instant
  /-- When something last arrived. -/
  updatedAt : Instant
  deriving DecidableEq, Repr

namespace OrderLine

/-- How many units are still to arrive. -/
def outstanding (l : OrderLine) : Result Int := Cents.exact (l.ordered - l.received)

/-- The line as JSON. -/
def toJson (l : OrderLine) : Json :=
  .obj [("ordered_quantity", .int l.ordered), ("product_id", .str l.product),
    ("received_quantity", .int l.received), ("unit_cost_cents", .int l.unitCost)]

/-- Reads a line. -/
def ofJson? (j : Json) : Option OrderLine := do
  let m ← j.members? ["product_id", "ordered_quantity", "received_quantity", "unit_cost_cents"]
  some {
    product := ← (Json.member "product_id" m).text?
    ordered := ← (Json.member "ordered_quantity" m).int?
    received := ← (Json.member "received_quantity" m).int?
    unitCost := ← (Json.member "unit_cost_cents" m).int? }

end OrderLine

namespace ReceiptLine

/-- Reads a line of a receipt. -/
def ofJson? (j : Json) : Option ReceiptLine := do
  let m ← j.members? ["product_id", "quantity"]
  some {
    product := ← (Json.member "product_id" m).text?
    quantity := ← (Json.member "quantity" m).int? }

end ReceiptLine

namespace PurchaseOrder

/-- The name of a line of an order in messages. -/
def lineName (order product : String) : String := order ++ "/" ++ product

/-- Compares a line of a receipt with the order. -/
def checkReceiptLine (o : PurchaseOrder) (r : ReceiptLine) : Result Unit :=
  match o.lines.find? fun l => l.product == r.product with
  | none => Outcome.reject (.notFound "Purchase order line" (lineName o.id r.product))
  | some l => do
    let outstanding ← l.outstanding
    Outcome.require (decide (r.quantity ≤ outstanding))
      (.overReceipt o.id r.product outstanding r.quantity)

/-- Compares a receipt with the order. -/
def checkReceipt (o : PurchaseOrder) : List ReceiptLine → Result Unit
  | [] => .ok ()
  | r :: rest => do
    o.checkReceiptLine r
    o.checkReceipt rest

/-- The lines after units of a product arrived. -/
def receiveLine (r : ReceiptLine) : List OrderLine → Result (List OrderLine)
  | [] => .ok []
  | l :: rest =>
    if l.product == r.product then do
      let received ← Cents.exact (l.received + r.quantity)
      pure ({ l with received } :: rest)
    else do
      let rest ← receiveLine r rest
      pure (l :: rest)

/-- Whether nothing is outstanding. -/
def isComplete : List OrderLine → Result Bool
  | [] => .ok true
  | l :: rest => do
    let outstanding ← l.outstanding
    if outstanding = 0 then isComplete rest else pure false

/-- Applies a receipt to an order. -/
def receive (o : PurchaseOrder) (receipt : List ReceiptLine) (at' : Instant) :
    Result PurchaseOrder :=
  if o.status = .received then Outcome.reject (.orderClosed o.id)
  else do
    o.checkReceipt receipt
    let lines ← receipt.foldlM (fun lines r => receiveLine r lines) o.lines
    let complete ← isComplete lines
    pure { o with
      lines
      status := if complete then .received else .partiallyReceived
      updatedAt := at' }

/-- The order as JSON. -/
def toJson (o : PurchaseOrder) : Json :=
  .obj [("created_at", o.createdAt.toJson), ("created_by", .str o.createdBy), ("id", .str o.id),
    ("lines", .arr (o.lines.map OrderLine.toJson)), ("status", .str o.status.text),
    ("store_id", .str o.store), ("supplier_id", .str o.supplier),
    ("updated_at", o.updatedAt.toJson)]

/-- Reads an order. -/
def ofJson? (j : Json) : Option PurchaseOrder := do
  let m ← j.members? ["id", "store_id", "supplier_id", "status", "lines", "created_by",
    "created_at", "updated_at"]
  some {
    id := ← (Json.member "id" m).text?
    store := ← (Json.member "store_id" m).text?
    supplier := ← (Json.member "supplier_id" m).text?
    status := ← OrderStatus.ofJson? (Json.member "status" m)
    lines := ← (Json.member "lines" m).list? OrderLine.ofJson?
    createdBy := ← (Json.member "created_by" m).text?
    createdAt := ← Instant.ofJson? (Json.member "created_at" m)
    updatedAt := ← Instant.ofJson? (Json.member "updated_at" m) }

end PurchaseOrder

end Till
