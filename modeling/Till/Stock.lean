import Till.Cents
import Till.Instant.Json
import Till.Rejection

/-!
# Stock

Stock is never counted in place: it is the sum of the movements of a product.  A movement is never
changed; what is undone is undone by another movement.
-/

namespace Till

/-- Why stock moved. -/
inductive MovementReason where
  /-- Units were sold. -/
  | sale
  /-- A sale was voided. -/
  | voidReversal
  /-- A sale was refunded. -/
  | refundReversal
  /-- Units were received. -/
  | receive
  deriving DecidableEq, Repr

namespace MovementReason

/-- The name of the reason. -/
def text : MovementReason → String
  | sale => "sale"
  | voidReversal => "void_reversal"
  | refundReversal => "refund_reversal"
  | receive => "receive"

/-- The reason of a name. -/
def ofText? : String → Option MovementReason
  | "sale" => some sale
  | "void_reversal" => some voidReversal
  | "refund_reversal" => some refundReversal
  | "receive" => some receive
  | _ => none

/-- Reads a reason. -/
def ofJson? (j : Json) : Option MovementReason := j.name? >>= ofText?

end MovementReason

/-- A change of the stock of a product at a store. -/
structure StockMovement where
  /-- The identifier. -/
  id : String
  /-- The product. -/
  product : String
  /-- The store. -/
  store : String
  /-- The change, negative for units that leave. -/
  delta : Int
  /-- Why. -/
  reason : MovementReason
  /-- The transaction or purchase order behind it. -/
  reference : String
  /-- When. -/
  createdAt : Instant
  deriving DecidableEq, Repr

namespace StockMovement

/-- The movement as JSON. -/
def toJson (m : StockMovement) : Json :=
  .obj [("created_at", m.createdAt.toJson), ("delta", .int m.delta), ("id", .str m.id),
    ("product_id", .str m.product), ("reason", .str m.reason.text),
    ("reference_id", .str m.reference), ("store_id", .str m.store)]

/-- Reads a movement. -/
def ofJson? (j : Json) : Option StockMovement := do
  let m ← j.members? ["id", "product_id", "store_id", "delta", "reason", "reference_id",
    "created_at"]
  some {
    id := ← (Json.member "id" m).text?
    product := ← (Json.member "product_id" m).text?
    store := ← (Json.member "store_id" m).text?
    delta := ← (Json.member "delta" m).int?
    reason := ← MovementReason.ofJson? (Json.member "reason" m)
    reference := ← (Json.member "reference_id" m).text?
    createdAt := ← Instant.ofJson? (Json.member "created_at" m) }

end StockMovement

/-- The stock that movements lead to, added up in their order. -/
def derivedStock (movements : List StockMovement) : Result Int :=
  Cents.total (movements.map (·.delta))

end Till
