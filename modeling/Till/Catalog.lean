import Till.Instant.Json

/-!
# Products and suppliers
-/

namespace Till

/-- A product sold at a store. -/
structure Product where
  /-- The identifier. -/
  id : String
  /-- The store. -/
  store : String
  /-- The stock keeping unit, which names the product within its store. -/
  sku : String
  /-- The name. -/
  name : String
  /-- The price of a unit in cents. -/
  unitPrice : Int
  /-- Whether it is sold. -/
  isActive : Bool
  /-- When it was registered. -/
  createdAt : Instant
  deriving DecidableEq, Repr

/-- A supplier of a store. -/
structure Supplier where
  /-- The identifier. -/
  id : String
  /-- The store. -/
  store : String
  /-- The name. -/
  name : String
  /-- How to reach the supplier. -/
  contact : Option String
  /-- When it was registered. -/
  createdAt : Instant
  deriving DecidableEq, Repr

namespace Product

/-- The product as JSON. -/
def toJson (p : Product) : Json :=
  .obj [("created_at", p.createdAt.toJson), ("id", .str p.id), ("is_active", .bool p.isActive),
    ("name", .str p.name), ("sku", .str p.sku), ("store_id", .str p.store),
    ("unit_price_cents", .int p.unitPrice)]

/-- Reads a product. -/
def ofJson? (j : Json) : Option Product := do
  let m ← j.members? ["id", "store_id", "sku", "name", "unit_price_cents", "is_active",
    "created_at"]
  some {
    id := ← (Json.member "id" m).text?
    store := ← (Json.member "store_id" m).text?
    sku := ← (Json.member "sku" m).text?
    name := ← (Json.member "name" m).text?
    unitPrice := ← (Json.member "unit_price_cents" m).int?
    isActive := ← (Json.member "is_active" m).bool?
    createdAt := ← Instant.ofJson? (Json.member "created_at" m) }

end Product

namespace Supplier

/-- The supplier as JSON. -/
def toJson (s : Supplier) : Json :=
  .obj [("contact", Json.ofText? s.contact), ("created_at", s.createdAt.toJson),
    ("id", .str s.id), ("name", .str s.name), ("store_id", .str s.store)]

/-- Reads a supplier. -/
def ofJson? (j : Json) : Option Supplier := do
  let m ← j.members? ["id", "store_id", "name", "contact", "created_at"]
  some {
    id := ← (Json.member "id" m).text?
    store := ← (Json.member "store_id" m).text?
    name := ← (Json.member "name" m).text?
    contact := ← (Json.member "contact" m).nullable? Json.text?
    createdAt := ← Instant.ofJson? (Json.member "created_at" m) }

end Supplier

end Till
