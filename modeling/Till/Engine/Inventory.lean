import Till.Engine.Basic
import Till.Store.Catalog
import Till.Store.Orders

/-!
# Working with products, suppliers and orders

Everybody may register products and suppliers and receive what was ordered; ordering needs an
elevated actor.  Names, stock keeping units and contacts are stored without the blanks at their
ends.
-/

namespace Till

/-- A product to be registered. -/
structure NewProduct where
  /-- The stock keeping unit. -/
  sku : String
  /-- The name. -/
  name : String
  /-- The price of a unit in cents. -/
  unitPrice : Int

/-- A supplier to be registered. -/
structure NewSupplier where
  /-- The name. -/
  name : String
  /-- How to reach the supplier. -/
  contact : Option String

/-- A line of an order to be made. -/
structure NewOrderLine where
  /-- The product. -/
  product : String
  /-- How many units. -/
  quantity : Int
  /-- The cost of a unit in cents. -/
  unitCost : Int

/-- An order to be made. -/
structure NewOrder where
  /-- The supplier. -/
  supplier : String
  /-- The lines. -/
  lines : List NewOrderLine

/-- Reads a product to be registered. -/
def NewProduct.ofJson? (j : Json) : Option NewProduct := do
  let m ← j.members? ["sku", "name", "unit_price_cents"]
  some {
    sku := ← (Json.member "sku" m).text?
    name := ← (Json.member "name" m).text?
    unitPrice := ← (Json.member "unit_price_cents" m).int? }

/-- Reads a supplier to be registered. -/
def NewSupplier.ofJson? (j : Json) : Option NewSupplier := do
  let m ← j.members? ["name", "contact"] 1
  some {
    name := ← (Json.member "name" m).text?
    contact := ← (Json.member "contact" m).nullable? Json.text? }

/-- Reads a line of an order to be made. -/
def NewOrderLine.ofJson? (j : Json) : Option NewOrderLine := do
  let m ← j.members? ["product_id", "quantity", "unit_cost_cents"]
  some {
    product := ← (Json.member "product_id" m).text?
    quantity := ← (Json.member "quantity" m).int?
    unitCost := ← (Json.member "unit_cost_cents" m).int? }

/-- Reads an order to be made. -/
def NewOrder.ofJson? (j : Json) : Option NewOrder := do
  let m ← j.members? ["supplier_id", "lines"]
  some {
    supplier := ← (Json.member "supplier_id" m).text?
    lines := ← (Json.member "lines" m).list? NewOrderLine.ofJson? }

namespace NewProduct

/-- The rules for a product to be registered. -/
def check (p : NewProduct) : Field.Check := do
  Field.sku p.sku
  Field.name "name" p.name
  Field.price p.unitPrice

/-- The product as it is registered. -/
def register (p : NewProduct) (id store : String) (now : Instant) : Product :=
  ⟨id, store, Text.trim p.sku, Text.trim p.name, p.unitPrice, true, now⟩

end NewProduct

namespace NewSupplier

/-- The rules for a supplier to be registered. -/
def check (p : NewSupplier) : Field.Check := Field.name "name" p.name

/-- The supplier as it is registered; a blank contact is none. -/
def register (p : NewSupplier) (id store : String) (now : Instant) : Supplier :=
  ⟨id, store, Text.trim p.name, (p.contact.map Text.trim).filter fun c => !(c == ""), now⟩

end NewSupplier

namespace NewOrder

/-- The products in the order of the lines. -/
def products (o : NewOrder) : List String := o.lines.map (·.product)

/-- The rules for a line of an order to be made. -/
def checkLine (l : NewOrderLine) : Field.Check := do
  Field.identifier "product_id" l.product
  Field.quantity l.quantity
  Field.price l.unitCost

/-- The rules for an order to be made. -/
def check (o : NewOrder) : Field.Check := do
  Field.identifier "supplier_id" o.supplier
  Field.lineCount o.lines.length
  Field.distinct "product_id" o.products
  Field.each checkLine o.lines

/-- The order as it is made. -/
def make (o : NewOrder) (id : String) (actor : Actor) (now : Instant) : PurchaseOrder :=
  ⟨id, actor.store, o.supplier, .open,
    o.lines.map fun l => ⟨l.product, l.quantity, 0, l.unitCost⟩, actor.cashier, now, now⟩

end NewOrder

namespace Engine

/-! ### Products and suppliers -/

/-- Registers a product. -/
def registerProduct (ids : Ids) (now : Instant) (actor : Actor) (p : NewProduct) :
    Action Store Product := Action.transact fun s => do
  p.check.run
  let registered := p.register ids.subject actor.store now
  let after ← (s.addProduct registered).result
  pure (registered, after)

/-- The product of an actor's store. -/
def product (actor : Actor) (id : String) (s : Store) : Result Product :=
  Outcome.ofOption (.notFound "Product" id) (s.product? actor.store id)

/-- Registers a supplier. -/
def registerSupplier (ids : Ids) (now : Instant) (actor : Actor) (p : NewSupplier) :
    Action Store Supplier := Action.transact fun s => do
  p.check.run
  let registered := p.register ids.subject actor.store now
  let after ← (s.addSupplier registered).result
  pure (registered, after)

/-! ### Orders -/

/-- Refuses products that the store does not have. -/
def requireProducts (s : Store) (store : String) : List String → Result Unit
  | [] => .ok ()
  | id :: rest => do
    Outcome.require (s.product? store id).isSome (.notFound "Product" id)
    requireProducts s store rest

/-- Makes an order. -/
def createOrder (ids : Ids) (now : Instant) (actor : Actor) (o : NewOrder) :
    Action Store PurchaseOrder := Action.transact fun s => do
  actor.requireElevated "create a purchase order"
  o.check.run
  Outcome.require (s.supplier? actor.store o.supplier).isSome (.notFound "Supplier" o.supplier)
  requireProducts s actor.store o.products
  let made := o.make ids.subject actor now
  let after ← (s.addOrder made).result
  pure (made, after)

/-- The order of an actor's store. -/
def order (actor : Actor) (id : String) (s : Store) : Result PurchaseOrder :=
  Outcome.ofOption (.notFound "Purchase order" id) (s.order? actor.store id)

/-- The rules for a receipt. -/
def checkReceipt (lines : List ReceiptLine) : Field.Check := do
  Field.lineCount lines.length
  Field.distinct "product_id" (lines.map (·.product))
  Field.each (fun l => Field.quantity l.quantity) lines

/-- The movements that bring what arrived into stock. -/
def receiptMovements (ids : Ids) (o : PurchaseOrder) (lines : List ReceiptLine) (at' : Instant) :
    List StockMovement :=
  lines.mapIdx fun i l => ⟨ids.movement i, l.product, o.store, l.quantity, .receive, o.id, at'⟩

/-- The receipt of units of an order. -/
def planReceipt (ids : Ids) (now : Instant) (actor : Actor) (id : String)
    (lines : List ReceiptLine) (s : Store) : Result ReceiptUnit := do
  (checkReceipt lines).run
  let o ← order actor id s
  let _ ← o.receive lines now
  pure ⟨o.store, o.id, lines, receiptMovements ids o lines now, now⟩

/-- Receives units of an order. -/
def receiveOrder (ids : Ids) (now : Instant) (actor : Actor) (id : String)
    (lines : List ReceiptLine) : Action Store PurchaseOrder := Action.transact fun s => do
  let unit ← planReceipt ids now actor id lines s
  let after ← (s.commitReceipt unit).result
  let o ← order actor id after
  pure (o, after)

end Engine

end Till
