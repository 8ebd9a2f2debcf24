import Till.Store.Stock

/-!
# Purchase orders in the store

An order is added with its lines as a whole.  `Store.commitReceipt` books what arrived: the order
must not be fully received, no line may exceed what was ordered, and units and stock change
together.
-/

namespace Till

/-- What is booked when units of an order arrive. -/
structure ReceiptUnit where
  /-- The store. -/
  store : String
  /-- The order. -/
  order : String
  /-- The units by product. -/
  lines : List ReceiptLine
  /-- The movements that bring them into stock. -/
  movements : List StockMovement
  /-- When they arrived. -/
  receivedAt : Instant

namespace Store

/-- The order of a store. -/
def order? (s : Store) (store id : String) : Option PurchaseOrder :=
  s.orders.find? fun o => o.id == id && o.store == store

/-- Tests a line of a new order, given the products of the lines before. -/
def testOrderLine (s : Store) (before : List String) (l : OrderLine) : Stored Unit := do
  testNumbers (decide (0 < l.ordered ∧ 0 ≤ l.received ∧ l.received ≤ l.ordered ∧ 0 ≤ l.unitCost))
  testKey "purchase_order_lines.purchase_order_id, purchase_order_lines.product_id"
    (before.contains l.product)
  testReference (s.hasProduct l.product)

/-- Tests the lines of a new order, given the products of the lines before. -/
def testOrderLines (s : Store) : List String → List OrderLine → Stored Unit
  | _, [] => .ok ()
  | before, l :: rest => do
    s.testOrderLine before l
    s.testOrderLines (l.product :: before) rest

/-- Adds an order with its lines. -/
def addOrder (s : Store) (o : PurchaseOrder) : Stored Store := do
  testKey "purchase_orders.id" (s.orders.any fun p => p.id == o.id)
  testReference (s.hasSupplier o.supplier)
  s.testOrderLines [] o.lines
  pure { s with orders := s.orders ++ [o] }

/-- Books units of a product on the lines of an order. -/
def receiveUnits (order : String) (r : ReceiptLine) (lines : List OrderLine) :
    Stored (List OrderLine) :=
  match lines.find? fun l => l.product == r.product with
  | none => Outcome.reject (.missing "Purchase order line" (PurchaseOrder.lineName order r.product))
  | some l =>
    if l.received + r.quantity ≤ l.ordered then do
      testNumbers (decide (0 ≤ l.received + r.quantity))
      pure (lines.map fun l =>
        if l.product == r.product then { l with received := l.received + r.quantity } else l)
    else
      Outcome.reject
        (.rejected (.overReceipt order r.product (l.ordered - l.received) r.quantity))

/-- Books a receipt on the lines of an order, line by line. -/
def receiveAll (order : String) : List ReceiptLine → List OrderLine → Stored (List OrderLine)
  | [], lines => .ok lines
  | r :: rest, lines => do
    let lines ← receiveUnits order r lines
    receiveAll order rest lines

/-- The status of an order with these lines after a receipt. -/
def statusAfterReceipt (lines : List OrderLine) : OrderStatus :=
  if lines.any fun l => decide (l.received < l.ordered) then .partiallyReceived else .received

/-- An order with other lines after a receipt. -/
def bookedOrder (o : PurchaseOrder) (lines : List OrderLine) (at' : Instant) : PurchaseOrder :=
  { o with lines, status := statusAfterReceipt lines, updatedAt := at' }

/-- Changes the order with an identifier. -/
def updateOrder (s : Store) (id : String) (f : PurchaseOrder → PurchaseOrder) : Store :=
  { s with orders := s.orders.map fun o => if o.id == id then f o else o }

/-- Books what arrived. -/
def commitReceipt (s : Store) (u : ReceiptUnit) : Stored Store :=
  match s.order? u.store u.order with
  | none => Outcome.reject (.missing "Purchase order" u.order)
  | some o =>
    if o.status = .received then Outcome.reject (.rejected (.orderClosed u.order))
    else do
      let lines ← receiveAll u.order u.lines o.lines
      (s.updateOrder u.order fun o => bookedOrder o lines u.receivedAt).addMovements u.movements

end Store

end Till
