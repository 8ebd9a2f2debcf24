import Till.Store.Tables

/-!
# The store as text

A store is kept in a file as JSON, its transactions as the rows of two tables.  An empty file holds
an empty store.
-/

namespace Till

namespace Store

/-- The store as JSON. -/
def toJson (s : Store) : Json :=
  .obj [("products", .arr (s.products.map Product.toJson)),
    ("suppliers", .arr (s.suppliers.map Supplier.toJson)),
    ("purchase_orders", .arr (s.orders.map PurchaseOrder.toJson)),
    ("shifts", .arr (s.shifts.map Shift.toJson)),
    ("transactions", .arr (s.tables.transactions.map TransactionRow.toJson)),
    ("transaction_lines", .arr (s.tables.lines.map LineRow.toJson)),
    ("refunds", .arr (s.refunds.map Refund.toJson)),
    ("stock_movements", .arr (s.movements.map StockMovement.toJson)),
    ("outcomes", .arr (s.outcomes.map OutcomeRecord.toJson))]

/-- Reads the tables of the transactions. -/
def tables? (m : Json.Members) : Option Tables := do
  some {
    transactions := ← (Json.member "transactions" m).list? TransactionRow.ofJson?
    lines := ← (Json.member "transaction_lines" m).list? LineRow.ofJson? }

/-- Reads a store. -/
def ofJson? : Json → Option Store
  | .obj m => do
    some {
      products := ← (Json.member "products" m).list? Product.ofJson?
      suppliers := ← (Json.member "suppliers" m).list? Supplier.ofJson?
      orders := ← (Json.member "purchase_orders" m).list? PurchaseOrder.ofJson?
      shifts := ← (Json.member "shifts" m).list? Shift.ofJson?
      transactions := ← (← tables? m).transactions?
      refunds := ← (Json.member "refunds" m).list? Refund.ofJson?
      movements := ← (Json.member "stock_movements" m).list? StockMovement.ofJson?
      outcomes := ← (Json.member "outcomes" m).list? OutcomeRecord.ofJson? }
  | _ => none

/-- The store as text. -/
def text (s : Store) : String := s.toJson.print

/-- Reads a store from text. -/
def ofText? (s : String) : Option Store :=
  if s = "" then some {} else Json.parse? s >>= ofJson?

end Store

end Till
