import Till.Catalog
import Till.Idempotency
import Till.PurchaseOrder
import Till.Shift.Basic
import Till.Stock
import Till.Store.Failure
import Till.Transaction.Refund

/-!
# The store

`Store` holds everything the till remembers.  Each table is a list in the order in which its rows
were added; rows are added at the end, and only stored outcomes are ever deleted.

Every write is a function from a store to a new store or a failure.  A failure carries no store, so
a unit of work that fails leaves nothing behind.  A row is tested in a fixed order before it is
added: its numbers, then its keys, then the rows it refers to.
-/

namespace Till

/-- Everything the till remembers. -/
structure Store where
  /-- The products. -/
  products : List Product := []
  /-- The suppliers. -/
  suppliers : List Supplier := []
  /-- The purchase orders with their lines. -/
  orders : List PurchaseOrder := []
  /-- The shifts with their drawer events, these in the order of their positions. -/
  shifts : List Shift := []
  /-- The transactions with their lines, these in the order of their numbers. -/
  transactions : List Transaction := []
  /-- The refunds. -/
  refunds : List Refund := []
  /-- The stock movements. -/
  movements : List StockMovement := []
  /-- The stored outcomes. -/
  outcomes : List OutcomeRecord := []
  deriving Repr

namespace Store

/-- Tests the numbers of a row. -/
def testNumbers (good : Bool) : Stored Unit :=
  Outcome.require good (.statement "CHECK constraint failed")

/-- Tests that the key of a row, on the given columns, is not taken. -/
def testKey (columns : String) (taken : Bool) : Stored Unit :=
  Outcome.require (!taken) (.duplicate columns "unknown")

/-- Tests that the row referred to exists. -/
def testReference (exists' : Bool) : Stored Unit :=
  Outcome.require exists' (.dangling "FOREIGN KEY constraint failed")

/-- Whether there is a product with the identifier, at whatever store. -/
def hasProduct (s : Store) (id : String) : Bool := s.products.any fun p => p.id == id

/-- Whether there is a shift with the identifier. -/
def hasShift (s : Store) (id : String) : Bool := s.shifts.any fun sh => sh.id == id

end Store

end Till
