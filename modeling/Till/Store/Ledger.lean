import Till.Store.Outcomes
import Till.Store.Shifts
import Till.Store.Stock

/-!
# Sales, voids and refunds in the store

Three units of work move money and stock, and each is done as a whole or not at all:

* `Store.commitSale` : claims the key, compares prices with the catalog and units with the stock,
  and adds the transaction, its movements and its drawer event;
* `Store.commitVoid` : marks a completed transaction without refunds as voided, and adds the
  movements and the drawer event that reverse it;
* `Store.commitRefund` : raises what was refunded from the amount that the refund was computed with,
  and adds the refund, its movements and its drawer event.
-/

namespace Till

/-- What is booked when a sale is made. -/
structure SaleUnit where
  /-- The transaction. -/
  transaction : Transaction
  /-- The movements that take the units out of stock. -/
  movements : List StockMovement
  /-- The entry for the drawer. -/
  entry : DrawerEntry
  /-- The identifier of the drawer event. -/
  entryId : String
  /-- What came of the request. -/
  record : OutcomeRecord

/-- What is booked when a sale is voided. -/
structure VoidUnit where
  /-- The store. -/
  store : String
  /-- The transaction. -/
  transaction : String
  /-- When it is voided. -/
  voidedAt : Instant
  /-- Why. -/
  reason : String
  /-- Who voids it. -/
  voidedBy : String
  /-- The movements that put the units back. -/
  movements : List StockMovement
  /-- The shift whose drawer pays back. -/
  shift : String
  /-- The entry for the drawer. -/
  entry : DrawerEntry
  /-- The identifier of the drawer event. -/
  entryId : String

/-- What is booked when a sale is refunded. -/
structure RefundUnit where
  /-- The refund. -/
  refund : Refund
  /-- What was refunded before. -/
  refundedBefore : Int
  /-- What is refunded with it. -/
  refundedAfter : Int
  /-- The status with it. -/
  statusAfter : TransactionStatus
  /-- The movements that put units back. -/
  movements : List StockMovement
  /-- The entry for the drawer. -/
  entry : DrawerEntry
  /-- The identifier of the drawer event. -/
  entryId : String

namespace Store

/-! ### Reading -/

/-- The transaction of a store. -/
def transaction? (s : Store) (store id : String) : Option Transaction :=
  s.transactions.find? fun t => t.id == id && t.store == store

/-- Whether there is a transaction with the identifier, at whatever store. -/
def hasTransaction (s : Store) (id : String) : Bool := s.transactions.any fun t => t.id == id

/-- Whether a transaction was made from one instant on and before another. -/
def isMadeWithin (start stop : Instant) (t : Transaction) : Bool :=
  !Instant.keptBefore t.createdAt start && Instant.keptBefore t.createdAt stop

/-- Whether one transaction is listed before another or has the same place: by time, then by
identifier. -/
def isListedFirst (a b : Transaction) : Bool :=
  if Instant.keptBefore a.createdAt b.createdAt then true
  else if Instant.keptBefore b.createdAt a.createdAt then false
  else !Text.before b.id a.id

/-- The transactions of a store made from one instant on and before another, in order. -/
def transactionsWithin (s : Store) (store : String) (start stop : Instant) : List Transaction :=
  (s.transactions.filter fun t => t.store == store && isMadeWithin start stop t).mergeSort
    isListedFirst

/-- The refunds of a transaction, in order. -/
def refundsOf (s : Store) (transaction : String) : List Refund :=
  (s.refunds.filter fun r => r.transaction == transaction).mergeSort fun a b =>
    !Instant.keptBefore b.createdAt a.createdAt

/-! ### Sales -/

/-- Compares the price of a line with the catalog. -/
def testPrice (s : Store) (store : String) (l : LineItem) : Stored Unit :=
  match s.activeProduct? store l.product with
  | none => Outcome.reject (.missing "Product" l.product)
  | some p =>
    Outcome.require (decide (p.unitPrice = l.unitPrice))
      (.rejected (.priceMismatch l.product p.unitPrice l.unitPrice))

/-- Compares the prices of lines with the catalog. -/
def testPrices (s : Store) (store : String) : List LineItem → Stored Unit
  | [] => .ok ()
  | l :: rest => do
    s.testPrice store l
    s.testPrices store rest

/-- Compares the prices of a transaction with the catalog, unless they were entered by hand. -/
def testCatalogPrices (s : Store) (t : Transaction) : Stored Unit :=
  match t.pricing.source with
  | .manual => .ok ()
  | .automatic => s.testPrices t.store t.lines

/-- Tests the lines of a new transaction, given the numbers of the lines before. -/
def testLines (s : Store) : List Int → List LineItem → Stored Unit
  | _, [] => .ok ()
  | before, l :: rest => do
    testNumbers (decide (0 < l.quantity))
    testKey "transaction_lines.transaction_id, transaction_lines.line_no"
      (before.contains l.number)
    testReference (s.hasProduct l.product)
    s.testLines (l.number :: before) rest

/-- A transaction as it is stored when it is added. -/
def unvoided (t : Transaction) : Transaction :=
  { t with
    lines := t.lines.mergeSort fun a b => decide (a.number ≤ b.number)
    voidedAt := none
    voidReason := none
    voidedBy := none }

/-- Adds a transaction with its lines. -/
def addTransaction (s : Store) (t : Transaction) : Stored Store := do
  testNumbers (decide (0 ≤ t.refunded ∧ t.refunded ≤ t.grand))
  testKey "transactions.id" (s.hasTransaction t.id)
  testReference (s.hasShift t.shift)
  s.testLines [] t.lines
  pure { s with transactions := s.transactions ++ [unvoided t] }

/-- Books a sale. -/
def commitSale (s : Store) (u : SaleUnit) : Stored Store := do
  let t := u.transaction
  let s ← s.claimKey u.record t.createdAt
  s.testCatalogPrices t
  s.testAvailable t.store u.movements
  let s ← s.addTransaction t
  let s ← s.addMovements u.movements
  let (s, _) ← s.appendEntry t.shift u.entryId u.entry t.createdAt
  pure s

/-! ### Voids -/

/-- Changes the transaction with an identifier. -/
def updateTransaction (s : Store) (id : String) (f : Transaction → Transaction) : Store :=
  { s with transactions := s.transactions.map fun t => if t.id == id then f t else t }

/-- A transaction marked as voided. -/
def marked (u : VoidUnit) (t : Transaction) : Transaction :=
  { t with
    status := .voided
    voidedAt := some u.voidedAt
    voidReason := some u.reason
    voidedBy := some u.voidedBy }

/-- Why a transaction cannot be voided, if it cannot. -/
def voidConflict (id : String) : Option Transaction → Option StoreError
  | none => some (.missing "Transaction" id)
  | some t =>
    match t.status with
    | .voided => some (.rejected (.alreadyVoided id))
    | .completed =>
      if t.refunded = 0 then none else some (.rejected (.wrongStatus id .completed "void"))
    | status => some (.rejected (.wrongStatus id status "void"))

/-- Books a void. -/
def commitVoid (s : Store) (u : VoidUnit) : Stored Store :=
  match voidConflict u.transaction (s.transaction? u.store u.transaction) with
  | some e => Outcome.reject e
  | none => do
    let s ← (s.updateTransaction u.transaction (marked u)).addMovements u.movements
    let (s, _) ← s.appendEntry u.shift u.entryId u.entry u.voidedAt
    pure s

/-! ### Refunds -/

/-- A transaction with a refund. -/
def paidBack (u : RefundUnit) (t : Transaction) : Transaction :=
  { t with refunded := u.refundedAfter, status := u.statusAfter }

/-- Whether a refund fits a transaction: it is completed, and nothing was refunded since the refund
was computed. -/
def isRefundOf (u : RefundUnit) (t : Transaction) : Bool :=
  decide (t.status = .completed) && decide (t.refunded = u.refundedBefore)

/-- Adds a refund. -/
def addRefund (s : Store) (r : Refund) : Stored Store := do
  testNumbers (decide (0 < r.amount))
  testKey "refunds.id" (s.refunds.any fun q => q.id == r.id)
  testReference (s.hasTransaction r.transaction && s.hasShift r.shift)
  pure { s with refunds := s.refunds ++ [r] }

/-- Books a refund. -/
def commitRefund (s : Store) (u : RefundUnit) : Stored Store := do
  let r := u.refund
  let t ← Outcome.ofOption (.rejected (.modifiedConcurrently "Transaction" r.transaction))
    ((s.transaction? r.store r.transaction).filter (isRefundOf u))
  testNumbers (decide (0 ≤ u.refundedAfter ∧ u.refundedAfter ≤ t.grand))
  let s ← (s.updateTransaction r.transaction (paidBack u)).addRefund r
  let s ← s.addMovements u.movements
  let (s, _) ← s.appendEntry r.shift u.entryId u.entry r.createdAt
  pure s

end Store

end Till
