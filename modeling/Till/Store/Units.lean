import Till.Store.Ledger
import Till.Store.Orders

/-!
# Units of work as JSON

Reading what is to be booked.  The identifier of the drawer event is given from outside.
-/

namespace Till

/-- Reads the unit of work of a sale. -/
def SaleUnit.ofJson? (entryId : String) (j : Json) : Option SaleUnit := do
  let m ← j.members? []
  some {
    transaction := ← Transaction.ofJson? (Json.member "transaction" m)
    movements := ← (Json.member "movements" m).list? StockMovement.ofJson?
    entry := ← DrawerEntry.ofJson? (Json.member "drawer_event" m)
    entryId
    record := ← OutcomeRecord.ofJson? (Json.member "idempotency" m) }

/-- Reads the unit of work of a void. -/
def VoidUnit.ofJson? (entryId : String) (j : Json) : Option VoidUnit := do
  let m ← j.members? []
  some {
    store := ← (Json.member "store_id" m).text?
    transaction := ← (Json.member "transaction_id" m).text?
    voidedAt := ← Instant.ofJson? (Json.member "voided_at" m)
    reason := ← (Json.member "void_reason" m).text?
    voidedBy := ← (Json.member "voided_by" m).text?
    movements := ← (Json.member "movements" m).list? StockMovement.ofJson?
    shift := ← (Json.member "shift_id" m).text?
    entry := ← DrawerEntry.ofJson? (Json.member "drawer_event" m)
    entryId }

/-- Reads the unit of work of a refund. -/
def RefundUnit.ofJson? (entryId : String) (j : Json) : Option RefundUnit := do
  let m ← j.members? []
  some {
    refund := ← Refund.ofJson? (Json.member "refund" m)
    refundedBefore := ← (Json.member "refunded_before" m).int?
    refundedAfter := ← (Json.member "refunded_after" m).int?
    statusAfter := ← TransactionStatus.ofJson? (Json.member "status_after" m)
    movements := ← (Json.member "movements" m).list? StockMovement.ofJson?
    entry := ← DrawerEntry.ofJson? (Json.member "drawer_event" m)
    entryId }

/-- Reads the unit of work of a receipt. -/
def ReceiptUnit.ofJson? (j : Json) : Option ReceiptUnit := do
  let m ← j.members? []
  some {
    store := ← (Json.member "store_id" m).text?
    order := ← (Json.member "purchase_order_id" m).text?
    lines := ← (Json.member "lines" m).list? ReceiptLine.ofJson?
    movements := ← (Json.member "movements" m).list? StockMovement.ofJson?
    receivedAt := ← Instant.ofJson? (Json.member "received_at" m) }

end Till
