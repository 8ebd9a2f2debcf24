import Till.Store.Basic

/-!
# The tables of transactions

Transactions are kept in two tables, one with a row for each transaction and one with a row for each
line.  A column holds a whole number or a text, or nothing: names stand for methods and statuses,
and an instant is kept as text with the offset `+00:00`.  A row of a transaction has no columns for
its lines; they are those of the other table with its identifier, in the order of their numbers.

* `Transaction.row` and `Transaction.lineRows` : the rows of a transaction;
* `TransactionRow.transaction?` : reads a row, given the lines;
* `Tables.ofTransactions` and `Tables.transactions?` : all transactions as tables, and back.
-/

namespace Till

/-- A row of the table of transactions. -/
structure TransactionRow where
  /-- The identifier. -/
  id : String
  /-- The store. -/
  store : String
  /-- The cashier who sold. -/
  cashier : String
  /-- The shift in which it was sold. -/
  shift : String
  /-- The key under which it was requested. -/
  key : String
  /-- The sum of the lines before discounts. -/
  subtotal : Int
  /-- All discounts together. -/
  discount : Int
  /-- The tax. -/
  tax : Int
  /-- What the customer paid. -/
  grand : Int
  /-- The tax rate in basis points. -/
  taxRate : Int
  /-- The name of the payment method. -/
  payment : String
  /-- The name of the status. -/
  status : String
  /-- The name of where the totals come from. -/
  source : String
  /-- Why they were entered by hand. -/
  overrideReason : Option String
  /-- Who approved that. -/
  approvedBy : Option String
  /-- What was refunded so far. -/
  refunded : Int
  /-- When it was sold. -/
  createdAt : String
  /-- When it was voided. -/
  voidedAt : Option String
  /-- Why it was voided. -/
  voidReason : Option String
  /-- Who voided it. -/
  voidedBy : Option String
  deriving DecidableEq, Repr

/-- A row of the table of lines. -/
structure LineRow where
  /-- The transaction that the line belongs to. -/
  transaction : String
  /-- The columns of the line. -/
  line : LineItem
  deriving DecidableEq, Repr

/-- The tables of transactions. -/
structure Tables where
  /-- A row for each transaction. -/
  transactions : List TransactionRow := []
  /-- A row for each line. -/
  lines : List LineRow := []
  deriving DecidableEq, Repr

/-! ### Rows -/

namespace Transaction

/-- The row of a transaction. -/
def row (t : Transaction) : TransactionRow where
  id := t.id
  store := t.store
  cashier := t.cashier
  shift := t.shift
  key := t.key
  subtotal := t.subtotal
  discount := t.discount
  tax := t.tax
  grand := t.grand
  taxRate := t.taxRate
  payment := t.payment.text
  status := t.status.text
  source := t.pricing.source.text
  overrideReason := t.pricing.reason
  approvedBy := t.pricing.approvedBy
  refunded := t.refunded
  createdAt := t.createdAt.keptText
  voidedAt := t.voidedAt.map Instant.keptText
  voidReason := t.voidReason
  voidedBy := t.voidedBy

/-- The rows of the lines of a transaction. -/
def lineRows (t : Transaction) : List LineRow := t.lines.map (LineRow.mk t.id)

end Transaction

namespace TransactionRow

/-- Reads a column that may hold nothing. -/
def optional? {α β : Type} (read : α → Option β) : Option α → Option (Option β)
  | none => some none
  | some a => (read a).map some

/-- Reads a number of basis points. -/
def rate? (n : Int) : Option Nat := (Json.int n).nat? Json.greatest32

/-- Reads a row, given the lines. -/
def transaction? (r : TransactionRow) (lines : List LineItem) : Option Transaction := do
  some {
    id := r.id
    store := r.store
    cashier := r.cashier
    shift := r.shift
    key := r.key
    lines
    subtotal := r.subtotal
    discount := r.discount
    tax := r.tax
    grand := r.grand
    taxRate := ← rate? r.taxRate
    payment := ← PaymentMethod.ofText? r.payment
    status := ← TransactionStatus.ofText? r.status
    pricing := ⟨← PricingSource.ofText? r.source, r.overrideReason, r.approvedBy⟩
    refunded := r.refunded
    createdAt := ← Instant.ofText? r.createdAt
    voidedAt := ← optional? Instant.ofText? r.voidedAt
    voidReason := r.voidReason
    voidedBy := r.voidedBy }

/-- The row as JSON, by the names of the columns. -/
def toJson (r : TransactionRow) : Json :=
  .obj [("id", .str r.id), ("store_id", .str r.store), ("cashier_id", .str r.cashier),
    ("shift_id", .str r.shift), ("idempotency_key", .str r.key),
    ("subtotal_cents", .int r.subtotal), ("discount_total_cents", .int r.discount),
    ("tax_total_cents", .int r.tax), ("grand_total_cents", .int r.grand),
    ("tax_rate_bps", .int r.taxRate), ("payment_method", .str r.payment),
    ("status", .str r.status), ("pricing_source", .str r.source),
    ("override_reason", Json.ofText? r.overrideReason),
    ("override_approved_by", Json.ofText? r.approvedBy), ("refunded_cents", .int r.refunded),
    ("created_at", .str r.createdAt), ("voided_at", Json.ofText? r.voidedAt),
    ("void_reason", Json.ofText? r.voidReason), ("voided_by", Json.ofText? r.voidedBy)]

/-- Reads a row from JSON. -/
def ofJson? : Json → Option TransactionRow
  | .obj m => do
    some {
      id := ← (Json.member "id" m).text?
      store := ← (Json.member "store_id" m).text?
      cashier := ← (Json.member "cashier_id" m).text?
      shift := ← (Json.member "shift_id" m).text?
      key := ← (Json.member "idempotency_key" m).text?
      subtotal := ← (Json.member "subtotal_cents" m).int?
      discount := ← (Json.member "discount_total_cents" m).int?
      tax := ← (Json.member "tax_total_cents" m).int?
      grand := ← (Json.member "grand_total_cents" m).int?
      taxRate := ← (Json.member "tax_rate_bps" m).int?
      payment := ← (Json.member "payment_method" m).text?
      status := ← (Json.member "status" m).text?
      source := ← (Json.member "pricing_source" m).text?
      overrideReason := ← (Json.member "override_reason" m).nullable? Json.text?
      approvedBy := ← (Json.member "override_approved_by" m).nullable? Json.text?
      refunded := ← (Json.member "refunded_cents" m).int?
      createdAt := ← (Json.member "created_at" m).text?
      voidedAt := ← (Json.member "voided_at" m).nullable? Json.text?
      voidReason := ← (Json.member "void_reason" m).nullable? Json.text?
      voidedBy := ← (Json.member "voided_by" m).nullable? Json.text? }
  | _ => none

end TransactionRow

namespace LineRow

/-- The row as JSON, by the names of the columns. -/
def toJson (r : LineRow) : Json :=
  .obj [("transaction_id", .str r.transaction), ("line_no", .int r.line.number),
    ("product_id", .str r.line.product), ("quantity", .int r.line.quantity),
    ("unit_price_cents", .int r.line.unitPrice), ("line_discount_cents", .int r.line.discount)]

/-- Reads a row from JSON. -/
def ofJson? : Json → Option LineRow
  | .obj m => do
    some {
      transaction := ← (Json.member "transaction_id" m).text?
      line := ← LineItem.ofJson? (.obj m) }
  | _ => none

end LineRow

/-! ### Tables -/

namespace Tables

/-- The tables of transactions. -/
def ofTransactions (ts : List Transaction) : Tables :=
  ⟨ts.map Transaction.row, ts.flatMap Transaction.lineRows⟩

/-- The lines of a transaction, in the order of their numbers. -/
def linesOf (tables : Tables) (transaction : String) : List LineItem :=
  ((tables.lines.filter fun l => l.transaction == transaction).map LineRow.line).mergeSort
    fun a b => decide (a.number ≤ b.number)

/-- Reads the transactions of tables. -/
def transactions? (tables : Tables) : Option (List Transaction) :=
  tables.transactions.mapM fun r => r.transaction? (tables.linesOf r.id)

end Tables

/-- The tables of the transactions of a store. -/
def Store.tables (s : Store) : Tables := .ofTransactions s.transactions

end Till
