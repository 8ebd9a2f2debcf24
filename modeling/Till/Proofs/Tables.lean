import Till.Proofs.Ledger
import Till.Proofs.Payloads
import Till.Store.Tables

/-!
# Transactions survive their tables

A transaction is kept as a row of one table and the rows of its lines in another one.  Nothing gets
lost that way, and what a change does to transactions it can do to the tables by a single statement.

* `Transaction.transaction?_row` : a row is read as the transaction it was made of;
* `Tables.transactions?_ofTransactions`, `Store.transaction?_tables` : so are whole tables, and a
  single transaction that is looked up in them;
* `Tables.Statement`, `Change.tables` : every change of a store adds a row with three empty columns,
  or sets some columns of a row that passes a test, or leaves the tables alone (`Change.rows`);
* `Change.legible` : every change at a time that can be written leaves what can be read.
-/

namespace Till

/-! ### Rows -/

@[simp] theorem PaymentMethod.ofText?_text (p : PaymentMethod) : ofText? p.text = some p := by
  cases p <;> rfl

@[simp] theorem TransactionStatus.ofText?_text (s : TransactionStatus) :
    ofText? s.text = some s := by
  cases s <;> rfl

@[simp] theorem PricingSource.ofText?_text (s : PricingSource) : ofText? s.text = some s := by
  cases s <;> rfl

namespace Transaction

/-- **A transaction can be kept in columns**: its rate fits, its instants can be written, and its
lines stand in the order in which they will be read. -/
structure Legible (t : Transaction) : Prop where
  sorted : t.lines.Pairwise fun a b => decide (a.number ≤ b.number) = true
  rate : t.taxRate ≤ Json.greatest32
  createdAt : t.createdAt.IsRepresentable
  voidedAt : ∀ at' ∈ t.voidedAt, at'.IsRepresentable

variable {t : Transaction}

/-- **A row is read** as the transaction it was made of. -/
theorem transaction?_row (h : t.Legible) : t.row.transaction? t.lines = some t := by
  have hvoided : TransactionRow.optional? Instant.ofText? (t.voidedAt.map Instant.keptText) =
      some t.voidedAt := by
    cases hat : t.voidedAt with
    | none => rfl
    | some at' =>
      simp [TransactionRow.optional?, Instant.ofText?_keptText (h.voidedAt at' hat)]
  simp only [TransactionRow.transaction?, row, TransactionRow.rate?, Json.nat?_int h.rate,
    PaymentMethod.ofText?_text, TransactionStatus.ofText?_text, PricingSource.ofText?_text,
    Instant.ofText?_keptText h.createdAt, hvoided, Option.bind_eq_bind, Option.bind_some]

end Transaction

/-! ### Tables -/

namespace Tables

variable {ts : List Transaction} {t : Transaction}

theorem filter_lineRows (t : Transaction) (id : String) :
    t.lineRows.filter (fun l => l.transaction == id) = if t.id = id then t.lineRows else [] := by
  simp only [Transaction.lineRows, List.filter_map]
  by_cases hid : t.id = id
  · simp [hid, Function.comp_def]
  · simp [hid, Function.comp_def]

theorem filter_flatMap_lineRows (hk : (ts.map (·.id)).Nodup) (ht : t ∈ ts) :
    (ts.flatMap Transaction.lineRows).filter (fun l => l.transaction == t.id) = t.lineRows := by
  induction ts with
  | nil => cases ht
  | cons a ts ih =>
    rw [List.map_cons, List.nodup_cons] at hk
    rw [List.flatMap_cons, List.filter_append, filter_lineRows]
    rcases List.mem_cons.1 ht with rfl | ht
    · have hnone :
          (ts.flatMap Transaction.lineRows).filter (fun l => l.transaction == t.id) = [] := by
        simp only [List.filter_eq_nil_iff, List.mem_flatMap, Transaction.lineRows, List.mem_map]
        rintro _ ⟨b, hb, l, -, rfl⟩
        have hne : b.id ≠ t.id := fun heq => hk.1 (heq ▸ List.mem_map_of_mem hb)
        simpa using hne
      rw [if_pos rfl, hnone, List.append_nil]
    · have hne : a.id ≠ t.id := fun heq => hk.1 (heq ▸ List.mem_map_of_mem ht)
      rw [if_neg hne, List.nil_append, ih hk.2 ht]

/-- The lines of a transaction are found in the table of lines, in their order. -/
theorem linesOf_ofTransactions (hk : (ts.map (·.id)).Nodup) (ht : t ∈ ts) (h : t.Legible) :
    (ofTransactions ts).linesOf t.id = t.lines := by
  have hlines : t.lineRows.map LineRow.line = t.lines := by
    rw [Transaction.lineRows, List.map_map]
    exact List.map_id t.lines
  rw [linesOf, ofTransactions, filter_flatMap_lineRows hk ht, hlines]
  exact List.mergeSort_of_pairwise h.sorted

/-- **Tables are read** as the transactions they were made of. -/
theorem transactions?_ofTransactions (hk : (ts.map (·.id)).Nodup) (h : ∀ t ∈ ts, t.Legible) :
    (ofTransactions ts).transactions? = some ts := by
  refine Rows.mapM_map_eq_some fun t ht => ?_
  rw [show t.row.id = t.id from rfl, linesOf_ofTransactions hk ht (h t ht),
    Transaction.transaction?_row (h t ht)]

end Tables

/-! ### Statements -/

namespace TransactionRow

/-- The row of a void: that of the transaction, if it is completed and nothing was refunded. -/
def isVoidable (u : VoidUnit) (r : TransactionRow) : Bool :=
  r.id == u.transaction && r.store == u.store && r.status == "completed" && r.refunded == 0

/-- The row of a refund: that of the transaction, if it is completed and as much was refunded as
when the refund was computed. -/
def isRefundable (u : RefundUnit) (r : TransactionRow) : Bool :=
  r.id == u.refund.transaction && r.store == u.refund.store && r.status == "completed" &&
    r.refunded == u.refundedBefore

end TransactionRow

namespace Tables

/-- Looks a transaction of a store up: its row, and then its lines. -/
def transaction? (tables : Tables) (store id : String) : Option Transaction := do
  let r ← tables.transactions.find? fun r => r.id == id && r.store == store
  r.transaction? (tables.linesOf r.id)

/-- Adds the rows of a transaction; the columns of a void are left empty. -/
def insert (tables : Tables) (t : Transaction) : Tables where
  transactions := tables.transactions ++
    [{ t.row with voidedAt := none, voidReason := none, voidedBy := none }]
  lines := tables.lines ++ t.lineRows

/-- Changes the rows that pass a test. -/
def update (tables : Tables) (test : TransactionRow → Bool) (f : TransactionRow → TransactionRow) :
    Tables :=
  { tables with transactions := tables.transactions.map fun r => if test r then f r else r }

/-- Sets the columns of a void. -/
def void (tables : Tables) (u : VoidUnit) : Tables :=
  tables.update (TransactionRow.isVoidable u) fun r =>
    { r with
      status := "voided"
      voidedAt := some u.voidedAt.keptText
      voidReason := some u.reason
      voidedBy := some u.voidedBy }

/-- Sets the columns of a refund. -/
def refund (tables : Tables) (u : RefundUnit) : Tables :=
  tables.update (TransactionRow.isRefundable u) fun r =>
    { r with refunded := u.refundedAfter, status := u.statusAfter.text }

/-- **A statement on tables.** -/
inductive Statement (tables : Tables) : Tables → Prop
  /-- None is made. -/
  | none : Statement tables tables
  /-- A transaction is added. -/
  | insert (t : Transaction) : Statement tables (tables.insert t)
  /-- The columns of a void are set. -/
  | void (u : VoidUnit) : Statement tables (tables.void u)
  /-- The columns of a refund are set. -/
  | refund (u : RefundUnit) : Statement tables (tables.refund u)

end Tables

namespace Store

variable {s : Store} {t : Transaction}

/-- **A transaction is looked up** in the tables as in the store. -/
theorem transaction?_tables (k : s.Keyed) (h : ∀ t ∈ s.transactions, t.Legible)
    (store id : String) : s.tables.transaction? store id = s.transaction? store id := by
  have hrow : (s.transactions.map Transaction.row).find?
      (fun r => r.id == id && r.store == store) =
        (s.transaction? store id).map Transaction.row := by
    rw [List.find?_map]
    rfl
  rw [Tables.transaction?, tables, Tables.ofTransactions, hrow]
  cases hfound : s.transaction? store id with
  | none => rfl
  | some t =>
    have ht := (transaction?_eq_some hfound).1
    have hlines := Tables.linesOf_ofTransactions k.transactions ht (h t ht)
    simp only [Option.map_some, Option.bind_eq_bind, Option.bind_some]
    rw [show t.row.id = t.id from rfl]
    rw [Tables.ofTransactions] at hlines
    rw [hlines, Transaction.transaction?_row (h t ht)]

/-- A change of one transaction is a change of its row. -/
theorem tables_update {test : TransactionRow → Bool} {f : Transaction → Transaction}
    {g : TransactionRow → TransactionRow} (k : s.Keyed) (ht : t ∈ s.transactions)
    (hlines : ∀ t, (f t).lineRows = t.lineRows) (hrow : (f t).row = g t.row)
    (htest : test t.row = true) (hothers : ∀ r, test r = true → r.id = t.id) :
    Tables.ofTransactions (Rows.update (·.id) t.id f s.transactions) = s.tables.update test g := by
  have hrows : (Rows.update (·.id) t.id f s.transactions).map Transaction.row =
      (s.transactions.map Transaction.row).map fun r => if test r then g r else r := by
    rw [Rows.update, List.map_map, List.map_map]
    refine List.map_congr_left fun t' ht' => ?_
    simp only [Function.comp_apply, beq_iff_eq]
    by_cases hid : t'.id = t.id
    · obtain rfl := List.inj_on_of_nodup_map k.transactions ht' ht hid
      rw [if_pos rfl, if_pos htest, hrow]
    · have hfails : ¬test t'.row = true := fun h => hid (hothers t'.row h)
      rw [if_neg hid, if_neg hfails]
  have hsame : (Rows.update (·.id) t.id f s.transactions).flatMap Transaction.lineRows =
      s.transactions.flatMap Transaction.lineRows := by
    rw [Rows.update, List.flatMap_map]
    congr 1
    funext t'
    split
    · exact hlines t'
    · rfl
  rw [Tables.ofTransactions, hrows, hsame]
  rfl

theorem tables_afterVoid {u : VoidUnit} {sh : Shift} {ev : DrawerEvent} (k : s.Keyed)
    (fits : s.VoidFits u t sh ev) : (s.afterVoid u ev).tables = s.tables.void u := by
  obtain ⟨ht, hid, hstore⟩ := transaction?_eq_some fits.found
  rw [tables, afterVoid, ← hid]
  refine tables_update (f := marked u) k ht (fun _ => rfl) rfl ?_ ?_
  · simp [TransactionRow.isVoidable, Transaction.row, hid, hstore, fits.completed, fits.unrefunded,
      TransactionStatus.text]
  · simp +contextual [TransactionRow.isVoidable, hid]

theorem tables_afterRefund {u : RefundUnit} {sh : Shift} {ev : DrawerEvent} (k : s.Keyed)
    (fits : s.RefundFits u t sh ev) : (s.afterRefund u ev).tables = s.tables.refund u := by
  obtain ⟨ht, hid, hstore⟩ := transaction?_eq_some fits.found
  rw [tables, afterRefund, ← hid]
  refine tables_update (f := paidBack u) k ht (fun _ => rfl) rfl ?_ ?_
  · simp [TransactionRow.isRefundable, Transaction.row, hid, hstore, fits.completed, fits.before,
      TransactionStatus.text]
  · simp +contextual [TransactionRow.isRefundable, hid]

/-- A sale has nothing in the columns of a void that could be lost. -/
theorem tables_afterSale {e : Engine} {ids : Ids} {now : Instant} {actor : Actor} {cart : Cart}
    {claim : Claim} {u : SaleUnit} {ev : DrawerEvent}
    (plan : e.planSale ids now actor cart claim s = .ok u) :
    (s.afterSale u ev).tables = s.tables.insert u.transaction := by
  obtain ⟨sh, pricing, totals, -, -, rfl⟩ := Engine.planSale_eq_ok plan
  simp only [tables, afterSale, Engine.saleUnit, unvoided_sold, Tables.ofTransactions,
    List.map_append, List.flatMap_append, List.map_cons, List.map_nil, List.flatMap_cons,
    List.flatMap_nil, List.append_nil]
  rfl

end Store

/-! ### Changes -/

/-- **What a change does to rows of transactions**, by its plan and the tests that it passed. -/
inductive RowChange (e : Engine) (now : Instant) (s : Store) : Store → Prop
  /-- Nothing. -/
  | none {after : Store} (transactions : after.transactions = s.transactions) :
      RowChange e now s after
  /-- The rows of a sale are added. -/
  | sold {ids : Ids} {actor : Actor} {cart : Cart} {claim : Claim} {u : SaleUnit}
      {ev : DrawerEvent} (plan : e.planSale ids now actor cart claim s = .ok u) :
      RowChange e now s (s.afterSale u ev)
  /-- A row is marked as voided. -/
  | voided {t : Transaction} {u : VoidUnit} {sh : Shift} {ev : DrawerEvent}
      (time : u.voidedAt = now) (fits : s.VoidFits u t sh ev) : RowChange e now s (s.afterVoid u ev)
  /-- A row is marked as refunded in part. -/
  | refunded {t : Transaction} {u : RefundUnit} {sh : Shift} {ev : DrawerEvent}
      (fits : s.RefundFits u t sh ev) : RowChange e now s (s.afterRefund u ev)

section Changes

open Tables (Statement)

variable {e : Engine} {now : Instant} {s after : Store}

/-- **Every change does one of these things to rows.** -/
theorem Change.rows (h : Change e now s after) : RowChange e now s after := by
  cases h with
  | shiftOpened start added =>
    obtain ⟨-, -, -, rfl⟩ := Store.addShift_eq_ok.1 added
    exact .none rfl
  | sold claims plan fits => exact .sold plan
  | voided plan fits => exact .voided (by rw [plan.unit]; rfl) fits
  | refunded elevated shift owned plan unit fits => exact .refunded fits
  | productAdded check added =>
    obtain ⟨-, -, -, rfl⟩ := Store.addProduct_eq_ok.1 added
    exact .none rfl
  | supplierAdded check added =>
    obtain ⟨-, rfl⟩ := Store.addSupplier_eq_ok.1 added
    exact .none rfl
  | orderAdded elevated check products added =>
    obtain ⟨-, -, -, -, rfl⟩ := Store.addOrder_eq_ok.1 added
    exact .none rfl
  | shiftClosed | entryRecorded | refused | received | purged => exact .none rfl

/-- **Every change of a store** is at most one statement on its tables. -/
theorem Change.tables (k : s.Keyed) (h : Change e now s after) :
    Statement s.tables after.tables := by
  cases h.rows with
  | none hsame =>
    rw [Store.tables, Store.tables, hsame]
    exact .none
  | sold plan =>
    rw [Store.tables_afterSale plan]
    exact .insert _
  | @voided t u sh ev time fits =>
    rw [Store.tables_afterVoid k fits]
    exact .void u
  | @refunded t u sh ev fits =>
    rw [Store.tables_afterRefund k fits]
    exact .refund u

/-! ### What is kept can be read -/

/-- A sale can be kept in columns. -/
theorem Transaction.IsSold.legible {cart : Cart} {c : SaleContext} {pricing : PricingRecord}
    {totals : Totals} (h : IsSold cart c pricing totals) (hnow : c.at'.IsRepresentable) :
    (sold cart c pricing totals).Legible where
  sorted := numberedLines_sorted 1 cart.lines
  rate := Nat.le_trans h.priced.rate (by decide)
  createdAt := hnow
  voidedAt := nofun

/-- **Every change leaves transactions that can be read**, if it is made at a time that can be
written. -/
theorem Change.legible (hnow : now.IsRepresentable) (h : Change e now s after)
    (hs : ∀ t ∈ s.transactions, t.Legible) : ∀ t ∈ after.transactions, t.Legible := by
  have hupdate : ∀ {id : String} {f : Transaction → Transaction},
      (∀ t ∈ s.transactions, (f t).Legible) →
        ∀ t ∈ Rows.update (·.id) id f s.transactions, t.Legible := by
    intro id f hf
    refine List.forall_mem_map.2 fun t ht => ?_
    split
    · exact hf t ht
    · exact hs t ht
  cases h.rows with
  | none hsame => exact hsame ▸ hs
  | sold plan =>
    obtain ⟨sh, pricing, totals, -, hsold, rfl⟩ := Engine.planSale_eq_ok plan
    refine List.forall_mem_append.2 ⟨hs, List.forall_mem_singleton.2 ?_⟩
    rw [Engine.saleUnit, Store.unvoided_sold]
    exact hsold.legible hnow
  | voided time fits =>
    refine hupdate fun t ht => ?_
    have hlegible := hs t ht
    refine ⟨hlegible.sorted, hlegible.rate, hlegible.createdAt, ?_⟩
    rintro _ ⟨rfl⟩
    exact time ▸ hnow
  | refunded fits =>
    refine hupdate fun t ht => ?_
    have hlegible := hs t ht
    exact ⟨hlegible.sorted, hlegible.rate, hlegible.createdAt, hlegible.voidedAt⟩

end Changes

end Till
