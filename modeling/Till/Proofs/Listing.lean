import Till.Proofs.KeptOrder
import Till.Proofs.Mirrors

/-!
# Listing the transactions of a window

A window of time is listed by two queries, one for the rows of the transactions made in it and one
for the rows of their lines, which tests the same window on the transactions they join.  The lines
are collected under the identifiers of their transactions, and each row takes its own out again.

* `Tables.transactionsWithin?` : the two queries and what is put together from them;
* `Store.transactionsWithin?_tables` : that is the transactions of the window, in their order;
* `Store.transactionsWithin_append` : a window is listed as its parts are, one after the other;
* `Engine.run_listsWindows` : with clocks in the years 0 to 9999, every window of every run is
  listed as it should be.
-/

namespace Till

/-! ### Two queries -/

namespace TransactionRow

/-- Whether a row is of a transaction of the store, made from one instant on and before another. -/
def isWithin (store : String) (start stop : Instant) (r : TransactionRow) : Bool :=
  r.store == store &&
    (!Text.before r.createdAt start.keptText && Text.before r.createdAt stop.keptText)

/-- Whether one row comes before another or has the same place: by time, then by identifier. -/
def isListedFirst (a b : TransactionRow) : Bool :=
  if Text.before a.createdAt b.createdAt then true
  else if Text.before b.createdAt a.createdAt then false
  else !Text.before b.id a.id

end TransactionRow

namespace LineRow

/-- Whether one row comes before another or has the same place: by transaction, then by number. -/
def isListedFirst (a b : LineRow) : Bool :=
  if Text.before a.transaction b.transaction then true
  else if Text.before b.transaction a.transaction then false
  else decide (a.line.number ≤ b.line.number)

/-- Adds a line to those of its transaction. -/
def collect (lines : String → List LineItem) (l : LineRow) : String → List LineItem := fun id =>
  if id = l.transaction then lines id ++ [l.line] else lines id

end LineRow

namespace Tables

/-- The rows of the transactions of a window. -/
def rowsWithin (tables : Tables) (store : String) (start stop : Instant) : List TransactionRow :=
  (tables.transactions.filter (TransactionRow.isWithin store start stop)).mergeSort
    TransactionRow.isListedFirst

/-- The rows of their lines: those that join a row of a transaction of the window. -/
def linesWithin (tables : Tables) (store : String) (start stop : Instant) : List LineRow :=
  (tables.lines.flatMap fun l =>
    (tables.transactions.filter fun r =>
      r.id == l.transaction && r.isWithin store start stop).map fun _ => l).mergeSort
    LineRow.isListedFirst

/-- The lines of each transaction. -/
def collected (rows : List LineRow) : String → List LineItem :=
  rows.foldl LineRow.collect fun _ => []

/-- Reads rows, each of which takes its lines out of those that are left. -/
def assemble (lines : String → List LineItem) : List TransactionRow → Option (List Transaction)
  | [] => some []
  | r :: rows => do
    let t ← r.transaction? (lines r.id)
    let ts ← assemble (fun id => if id = r.id then [] else lines id) rows
    some (t :: ts)

/-- The transactions of a window, read from the tables. -/
def transactionsWithin? (tables : Tables) (store : String) (start stop : Instant) :
    Option (List Transaction) :=
  assemble (collected (tables.linesWithin store start stop)) (tables.rowsWithin store start stop)

/-! ### Collecting lines -/

theorem foldl_collect (rows : List LineRow) (lines : String → List LineItem) (id : String) :
    rows.foldl LineRow.collect lines id =
      lines id ++ (rows.filter fun l => l.transaction == id).map LineRow.line := by
  induction rows generalizing lines with
  | nil => simp
  | cons l rows ih =>
    rw [List.foldl_cons, ih, LineRow.collect]
    by_cases hid : id = l.transaction
    · simp [hid]
    · have hother : l.transaction ≠ id := fun h => hid h.symm
      simp [hid, hother]

/-- The lines that are collected for a transaction are those with its identifier, in order. -/
theorem collected_eq (rows : List LineRow) (id : String) :
    collected rows id = (rows.filter fun l => l.transaction == id).map LineRow.line := by
  rw [collected, foldl_collect, List.nil_append]

/-- Rows with identifiers of their own find their lines untaken. -/
theorem assemble_rows {ts : List Transaction} {lines : String → List LineItem}
    (hk : (ts.map (·.id)).Nodup) (h : ∀ t ∈ ts, t.Legible)
    (hlines : ∀ t ∈ ts, lines t.id = t.lines) :
    assemble lines (ts.map Transaction.row) = some ts := by
  induction ts generalizing lines with
  | nil => rfl
  | cons t ts ih =>
    obtain ⟨ht, hts⟩ := List.forall_mem_cons.1 h
    obtain ⟨hown, hothers⟩ := List.forall_mem_cons.1 hlines
    obtain ⟨hfresh, hk⟩ := List.nodup_cons.1 hk
    have hrest : assemble (fun id => if id = t.id then [] else lines id)
        (ts.map Transaction.row) = some ts := by
      refine ih hk hts fun t' ht' => ?_
      have hne : t'.id ≠ t.id := fun heq => hfresh (List.mem_map.2 ⟨t', ht', heq⟩)
      rw [if_neg hne, hothers t' ht']
    simp only [List.map_cons, assemble, show t.row.id = t.id from rfl, hown,
      Transaction.transaction?_row ht, hrest, Option.bind_eq_bind, Option.bind_some]

end Tables

/-! ### The two queries as one -/

namespace Transaction

/-- The numbers of the lines tell them apart and are in order. -/
def Numbered (t : Transaction) : Prop := (t.lines.map LineItem.number).Pairwise (· < ·)

/-- The place of a transaction in a listing. -/
def place (t : Transaction) : String ×ₗ String := toLex (t.createdAt.keptText, t.id)

end Transaction

namespace LineRow

/-- The place of a row of a line. -/
def place (l : LineRow) : String ×ₗ Int := toLex (l.transaction, l.line.number)

theorem isListedFirst_iff (a b : LineRow) : a.isListedFirst b = true ↔ a.place ≤ b.place :=
  Rows.ite_iff_toLex_le Text.before_iff Text.before_iff decide_eq_true_iff

end LineRow

namespace Store

open Tables

variable {s : Store} {store : String} {start stop : Instant} {t : Transaction}

theorem isWithin_row (store : String) (start stop : Instant) (t : Transaction) :
    t.row.isWithin store start stop = (t.store == store && isMadeWithin start stop t) := by
  rw [isMadeWithin, Instant.keptBefore_eq, Instant.keptBefore_eq]
  rfl

theorem isListedFirst_row (a b : Transaction) :
    isListedFirst a b = a.row.isListedFirst b.row := by
  rw [isListedFirst, Instant.keptBefore_eq, Instant.keptBefore_eq]
  rfl

theorem isListedFirst_iff (a b : Transaction) :
    isListedFirst a b = true ↔ a.place ≤ b.place :=
  Rows.ite_iff_toLex_le Instant.keptBefore_iff Instant.keptBefore_iff Text.not_before_iff

/-- **A store that can be listed**: rows are told apart by identifiers and numbers, and can be
read. -/
structure Listable (s : Store) : Prop where
  keyed : s.Keyed
  legible : ∀ t ∈ s.transactions, t.Legible
  numbered : ∀ t ∈ s.transactions, t.Numbered

theorem mem_transactionsWithin : t ∈ s.transactionsWithin store start stop ↔
    t ∈ s.transactions ∧ t.store = store ∧ isMadeWithin start stop t = true := by
  simp [transactionsWithin]

/-- The first query gives the rows of the listing. -/
theorem rowsWithin_tables (s : Store) (store : String) (start stop : Instant) :
    s.tables.rowsWithin store start stop =
      (s.transactionsWithin store start stop).map Transaction.row := by
  have hrows : (s.transactions.map Transaction.row).filter
      (TransactionRow.isWithin store start stop) =
        (s.transactions.filter fun t => t.store == store && isMadeWithin start stop t).map
          Transaction.row := by
    rw [List.filter_map]
    exact congrArg _ (List.filter_congr fun t _ => isWithin_row store start stop t)
  rw [transactionsWithin, List.map_mergeSort fun a _ b _ => isListedFirst_row a b, ← hrows]
  rfl

/-- A line joins the row of its transaction only. -/
theorem joined_eq (k : s.Keyed) (store : String) (start stop : Instant) :
    (s.tables.lines.flatMap fun l =>
      (s.tables.transactions.filter fun r =>
        r.id == l.transaction && r.isWithin store start stop).map fun _ => l) =
      (s.transactions.filter fun t => t.store == store && isMadeWithin start stop t).flatMap
        Transaction.lineRows := by
  have hids : (s.tables.transactions.map (·.id)).Nodup := by
    rw [tables, ofTransactions, List.map_map]
    exact k.transactions
  rw [show s.tables.lines = s.transactions.flatMap Transaction.lineRows from rfl,
    List.flatMap_assoc, Rows.flatMap_filter]
  refine List.flatMap_congr fun t ht => ?_
  have hrow : (s.tables.transactions.filter fun r =>
      r.id == t.id && r.isWithin store start stop) =
        if t.store == store && isMadeWithin start stop t then [t.row] else [] := by
    rw [← isWithin_row]
    exact Rows.filter_of_key hids (List.mem_map_of_mem ht) _
  rw [Transaction.lineRows, List.flatMap_map]
  simp only [hrow]
  split
  · rw [List.map_eq_flatMap]
    rfl
  · exact List.flatMap_eq_nil_iff.2 fun _ _ => rfl

/-- The lines that the second query gives of a transaction of the window are its own. -/
theorem filter_linesWithin (h : s.Listable) (ht : t ∈ s.transactionsWithin store start stop) :
    (s.tables.linesWithin store start stop).filter (fun l => l.transaction == t.id) =
      t.lineRows := by
  rw [linesWithin, joined_eq h.keyed]
  obtain ⟨hmem, hstore, hmade⟩ := mem_transactionsWithin.1 ht
  have hk : ((s.transactions.filter fun t => t.store == store && isMadeWithin start stop t).map
      (·.id)).Nodup := h.keyed.transactions.sublist (List.filter_sublist.map _)
  have hwithin : t ∈ s.transactions.filter fun t =>
      t.store == store && isMadeWithin start stop t :=
    List.mem_filter.2 ⟨hmem, by rw [hstore, hmade, beq_self_eq_true]; rfl⟩
  have hown : t.lineRows.Pairwise fun a b => a.place < b.place := by
    refine List.pairwise_map.2 ((List.pairwise_map.1 (h.numbered t hmem)).imp ?_)
    exact fun hlt => Prod.Lex.toLex_lt_toLex.2 (.inr ⟨rfl, hlt⟩)
  -- Sorting all lines does not take lines of one transaction away nor add any.
  have hperm := (List.mergeSort_perm ((s.transactions.filter fun t =>
    t.store == store && isMadeWithin start stop t).flatMap Transaction.lineRows)
      LineRow.isListedFirst).filter fun l => l.transaction == t.id
  rw [filter_flatMap_lineRows hk hwithin] at hperm
  have hsorted := Rows.pairwise_le_mergeSort LineRow.isListedFirst_iff
    ((s.transactions.filter fun t => t.store == store && isMadeWithin start stop t).flatMap
      Transaction.lineRows)
  refine Rows.eq_of_perm (Rows.pairwise_lt (hsorted.sublist List.filter_sublist) ?_) hown hperm
  exact (hperm.map LineRow.place).nodup_iff.2 ((List.pairwise_map.2 hown).imp ne_of_lt)

theorem nodup_transactionsWithin (k : s.Keyed) :
    ((s.transactionsWithin store start stop).map (·.id)).Nodup :=
  ((List.mergeSort_perm _ _).map _).nodup_iff.2
    (k.transactions.sublist (List.filter_sublist.map _))

/-- **What is put together from the two queries** is the listing of the window. -/
theorem transactionsWithin?_tables (h : s.Listable) (store : String) (start stop : Instant) :
    s.tables.transactionsWithin? store start stop =
      some (s.transactionsWithin store start stop) := by
  rw [transactionsWithin?, rowsWithin_tables]
  refine assemble_rows (nodup_transactionsWithin h.keyed) ?_ ?_
  · intro t ht
    exact h.legible t (mem_transactionsWithin.1 ht).1
  · intro t ht
    rw [collected_eq, filter_linesWithin h ht, Transaction.lineRows, List.map_map]
    exact List.map_id t.lines

/-! ### Windows and their parts -/

theorem isMadeWithin_iff : isMadeWithin start stop t = true ↔
    start.keptText ≤ t.createdAt.keptText ∧ t.createdAt.keptText < stop.keptText := by
  rw [isMadeWithin, Bool.and_eq_true, Instant.keptBefore_iff, Instant.keptBefore_eq,
    Text.not_before_iff]

/-- A listing is in the order of places, and no two transactions have the same place. -/
theorem pairwise_transactionsWithin (k : s.Keyed) (store : String) (start stop : Instant) :
    (s.transactionsWithin store start stop).Pairwise fun a b => a.place < b.place := by
  refine Rows.pairwise_lt (Rows.pairwise_le_mergeSort isListedFirst_iff _) ?_
  refine List.Nodup.of_map (fun p => (ofLex p).2) ?_
  rw [List.map_map]
  exact nodup_transactionsWithin k

/-- **A window is listed as its parts are**, one after the other. -/
theorem transactionsWithin_append (k : s.Keyed) {middle : Instant}
    (hstart : start.keptText ≤ middle.keptText) (hstop : middle.keptText ≤ stop.keptText) :
    s.transactionsWithin store start stop =
      s.transactionsWithin store start middle ++ s.transactionsWithin store middle stop := by
  have hparts : (s.transactionsWithin store start middle ++
      s.transactionsWithin store middle stop).Pairwise fun a b => a.place < b.place := by
    refine List.pairwise_append.2 ⟨pairwise_transactionsWithin k store start middle,
      pairwise_transactionsWithin k store middle stop, fun a ha b hb => ?_⟩
    have hbefore := (isMadeWithin_iff.1 (mem_transactionsWithin.1 ha).2.2).2
    have hafter := (isMadeWithin_iff.1 (mem_transactionsWithin.1 hb).2.2).1
    exact Prod.Lex.toLex_lt_toLex.2 (.inl (hbefore.trans_le hafter))
  have hwhole := pairwise_transactionsWithin k store start stop
  refine Rows.eq_of_mem_iff hwhole hparts fun t => ?_
  simp only [List.mem_append, mem_transactionsWithin, isMadeWithin_iff]
  constructor
  · rintro ⟨ht, hstore, hfrom, hto⟩
    rcases lt_or_ge t.createdAt.keptText middle.keptText with hlt | hge
    · exact .inl ⟨ht, hstore, hfrom, hlt⟩
    · exact .inr ⟨ht, hstore, hge, hto⟩
  · rintro (⟨ht, hstore, hfrom, hto⟩ | ⟨ht, hstore, hfrom, hto⟩)
    · exact ⟨ht, hstore, hfrom, hto.trans_le hstop⟩
    · exact ⟨ht, hstore, hstart.trans hfrom, hto⟩

end Store

/-! ### Runs -/

/-- What lines of a sale have at its time, the lines of all transactions have at theirs. -/
theorem Change.forall_sold {e : Engine} {now : Instant} {s after : Store}
    {P : Instant → List LineItem → Prop}
    (hsold : ∀ lines, P now (Transaction.numberedLines 1 lines)) (h : Change e now s after)
    (hs : ∀ t ∈ s.transactions, P t.createdAt t.lines) :
    ∀ t ∈ after.transactions, P t.createdAt t.lines := by
  have hupdate : ∀ {id : String} {f : Transaction → Transaction},
      (∀ t, (f t).createdAt = t.createdAt ∧ (f t).lines = t.lines) →
        ∀ t ∈ Rows.update (·.id) id f s.transactions, P t.createdAt t.lines := by
    intro id f hf
    refine List.forall_mem_map.2 fun t ht => ?_
    split
    · obtain ⟨htime, hlines⟩ := hf t
      exact htime ▸ hlines ▸ hs t ht
    · exact hs t ht
  cases h.rows with
  | none hsame => exact hsame ▸ hs
  | sold plan =>
    obtain ⟨sh, pricing, totals, -, hsold', rfl⟩ := Engine.planSale_eq_ok plan
    refine List.forall_mem_append.2 ⟨hs, List.forall_mem_singleton.2 ?_⟩
    rw [Engine.saleUnit, Store.unvoided_sold]
    exact hsold _
  | voided => exact hupdate fun _ => ⟨rfl, rfl⟩
  | refunded => exact hupdate fun _ => ⟨rfl, rfl⟩

namespace Engine

variable {κ : Type} {e : Engine} {c : CacheAccess κ} {w : World κ} {steps : List (Step κ)}

/-- **What is listed of a window**: the transactions of the actor's store that were made in it, each
once and as it is looked up, with its lines in order, by time and then by identifier. -/
structure Lists (e : Engine) (c : CacheAccess κ) (w : World κ) (actor : Actor)
    (start stop : Instant) (ts : List Transaction) : Prop where
  mem_iff : ∀ t, t ∈ ts ↔
    t ∈ w.store.transactions ∧ t.store = actor.store ∧ start ≤ t.createdAt ∧ t.createdAt < stop
  once : (ts.map (·.id)).Nodup
  found : ∀ t ∈ ts, e.Finds c w actor t.id t
  numbered : ∀ t ∈ ts, t.Numbered
  ordered : ts.Pairwise fun a b =>
    a.createdAt < b.createdAt ∨ a.createdAt = b.createdAt ∧ a.id < b.id

/-- **Windows are listed as they should be**: an answer is put together from two queries of the
tables, it is what it should be, and those for two windows are that for both together if one begins
where the other ends. -/
structure ListsWindows (e : Engine) (c : CacheAccess κ) (w : World κ) : Prop where
  answers : ∀ ids actor start stop, ∃ ts,
    e.handle c ids actor (.transactions start stop) w = (.ok (.transactions ts), w) ∧
      w.store.tables.transactionsWithin? actor.store start stop = some ts ∧
      ∀ t ∈ ts, w.store.tables.transaction? actor.store t.id = some t
  lists : ∀ {ids actor start stop ts}, start.hasPlainYear = true → stop.hasPlainYear = true →
    e.handle c ids actor (.transactions start stop) w = (.ok (.transactions ts), w) →
      e.Lists c w actor start stop ts
  joins : ∀ {ids actor start middle stop ts ts'}, start.hasPlainYear = true →
    middle.hasPlainYear = true → stop.hasPlainYear = true → start ≤ middle → middle ≤ stop →
      e.handle c ids actor (.transactions start middle) w = (.ok (.transactions ts), w) →
      e.handle c ids actor (.transactions middle stop) w = (.ok (.transactions ts'), w) →
        e.handle c ids actor (.transactions start stop) w = (.ok (.transactions (ts ++ ts')), w)

theorem handle_listing {ids : Ids} {actor : Actor} {start stop : Instant}
    {ts : List Transaction} :
    e.handle c ids actor (.transactions start stop) w = (.ok (.transactions ts), w) ↔
      w.store.transactionsWithin actor.store start stop = ts := by
  simp only [handle, look, mapAnswer_eq_ok, World.onStore, Action.query, Prod.mk.injEq,
    Except.ok.injEq, and_true, Reply.transactions.injEq, exists_eq_right]

/-- A listing is what it should be where instants are in the order of their kept texts. -/
theorem lists_transactionsWithin (h : w.store.Listable)
    (hplain : ∀ t ∈ w.store.transactions, t.createdAt.hasPlainYear = true) {actor : Actor}
    {start stop : Instant} (hstart : start.hasPlainYear = true) (hstop : stop.hasPlainYear = true) :
    e.Lists c w actor start stop (w.store.transactionsWithin actor.store start stop) where
  mem_iff t := by
    rw [Store.mem_transactionsWithin, Store.isMadeWithin_iff]
    refine and_congr_right fun ht => and_congr_right fun _ => ?_
    rw [Instant.keptText_le_iff hstart (hplain t ht), Instant.keptText_lt_iff (hplain t ht) hstop]
  once := Store.nodup_transactionsWithin h.keyed
  found t ht := by
    obtain ⟨hmem, hstore, -⟩ := Store.mem_transactionsWithin.1 ht
    exact finds_iff.2 (hstore ▸ Store.transaction?_of_mem h.keyed hmem)
  numbered t ht := h.numbered t (Store.mem_transactionsWithin.1 ht).1
  ordered := by
    refine (Store.pairwise_transactionsWithin h.keyed actor.store start stop).imp_of_mem ?_
    intro a b ha hb hlt
    have hplaina := hplain a (Store.mem_transactionsWithin.1 ha).1
    have hplainb := hplain b (Store.mem_transactionsWithin.1 hb).1
    rw [← Instant.keptText_lt_iff hplaina hplainb, ← Instant.keptText_inj hplaina hplainb]
    exact Prod.Lex.toLex_lt_toLex.1 hlt

/-- Transactions that are made while a clock shows the years 0 to 9999 can be listed. -/
theorem run_listable {now : Instant} (hnow : now.hasPlainYear = true) (cache : κ)
    (hshows : ∀ step ∈ steps, step.Shows fun t => t.hasPlainYear = true) :
    (e.run c (World.empty now cache) steps).store.Listable ∧
      ∀ t ∈ (e.run c (World.empty now cache) steps).store.transactions,
        t.createdAt.hasPlainYear = true := by
  have hreadable : ∀ step ∈ steps, step.Shows Instant.IsRepresentable := by
    intro step hstep
    cases step with
    | time later => exact isRepresentable_of_hasPlainYear (hshows _ hstep)
    | _ => trivial
  have history := (Recorded.empty (isRepresentable_of_hasPlainYear hnow) cache).run (e := e)
    (c := c) hreadable
  have hsold : ∀ t ∈ (e.run c (World.empty now cache) steps).store.transactions,
      t.createdAt.hasPlainYear = true ∧ t.Numbered :=
    run_keeps_shown
      (P := fun s => ∀ t ∈ s.transactions, t.createdAt.hasPlainYear = true ∧ t.Numbered)
      (fun hnow hchange => hchange.forall_sold
        (P := fun at' lines => at'.hasPlainYear = true ∧
          (lines.map LineItem.number).Pairwise (· < ·))
        fun lines => ⟨hnow, Transaction.numberedLines_pairwise 1 lines⟩)
      hnow hshows fun _ ht => absurd ht List.not_mem_nil
  exact ⟨⟨history.keyed, history.legible, fun t ht => (hsold t ht).2⟩, fun t ht => (hsold t ht).1⟩

/-- **Every window of every run is listed as it should be**, if its clock shows the years 0 to
9999. -/
theorem run_listsWindows {now : Instant} (hnow : now.hasPlainYear = true) (cache : κ)
    (hshows : ∀ step ∈ steps, step.Shows fun t => t.hasPlainYear = true) :
    e.ListsWindows c (e.run c (World.empty now cache) steps) := by
  obtain ⟨hlistable, hplain⟩ := run_listable (e := e) (c := c) hnow cache hshows
  constructor
  · intro ids actor start stop
    refine ⟨_, handle_listing.2 rfl, Store.transactionsWithin?_tables hlistable _ _ _, ?_⟩
    intro t ht
    obtain ⟨hmem, hstore, -⟩ := Store.mem_transactionsWithin.1 ht
    rw [Store.transaction?_tables hlistable.keyed hlistable.legible, ← hstore]
    exact Store.transaction?_of_mem hlistable.keyed hmem
  · intro ids actor start stop ts hstart hstop hreply
    obtain rfl := handle_listing.1 hreply
    exact lists_transactionsWithin hlistable hplain hstart hstop
  · intro ids actor start middle stop ts ts' hstart hmiddle hstop hfirst hsecond hreply hreply'
    obtain rfl := handle_listing.1 hreply
    obtain rfl := handle_listing.1 hreply'
    exact handle_listing.2 (Store.transactionsWithin_append hlistable.keyed
      ((Instant.keptText_le_iff hstart hmiddle).2 hfirst)
      ((Instant.keptText_le_iff hmiddle hstop).2 hsecond))

/-- **Two sales half a second apart** are listed in windows that end and begin between them. -/
theorem run_listsWindows_halfSecond :
    let till := DoubleSale.till 1
    let half : Instant := ⟨500000000⟩
    let steps := DoubleSale.steps half
    let w := till.run Cache.access (World.empty ⟨0⟩ .absent) steps
    ((⟨0⟩ : Instant).hasPlainYear = true ∧
        ∀ step ∈ steps, step.Shows fun t => t.hasPlainYear = true) ∧
      till.ListsWindows Cache.access w ∧
        ∀ ids,
          till.handle Cache.access ids DoubleSale.manager (.transactions ⟨0⟩ half) w =
              (.ok (.transactions [DoubleSale.sold "6" ⟨0⟩]), w) ∧
            till.handle Cache.access ids DoubleSale.manager (.transactions half ⟨1000000000⟩) w =
              (.ok (.transactions [DoubleSale.sold "7" half]), w) := by
  intro till half steps w
  have hstart : (⟨0⟩ : Instant).hasPlainYear = true := by decide +kernel
  have hshows : ∀ step ∈ steps, step.Shows fun t => t.hasPlainYear = true := by
    have hhalf : half.hasPlainYear = true := by decide +kernel
    simp [steps, DoubleSale.steps, DoubleSale.stocking, DoubleSale.checkout, Step.Shows, hhalf]
  have hsold : w.store.transactions = [DoubleSale.sold "6" ⟨0⟩, DoubleSale.sold "7" half] :=
    DoubleSale.transactions_run (by decide +kernel) (by decide +kernel) (by decide +kernel)
  have hfirst : [DoubleSale.sold "6" ⟨0⟩, DoubleSale.sold "7" half].filter
      (fun t => t.store == "store" && Store.isMadeWithin ⟨0⟩ half t) =
        [DoubleSale.sold "6" ⟨0⟩] := by decide +kernel
  have hsecond : [DoubleSale.sold "6" ⟨0⟩, DoubleSale.sold "7" half].filter
      (fun t => t.store == "store" && Store.isMadeWithin half ⟨1000000000⟩ t) =
        [DoubleSale.sold "7" half] := by decide +kernel
  have hlists := run_listsWindows (e := till) (c := Cache.access) hstart .absent hshows
  refine ⟨⟨hstart, hshows⟩, hlists, fun ids => ⟨?_, ?_⟩⟩
  · rw [handle_listing, Store.transactionsWithin, hsold, DoubleSale.manager, hfirst,
      List.mergeSort_singleton]
  · rw [handle_listing, Store.transactionsWithin, hsold, DoubleSale.manager, hsecond,
      List.mergeSort_singleton]

end Engine

end Till
