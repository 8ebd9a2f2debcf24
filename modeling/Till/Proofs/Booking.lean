import Mathlib.Data.List.Induction
import Till.Proofs.Answered
import Till.Proofs.Catalog
import Till.Proofs.Reconciliation

/-!
# Units of work that fit are booked

`Store.SaleFits`, `Store.VoidFits` and `Store.RefundFits` hold what the tests of a unit of work say
after it was booked.  Nothing else is tested: a unit for which they hold is booked.

* `Store.SaleFits.commits`, `Store.VoidFits.commits`, `Store.RefundFits.commits` : the units of
  work;
* `Store.HasRoom` : identifiers that no row of the store has, as those of new rows are meant to be,
  and logs in which the position of one more event fits, as it does for a long time
  (`Engine.run_logs_length`); so there always are identifiers for which there is room
  (`Engine.run_hasRoom`);
* `Store.HasRoom.movements`, `Store.HasRoom.appends` : then movements of known products pass their
  tests, and an event has its place at the end of the log of an open shift (`Store.shiftsWith`);
* `Store.unitsLeaving_of_mem` : if every product leaves once, so many units of it leave as its
  movement says.
-/

namespace Till

/-- **The identifiers are unused** in a store, and those of movements differ from each other. -/
structure Ids.Unused (ids : Ids) (s : Store) : Prop where
  transaction : s.hasTransaction ids.subject = false
  refund : ∀ r ∈ s.refunds, r.id ≠ ids.subject
  event : s.hasEvent ids.event = false
  movement : ∀ i, ∀ m ∈ s.movements, m.id ≠ ids.movement i
  apart : Function.Injective ids.movement

/-- **There is room for a request** in a store: the identifiers are unused, and every log can become
longer by one event. -/
structure Store.HasRoom (s : Store) (ids : Ids) : Prop where
  unused : ids.Unused s
  logs : ∀ sh ∈ s.shifts, Cents.Fits (sh.events.length + 1)

theorem Outcome.exists_mapM_eq_ok {ε α β : Type} {f : α → Outcome ε β} {p : β → Prop}
    {as : List α} (h : ∀ a ∈ as, ∃ b, f a = .ok b ∧ p b) :
    ∃ bs, as.mapM f = .ok bs ∧ ∀ b ∈ bs, p b := by
  induction as with
  | nil => exact ⟨[], rfl, nofun⟩
  | cons a as ih =>
    obtain ⟨⟨b, hb, hp⟩, has⟩ := List.forall_mem_cons.1 h
    obtain ⟨bs, hbs, hps⟩ := ih has
    refine ⟨b :: bs, ?_, List.forall_mem_cons.2 ⟨hp, hps⟩⟩
    rw [List.mapM_cons, hb, hbs]
    rfl

namespace Store

variable {s : Store} {sh : Shift} {e : DrawerEvent}

/-! ### Events -/

theorem Appends.hasShift (h : s.Appends sh e) : s.hasShift e.shift = true :=
  List.any_eq_true.2 ⟨sh, h.mem.1, beq_iff_eq.2 h.mem.2⟩

theorem appendEntry_of_appends {shift id : String} {entry : DrawerEntry} {at' : Instant}
    (happends : s.Appends sh e) (hplace : e = entry.place id shift (nextSeq sh.events) at') :
    s.appendEntry shift id entry at' = .ok (s.logged e, e) := by
  subst hplace
  have hadded := addEvent_eq_ok.2
    ⟨happends.amount, happends.position, happends.fresh, happends.hasShift, rfl⟩
  have hfound : s.shift? shift = some sh := happends.found
  have hseq : Cents.checked (nextSeq sh.events) = some (nextSeq sh.events) :=
    Cents.checked_eq_some.2 ⟨happends.fits, rfl⟩
  simp only [appendEntry, hfound, happends.isOpen, if_true, hseq, Outcome.ofOption,
    Outcome.bind_eq_ok, Outcome.pure_eq_ok]
  exact ⟨_, rfl, _, hadded, rfl⟩

/-- **An event has its place** at the end of the log of an open shift. -/
theorem HasRoom.appends {ids : Ids} {entry : DrawerEntry} {at' : Instant} (room : s.HasRoom ids)
    (k : s.Keyed) (logs : s.Logs) (hmem : sh ∈ s.shifts) (hopen : sh.isOpen = true)
    (hamount : 0 ≤ entry.amount) :
    s.Appends sh (entry.place ids.event sh.id (nextSeq sh.events) at') := by
  have horder := logs.inOrder sh hmem
  rw [horder.nextSeq_eq]
  exact ⟨shift?_of_mem k hmem, hopen, horder.nextSeq_eq.symm, room.logs sh hmem, hamount,
    hasPosition_eq_false k hmem horder, room.unused.event⟩

/-- The shifts after an entry was appended to the log of one of them. -/
def shiftsWith (s : Store) (shift id : String) (entry : DrawerEntry) (at' : Instant) : List Shift :=
  Rows.update (·.id) shift (fun sh => (sh.append id entry at').1) s.shifts

theorem shifts_logged_place (k : s.Keyed) (logs : s.Logs) (hmem : sh ∈ s.shifts)
    (entry : DrawerEntry) (id : String) (at' : Instant) :
    (s.logged (entry.place id sh.id (nextSeq sh.events) at')).shifts =
      s.shiftsWith sh.id id entry at' := by
  have horder := logs.inOrder sh hmem
  rw [shifts_logged, horder.nextSeq_eq]
  refine Rows.update_congr k.shifts hmem ?_
  have hplaced := horder.placeEvent_eq
    (e := entry.place id sh.id (sh.events.length + 1) at') rfl
  exact congrArg (fun events => { sh with events }) hplaced

end Store

/-- The event of an entry for a transaction in the log of a shift. -/
def Engine.eventFor (ids : Ids) (t : Transaction) (kind : DrawerKind) (amount : Int) (sh : Shift)
    (at' : Instant) : DrawerEvent :=
  (entryFor t kind amount).place ids.event sh.id (Store.nextSeq sh.events) at'

/-! ### Room in the logs -/

theorem Shift.Moves.length_eq {sh later : Shift} (h : sh.Moves later) :
    later.events.length = sh.events.length + 1 := by
  cases h with
  | appended => exact (Store.placeEvent_perm _ sh.events).length_eq
  | closed => exact (Store.placeEvent_perm _ sh.events).length_eq

/-- A change makes a log longer by one event at most. -/
theorem LogChange.length_le {s after : Store} (k : s.Keyed) (h : LogChange s after) {n : Nat}
    (hs : ∀ sh ∈ s.shifts, sh.events.length ≤ n) :
    ∀ sh ∈ after.shifts, sh.events.length ≤ n + 1 := by
  intro later hlater
  cases h with
  | none shifts => exact Nat.le_succ_of_le (hs later (shifts ▸ hlater))
  | opened _ _ shifts =>
    rw [shifts] at hlater
    rcases List.mem_append.1 hlater with hold | hnew
    · exact Nat.le_succ_of_le (hs later hold)
    · rw [List.mem_singleton.1 hnew]
      exact Nat.zero_le _
  | moved mem moves shifts =>
    rw [shifts] at hlater
    rcases (Rows.mem_update k.shifts mem).1 hlater with rfl | ⟨hold, -⟩
    · rw [moves.length_eq]
      exact Nat.succ_le_succ (hs _ mem)
    · exact Nat.le_succ_of_le (hs later hold)

/-- **A log has no more events** than the till has made steps. -/
theorem Engine.run_logs_length {κ : Type} (e : Engine) (c : CacheAccess κ) (now : Instant)
    (cache : κ) (steps : List (Step κ)) :
    ∀ sh ∈ (e.run c (World.empty now cache) steps).store.shifts,
      sh.events.length ≤ steps.length := by
  induction steps using List.reverseRecOn with
  | nil => exact fun _ hsh => absurd hsh List.not_mem_nil
  | append_singleton steps step ih =>
    have k := (e.run_sound c now cache steps).keyed
    rw [run_append, run_cons, run_nil, List.length_append, List.length_singleton]
    rcases e.apply_change c (e.run c (World.empty now cache) steps) step with hsame | hchange
    · rw [hsame]
      exact fun sh hsh => Nat.le_succ_of_le (ih sh hsh)
    · exact hchange.logs.length_le k ih

/-! ### Unused identifiers -/

/-- The identifiers that a new row must not have. -/
def Store.taken (s : Store) : List String :=
  s.transactions.map (·.id) ++ s.refunds.map (·.id) ++
    (s.shifts.flatMap (·.events)).map (·.id) ++ s.movements.map (·.id)

/-- Identifiers of strokes: so many of them, and more and more for the movements. -/
def Ids.strokes (n : Nat) : Ids where
  subject := .ofList (.replicate n '|')
  event := .ofList (.replicate n '|')
  movement i := .ofList (.replicate (n + i) '|')

/-- **Identifiers that are longer than all others are unused.** -/
theorem Ids.unused_strokes {s : Store} {n : Nat} (h : ∀ id ∈ s.taken, id.length < n) :
    (strokes n).Unused s := by
  have hne : ∀ {k : Nat}, n ≤ k → ∀ id ∈ s.taken, id ≠ .ofList (.replicate k '|') := by
    rintro k hle _ hid rfl
    have hshort := h _ hid
    rw [String.length_ofList, List.length_replicate] at hshort
    exact Nat.not_lt.2 hle hshort
  simp only [Store.taken, List.forall_mem_append, List.forall_mem_map, List.mem_flatMap,
    forall_exists_index, and_imp] at hne
  refine ⟨?_, (hne (Nat.le_refl n)).1.1.2, ?_, fun i => (hne (Nat.le_add_right n i)).2, ?_⟩
  · refine List.any_eq_false.2 fun t ht => ?_
    rw [beq_iff_eq]
    exact (hne (Nat.le_refl n)).1.1.1 t ht
  · refine List.any_eq_false.2 fun sh hsh => ?_
    rw [Bool.not_eq_true]
    refine List.any_eq_false.2 fun e he => ?_
    rw [beq_iff_eq]
    exact (hne (Nat.le_refl n)).1.2 e sh hsh he
  · intro i j hij
    have hlength := congrArg List.length (String.ofList_injective hij)
    rw [List.length_replicate, List.length_replicate] at hlength
    exact Nat.add_left_cancel hlength

/-- **After every run there is room** for one more request, as long as the till has not made more
steps than 64 bits can count. -/
theorem Engine.run_hasRoom {κ : Type} (e : Engine) (c : CacheAccess κ) (now : Instant) (cache : κ)
    {steps : List (Step κ)} (hcount : Cents.Fits (steps.length + 1)) :
    ∃ ids, (e.run c (World.empty now cache) steps).store.HasRoom ids := by
  refine ⟨.strokes (((e.run c (World.empty now cache) steps).store.taken.map String.length).sum + 1),
    Ids.unused_strokes ?_, ?_⟩
  · intro id hid
    exact Nat.lt_succ_of_le (List.le_sum_of_mem (List.mem_map_of_mem hid))
  · intro sh hsh
    have hlength := e.run_logs_length c now cache steps sh hsh
    simp only [Cents.Fits, Cents.least, Cents.greatest] at hcount ⊢
    omega
namespace Store

variable {s : Store} {sh : Shift} {e : DrawerEvent}

/-! ### Stock -/

theorem Carries.hasProduct {store product : String} (h : s.Carries store product) :
    s.hasProduct product = true := by
  obtain ⟨p, hp, hid, -⟩ := h
  exact List.any_eq_true.2 ⟨p, hp, beq_iff_eq.2 hid⟩

/-- **Movements of known products pass their tests.** -/
theorem HasRoom.movements {ids : Ids} (room : s.HasRoom ids) {α : Type} {rows : List α}
    {f : Nat → α → StockMovement} (hid : ∀ i a, (f i a).id = ids.movement i)
    (h : ∀ i, ∀ a ∈ rows, (f i a).delta ≠ 0 ∧ s.hasProduct (f i a).product = true) :
    (∀ m ∈ rows.mapIdx f,
      m.delta ≠ 0 ∧ s.hasProduct m.product = true ∧ ∀ n ∈ s.movements, n.id ≠ m.id) ∧
      ((rows.mapIdx f).map (·.id)).Nodup := by
  refine ⟨Rows.forall_mem_mapIdx fun i a ha => ⟨(h i a ha).1, (h i a ha).2, fun n hn => ?_⟩,
    Rows.nodup_mapIdx hid room.unused.apart rows⟩
  rw [hid i a]
  exact room.unused.movement i n hn

/-- **If every product leaves once**, so many units of it leave as its movement says. -/
theorem unitsLeaving_of_mem {ms : List StockMovement} {m : StockMovement}
    (hproducts : (ms.map (·.product)).Nodup) (hm : m ∈ ms) (hneg : m.delta < 0)
    (hfits : Cents.Fits (-m.delta)) : unitsLeaving ms m.product = .ok (-m.delta) := by
  obtain ⟨before, after, rfl, hbefore, hafter⟩ := Rows.exists_before_after hproducts hm
  have hothers : ∀ ns : List StockMovement, (∀ n ∈ ns, n.product ≠ m.product) →
      ns.filter (fun n => decide (n.delta < 0) && n.product == m.product) = [] := by
    intro ns hns
    rw [List.filter_eq_nil_iff]
    intro n hn
    simp [hns n hn]
  rw [unitsLeaving, List.filter_append, List.filter_cons_of_pos (by simp [hneg]),
    hothers before hbefore, hothers after hafter]
  simp [Cents.total, Cents.exact_of_fits hfits, pure, Except.pure, bind, Except.bind]

/-- **The test against overselling passes** if of every product there is as much as leaves. -/
theorem testAvailable_of_forall {store : String} {ms : List StockMovement}
    (h : ∀ m ∈ ms, m.delta < 0 → (s.activeProduct? store m.product).isSome ∧
      ∃ units available, unitsLeaving ms m.product = .ok units ∧
        s.stockLevel store m.product = .ok available ∧ units ≤ available) :
    s.testAvailable store ms = .ok () := by
  have hleaving : ∀ product ∈ productsLeaving ms, ∃ units,
      unitsLeaving ms product = .ok units ∧ s.testUnits store product units = .ok () := by
    intro product hproduct
    rw [productsLeaving, Text.mem_sortedDistinct] at hproduct
    obtain ⟨m, hm, rfl⟩ := List.mem_map.1 hproduct
    obtain ⟨hmem, hneg⟩ := List.mem_filter.1 hm
    obtain ⟨hactive, units, available, hunits, hlevel, hle⟩ := h m hmem (of_decide_eq_true hneg)
    exact ⟨units, hunits, testUnits_eq_ok.2 ⟨hactive, available, hlevel, hle⟩⟩
  have hdemand : ∃ demanded, demand ms = .ok demanded ∧
      ∀ d ∈ demanded, s.testUnits store d.1 d.2 = .ok () := by
    refine Outcome.exists_mapM_eq_ok ?_
    intro product hproduct
    obtain ⟨units, hunits, htest⟩ := hleaving product hproduct
    exact ⟨(product, units), by simp only [hunits]; rfl, htest⟩
  obtain ⟨demanded, hdemanded, htests⟩ := hdemand
  simp only [testAvailable, hdemanded, bind, Except.bind]
  exact testDemand_eq_ok.2 htests

/-! ### Units of work -/

theorem SaleFits.commits {u : SaleUnit} (h : s.SaleFits u sh e) :
    s.commitSale u = .ok (s.afterSale u e) := by
  have hshift : s.hasShift u.transaction.shift = true := by
    rw [← show e.shift = u.transaction.shift by rw [h.entry]; rfl]
    exact h.appends.hasShift
  simp only [commitSale, Outcome.bind_eq_ok, claimKey_eq_ok, testCatalogPrices_eq_ok,
    addTransaction_eq_ok, addMovements_eq_ok, Outcome.pure_eq_ok]
  refine ⟨_, ⟨h.unclaimed, rfl⟩, (), h.prices, (), testAvailable_of_forall h.available, _,
    ⟨h.refunded, h.fresh, hshift, h.lines, h.numbers, rfl⟩, _,
    ⟨h.movements, h.distinct, rfl⟩, _, appendEntry_of_appends (h.appends.of_shifts rfl) h.entry,
    rfl⟩

theorem VoidFits.commits {u : VoidUnit} {t : Transaction} (h : s.VoidFits u t sh e) :
    s.commitVoid u = .ok (s.afterVoid u e) := by
  have hnone : voidConflict u.transaction (s.transaction? u.store u.transaction) = none :=
    voidConflict_eq_none.2 ⟨t, h.found, h.completed, h.unrefunded⟩
  simp only [commitVoid, hnone, Outcome.bind_eq_ok, addMovements_eq_ok, Outcome.pure_eq_ok]
  exact ⟨_, ⟨h.movements, h.distinct, rfl⟩, _,
    appendEntry_of_appends (h.appends.of_shifts rfl) h.entry, rfl⟩

theorem RefundFits.commits {u : RefundUnit} {t : Transaction} (h : s.RefundFits u t sh e) :
    s.commitRefund u = .ok (s.afterRefund u e) := by
  have hshift : s.hasShift u.refund.shift = true := by
    rw [← show e.shift = u.refund.shift by rw [h.entry]; rfl]
    exact h.appends.hasShift
  have hpresent : (s.updateTransaction u.refund.transaction (paidBack u)).hasTransaction
      u.refund.transaction = true := by
    obtain ⟨hmem, hid, -⟩ := transaction?_eq_some h.found
    refine List.any_eq_true.2 ⟨paidBack u t, ?_, beq_iff_eq.2 hid⟩
    exact List.mem_map.2 ⟨t, hmem, by rw [if_pos (beq_iff_eq.2 hid)]⟩
  have hfound : (s.transaction? u.refund.store u.refund.transaction).filter (isRefundOf u) =
      some t := by
    rw [h.found, Option.filter_some, if_pos]
    simp [isRefundOf, h.completed, h.before]
  simp only [commitRefund, hfound, Outcome.bind_eq_ok, Outcome.ofOption_eq_ok, testNumbers_eq_ok,
    addRefund_eq_ok, addMovements_eq_ok, Outcome.pure_eq_ok]
  exact ⟨t, rfl, (), decide_eq_true h.after, _,
    ⟨h.amount, h.fresh, hpresent, hshift, rfl⟩, _, ⟨h.movements, h.distinct, rfl⟩, _,
    appendEntry_of_appends (h.appends.of_shifts rfl) h.entry, rfl⟩

end Store

end Till
