import Mathlib.Data.List.Induction
import Till.Proofs.Confined

/-!
# Stores do not see each other

A till serves several stores from the same tables, and it is as if each of them had a till of its
own: when everything that was asked for other stores is left out of a run, the rows of a store are
the same, and so are the answers given there, up to advice from a shared cache.

Two lemmas about a single request carry the proof: a request for this store keeps to its part
(`Engine.deal_keepsTo`), and

* `Deed.part_eq` : a request for another store leaves the part alone;
* `Deed.brings`, `Store.Reserves.mono` : it does not use reserved identifiers either.

From these, `Engine.run_isolated` follows by induction on the run.
-/

namespace Till

/-- **Identifiers are apart** if they have none in common. -/
structure Ids.Apart (ids ids' : Ids) : Prop where
  subject : ids.subject ≠ ids'.subject
  event : ids.event ≠ ids'.event
  movement : ∀ i j, ids.movement i ≠ ids'.movement j

/-! ### What a request adds -/

/-- **Rows come from a table and a store**: each of them is a state of a row of the table, or it is
a new row of the store. -/
def Rows.ComeFrom {α : Type} (key place : α → String) (new : String → Prop) (b : String)
    (rows after : List α) : Prop :=
  ∀ a' ∈ after, (∃ a ∈ rows, key a = key a' ∧ place a = place a') ∨ new (key a') ∧ place a' = b

namespace Rows.ComeFrom

variable {α : Type} {key place : α → String} {new : String → Prop} {b : String} {rows : List α}

theorem refl : ComeFrom key place new b rows rows := fun a ha => .inl ⟨a, ha, rfl, rfl⟩

theorem append {added : List α} (h : ∀ a ∈ added, new (key a) ∧ place a = b) :
    ComeFrom key place new b rows (rows ++ added) := by
  intro a' ha'
  rcases List.mem_append.1 ha' with hold | hnew
  · exact .inl ⟨a', hold, rfl, rfl⟩
  · exact .inr (h a' hnew)

theorem update {k : String} {f : α → α} (hf : ∀ a, key (f a) = key a ∧ place (f a) = place a) :
    ComeFrom key place new b rows (Rows.update key k f rows) := by
  intro a' ha'
  obtain ⟨a, ha, rfl⟩ := List.mem_map.1 ha'
  refine .inl ⟨a, ha, ?_⟩
  split
  · exact ⟨(hf a).1.symm, (hf a).2.symm⟩
  · exact ⟨rfl, rfl⟩

/-- Rows with a key that no new row has are those that were there. -/
theorem place_eq {after : List α} (h : ComeFrom key place new b rows after) {k c : String}
    (hold : ∀ a ∈ rows, key a = k → place a = c) (hnew : new k → b = c) :
    ∀ a' ∈ after, key a' = k → place a' = c := by
  intro a' ha' hk
  rcases h a' ha' with ⟨a, ha, hkey, hplace⟩ | ⟨hadded, hplace⟩
  · exact hplace ▸ hold a ha (hkey.trans hk)
  · exact hplace.trans (hnew (hk ▸ hadded))

end Rows.ComeFrom

/-- **What a request brings** to the tables: its rows have its identifiers and are of its store.  A
table may stay as it is. -/
structure Store.Brings (s after : Store) (ids : Ids) (b : String) : Prop where
  products : Rows.ComeFrom Product.id Product.store (· = ids.subject) b s.products after.products :=
    by exact .refl
  suppliers :
    Rows.ComeFrom Supplier.id Supplier.store (· = ids.subject) b s.suppliers after.suppliers := by
    exact .refl
  orders :
    Rows.ComeFrom PurchaseOrder.id PurchaseOrder.store (· = ids.subject) b s.orders
      after.orders := by
    exact .refl
  shifts : Rows.ComeFrom Shift.id Shift.store (· = ids.subject) b s.shifts after.shifts := by
    exact .refl
  transactions : Rows.ComeFrom Transaction.id Transaction.store (· = ids.subject) b s.transactions
    after.transactions := by exact .refl
  refunds : Rows.ComeFrom Refund.id Refund.store (· = ids.subject) b s.refunds after.refunds := by
    exact .refl
  movements : Rows.ComeFrom StockMovement.id StockMovement.store (∃ i, · = ids.movement i) b
    s.movements after.movements := by exact .refl
  events : ∀ sh' ∈ after.shifts, ∀ ev ∈ sh'.events,
    (∃ sh ∈ s.shifts, sh.store = sh'.store ∧ ev ∈ sh.events) ∨
      ev.id = ids.event ∧ sh'.store = b := by
    exact fun sh hsh _ hev => .inl ⟨sh, hsh, rfl, hev⟩

namespace Store

variable {s after : Store} {b c : String} {ids ids' : Ids}

/-- Identifiers stay reserved when rows come that do not have them or are of the store. -/
theorem Reserves.mono (h : s.Reserves b ids) (hbrings : s.Brings after ids' c)
    (hapart : c ≠ b → ids'.Apart ids) : after.Reserves b ids := by
  have hsubject : ids.subject = ids'.subject → c = b := fun hsame =>
    Decidable.by_contra fun hne => (hapart hne).subject hsame.symm
  refine { products := hbrings.products.place_eq h.products hsubject,
           suppliers := hbrings.suppliers.place_eq h.suppliers hsubject,
           orders := hbrings.orders.place_eq h.orders hsubject,
           shifts := hbrings.shifts.place_eq h.shifts hsubject,
           transactions := hbrings.transactions.place_eq h.transactions hsubject,
           refunds := hbrings.refunds.place_eq h.refunds hsubject,
           events := ?_, movements := ?_ }
  · intro sh' hsh' ev hev hid
    rcases hbrings.events sh' hsh' ev hev with ⟨sh, hsh, hstore, hold⟩ | ⟨hnew, hstore⟩
    · exact hstore ▸ h.events sh hsh ev hold hid
    · refine hstore.trans (Decidable.by_contra fun hne => ?_)
      exact (hapart hne).event (hnew.symm.trans hid)
  · intro m hm i hid
    refine hbrings.movements.place_eq (fun n hn hsame => h.movements n hn i hsame) ?_ m hm hid
    rintro ⟨j, hsame⟩
    exact Decidable.by_contra fun hne => (hapart hne).movement j i hsame.symm

end Store

/-- The events after one was appended. -/
theorem Store.Appends.brings {s : Store} {sh : Shift} {ev : DrawerEvent} (k : s.Keyed)
    (h : s.Appends sh ev) {ids : Ids} {b : String} (hid : ev.id = ids.event)
    (hstore : sh.store = b) :
    ∀ sh' ∈ (s.logged ev).shifts, ∀ ev' ∈ sh'.events,
      (∃ old ∈ s.shifts, old.store = sh'.store ∧ ev' ∈ old.events) ∨
        ev'.id = ids.event ∧ sh'.store = b := by
  intro sh' hsh' ev' hev'
  refine (Store.events_of_appends k h rfl sh' hsh' ev' hev').imp_right ?_
  rintro ⟨rfl, hplace⟩
  exact ⟨hid, hplace.trans hstore⟩

namespace Deed

variable {e : Engine} {ids : Ids} {actor : Actor} {now : Instant} {s after : Store} {r : Request}

/-- **What a request brings** has its identifiers and is of the store of the actor. -/
theorem brings (h : Deed e ids actor now s r after) (k : s.Keyed) :
    s.Brings after ids actor.store := by
  cases h with
  | shiftOpened start added =>
    simp only [Shift.start, Outcome.bind_eq_ok, Outcome.pure_eq_ok] at start
    obtain ⟨_, -, rfl⟩ := start
    obtain ⟨-, -, -, rfl⟩ := Store.addShift_eq_ok.1 added
    refine { shifts := .append (by simp [Store.unused]), events := ?_ }
    intro sh' hsh' ev hev
    rcases List.mem_append.1 hsh' with hold | hnew
    · exact .inl ⟨sh', hold, rfl, hev⟩
    · rw [List.mem_singleton.1 hnew] at hev
      cases hev
  | @shiftClosed cash closed sh closure ev handles close fits =>
    obtain ⟨hmem, hid⟩ := Store.shift?_eq_some fits.found
    have hlast := fits.last
    rw [close.events, List.getLast?_concat] at hlast
    obtain rfl : sh.closing ids.event cash now = ev := Option.some.inj hlast
    have hshifts := Store.shifts_afterClose (s := s) closed (sh.closing ids.event cash now) hid
    refine { shifts := ?_, events := ?_ }
    · rw [hshifts]
      exact .update fun _ => ⟨rfl, rfl⟩
    · rw [hshifts, ← hid]
      intro sh' hsh' ev' hev'
      refine (Store.events_of_update k hmem rfl rfl sh' hsh' ev' hev').imp_right ?_
      rintro ⟨rfl, hplace⟩
      exact ⟨rfl, hplace.trans handles.store⟩
  | entryRecorded check handles place appends =>
    exact { shifts := .update fun _ => ⟨rfl, rfl⟩,
            events := appends.brings k (by rw [place]; rfl) handles.store }
  | @sold cart key claim u sh ev claims plan fits =>
    obtain ⟨sh₀, pricing, totals, hshift, -, hunit⟩ := Engine.planSale_eq_ok plan
    obtain ⟨hmem, -, hstore, -⟩ := Store.openShift?_eq_some hshift
    obtain rfl : sh = sh₀ := fits.appends.eq_of_id k hmem (by rw [fits.entry, hunit]; rfl)
    refine { shifts := .update fun _ => ⟨rfl, rfl⟩, transactions := .append ?_,
             movements := .append ?_,
             events := fits.appends.brings k (by rw [fits.entry, hunit]; rfl) hstore }
    · rw [hunit]
      simp [Store.unvoided, Engine.saleUnit, Transaction.sold]
    · rw [hunit]
      exact Rows.forall_mem_mapIdx fun i _ _ => ⟨⟨i, rfl⟩, rfl⟩
  | refused => exact {}
  | @voided reason sh sh' t u ev plan fits =>
    obtain ⟨-, -, howned⟩ := Store.transaction?_eq_some plan.found
    obtain ⟨hmem, -, hstore, -⟩ := Store.openShift?_eq_some plan.shift
    obtain rfl : sh' = sh := fits.appends.eq_of_id k hmem (by rw [fits.entry, plan.unit]; rfl)
    refine { shifts := .update fun _ => ⟨rfl, rfl⟩, transactions := .update fun _ => ⟨rfl, rfl⟩,
             movements := .append ?_,
             events := fits.appends.brings k (by rw [fits.entry, plan.unit]; rfl) hstore }
    rw [plan.unit]
    exact Rows.forall_mem_mapIdx fun i _ _ => ⟨⟨i, rfl⟩, howned⟩
  | @refunded amount reason sh sh' t refunded units u ev elevated shift owned plan unit fits =>
    obtain ⟨hmem, -, hstore, -⟩ := Store.openShift?_eq_some shift
    obtain rfl : sh' = sh := fits.appends.eq_of_id k hmem (by rw [fits.entry, unit]; rfl)
    refine { shifts := .update fun _ => ⟨rfl, rfl⟩, transactions := .update fun _ => ⟨rfl, rfl⟩,
             refunds := .append ?_, movements := .append ?_,
             events := fits.appends.brings k (by rw [fits.entry, unit]; rfl) hstore }
    · rw [unit]
      simpa [Engine.refundUnit] using owned
    · rw [unit]
      exact Rows.forall_mem_mapIdx fun i _ _ => ⟨⟨i, rfl⟩, owned⟩
  | productAdded check added =>
    obtain ⟨-, -, -, rfl⟩ := Store.addProduct_eq_ok.1 added
    exact { products := .append (by simp [NewProduct.register]) }
  | supplierAdded check added =>
    obtain ⟨-, rfl⟩ := Store.addSupplier_eq_ok.1 added
    exact { suppliers := .append (by simp [NewSupplier.register]) }
  | orderAdded elevated check products added =>
    obtain ⟨-, -, -, -, rfl⟩ := Store.addOrder_eq_ok.1 added
    exact { orders := .append (by simp [NewOrder.make]) }
  | received check owned receive unit fits =>
    refine { orders := .update fun _ => ⟨rfl, rfl⟩, movements := .append ?_ }
    rw [unit]
    exact Rows.forall_mem_mapIdx fun i _ _ => ⟨⟨i, rfl⟩, owned⟩

end Deed

/-! ### What a request leaves alone -/

/-- **The part of a store stays**: each table is the same up to rows of other stores.  A table may
stay as a whole. -/
structure Store.LeavesAlone (b : String) (s after : Store) : Prop where
  products : after.products.filter (·.store == b) = s.products.filter (·.store == b) := by rfl
  suppliers : after.suppliers.filter (·.store == b) = s.suppliers.filter (·.store == b) := by rfl
  orders : after.orders.filter (·.store == b) = s.orders.filter (·.store == b) := by rfl
  shifts : after.shifts.filter (·.store == b) = s.shifts.filter (·.store == b) := by rfl
  transactions :
    after.transactions.filter (·.store == b) = s.transactions.filter (·.store == b) := by rfl
  refunds : after.refunds.filter (·.store == b) = s.refunds.filter (·.store == b) := by rfl
  movements : after.movements.filter (·.store == b) = s.movements.filter (·.store == b) := by rfl
  outcomes : after.outcomes.filter (·.store == b) = s.outcomes.filter (·.store == b) := by rfl

namespace Store

variable {s after : Store} {b : String}

theorem LeavesAlone.part_eq (h : LeavesAlone b s after) : after.part b = s.part b := by
  simp only [part, h.products, h.suppliers, h.orders, h.shifts, h.transactions, h.refunds,
    h.movements, h.outcomes]

/-- An event of a shift of another store. -/
theorem Appends.leavesAlone (k : s.Keyed) {sh : Shift} {ev : DrawerEvent} (h : s.Appends sh ev)
    (hother : sh.store ≠ b) :
    (s.logged ev).shifts.filter (·.store == b) = s.shifts.filter (·.store == b) := by
  rw [shifts_logged, ← h.mem.2]
  refine Rows.filter_update_of_not k.shifts ?_ h.mem.1 ?_
  · exact fun _ => rfl
  · simpa using hother

/-- A record of another store. -/
theorem remembered_leavesAlone {r : OutcomeRecord} (hother : r.store ≠ b) (now : Instant) :
    (s.remembered r now).outcomes.filter (·.store == b) = s.outcomes.filter (·.store == b) := by
  rw [remembered, Rows.filter_append_of_not (by simpa [OutcomeRecord.kept] using hother)]
  refine Rows.filter_filter_of_imp ?_
  intro o _ hmine
  have hstore : ¬o.store = r.store := fun hsame => hother (hsame.symm.trans (beq_iff_eq.1 hmine))
  simp [belongs, hstore]

end Store

namespace Deed

variable {e : Engine} {ids : Ids} {actor : Actor} {now : Instant} {s after : Store} {r : Request}
  {b : String}

/-- **A request for another store leaves the part of a store alone.** -/
theorem part_eq (h : Deed e ids actor now s r after) (k : s.Keyed) (hother : actor.store ≠ b) :
    after.part b = s.part b := by
  have hmovements : ∀ {α : Type} {rows : List α} {f : Nat → α → StockMovement},
      (∀ i a, (f i a).store = actor.store) →
        (s.movements ++ rows.mapIdx f).filter (·.store == b) =
          s.movements.filter (·.store == b) := by
    intro α rows f hstore
    refine Rows.filter_append_of_not (Rows.forall_mem_mapIdx fun i a _ => ?_)
    simpa [hstore] using hother
  refine Store.LeavesAlone.part_eq ?_
  cases h with
  | shiftOpened start added =>
    simp only [Shift.start, Outcome.bind_eq_ok, Outcome.pure_eq_ok] at start
    obtain ⟨_, -, rfl⟩ := start
    obtain ⟨-, -, -, rfl⟩ := Store.addShift_eq_ok.1 added
    exact { shifts := Rows.filter_append_of_not (by simpa [Store.unused] using hother) }
  | @shiftClosed cash closed sh closure ev handles close fits =>
    obtain ⟨hmem, hid⟩ := Store.shift?_eq_some fits.found
    have hlast := fits.last
    rw [close.events, List.getLast?_concat] at hlast
    obtain rfl : sh.closing ids.event cash now = ev := Option.some.inj hlast
    refine { shifts := ?_ }
    rw [Store.shifts_afterClose closed _ hid]
    rw [← hid]
    refine Rows.filter_update_of_not k.shifts ?_ hmem ?_
    · exact fun _ => rfl
    · simpa [handles.store] using hother
  | entryRecorded check handles place appends =>
    exact { shifts := appends.leavesAlone k (handles.store ▸ hother) }
  | @sold cart key claim u sh ev claims plan fits =>
    obtain ⟨sh₀, pricing, totals, hshift, -, hunit⟩ := Engine.planSale_eq_ok plan
    obtain ⟨hmem, -, hstore, -⟩ := Store.openShift?_eq_some hshift
    obtain rfl : sh = sh₀ := fits.appends.eq_of_id k hmem (by rw [fits.entry, hunit]; rfl)
    obtain ⟨-, hclaim⟩ := Claim.make_eq_ok.1 claims.made
    refine { shifts := fits.appends.leavesAlone k (hstore ▸ hother),
             transactions := Rows.filter_append_of_not ?_, movements := ?_,
             outcomes := Store.remembered_leavesAlone ?_ _ } <;> rw [hunit]
    · simpa [Store.unvoided, Engine.saleUnit, Transaction.sold] using hother
    · exact hmovements fun _ _ => rfl
    · rw [hclaim]
      exact hother
  | @refused cart key claim reason claims refusal kind =>
    obtain ⟨-, hclaim⟩ := Claim.make_eq_ok.1 claims.made
    refine { outcomes := Store.remembered_leavesAlone ?_ _ }
    rw [hclaim]
    exact hother
  | @voided reason sh sh' t u ev plan fits =>
    obtain ⟨ht, -, howned⟩ := Store.transaction?_eq_some plan.found
    obtain ⟨hmem, -, hstore, -⟩ := Store.openShift?_eq_some plan.shift
    obtain rfl : sh' = sh := fits.appends.eq_of_id k hmem (by rw [fits.entry, plan.unit]; rfl)
    refine { shifts := fits.appends.leavesAlone k (hstore ▸ hother), transactions := ?_,
             movements := ?_ } <;> rw [plan.unit]
    · refine Rows.filter_update_of_not k.transactions ?_ ht ?_
      · exact fun _ => rfl
      · simpa [howned] using hother
    · exact hmovements fun _ _ => howned
  | @refunded amount reason sh sh' t refunded units u ev elevated shift owned plan unit fits =>
    have ht := (Store.transaction?_eq_some fits.found).1
    obtain ⟨hmem, -, hstore, -⟩ := Store.openShift?_eq_some shift
    obtain rfl : sh' = sh := fits.appends.eq_of_id k hmem (by rw [fits.entry, unit]; rfl)
    refine { shifts := fits.appends.leavesAlone k (hstore ▸ hother), transactions := ?_,
             refunds := Rows.filter_append_of_not ?_, movements := ?_ } <;> rw [unit]
    · refine Rows.filter_update_of_not k.transactions ?_ ht ?_
      · exact fun _ => rfl
      · simpa [owned] using hother
    · simpa [Engine.refundUnit, owned] using hother
    · exact hmovements fun _ _ => owned
  | productAdded check added =>
    obtain ⟨-, -, -, rfl⟩ := Store.addProduct_eq_ok.1 added
    exact { products := Rows.filter_append_of_not (by simpa [NewProduct.register] using hother) }
  | supplierAdded check added =>
    obtain ⟨-, rfl⟩ := Store.addSupplier_eq_ok.1 added
    exact { suppliers := Rows.filter_append_of_not (by simpa [NewSupplier.register] using hother) }
  | orderAdded elevated check products added =>
    obtain ⟨-, -, -, -, rfl⟩ := Store.addOrder_eq_ok.1 added
    exact { orders := Rows.filter_append_of_not (by simpa [NewOrder.make] using hother) }
  | received check owned receive unit fits =>
    have ho := (Store.order?_eq_some fits.found).1
    refine { orders := ?_, movements := ?_ } <;> rw [unit]
    · refine Rows.filter_update_of_not k.orders ?_ ho ?_
      · exact fun _ => rfl
      · simpa [owned] using hother
    · exact hmovements fun _ _ => owned

end Deed

/-! ### Runs -/

/-- Whether a step is left in for a store: it is not a request for another store. -/
def Step.concerns {κ : Type} (b : String) : Step κ → Bool
  | .request _ actor _ => actor.store == b
  | _ => true

/-- **Identifiers are fresh** for a store: no request for another store has one of a request for
this one. -/
def FreshFor {κ : Type} (b : String) (steps : List (Step κ)) : Prop :=
  ∀ ids actor r, .request ids actor r ∈ steps → actor.store ≠ b →
    ∀ ids' actor' r', .request ids' actor' r' ∈ steps → actor'.store = b → ids.Apart ids'

namespace Engine

variable {κ : Type}

/-- **A store is isolated** in a run: it is as if only the requests for it had been made. -/
structure Isolates (e : Engine) (c : CacheAccess κ) (start : World κ) (b : String)
    (steps : List (Step κ)) : Prop where
  /-- Its rows are the same, -/
  rows : (e.run c start (steps.filter (Step.concerns b))).store = (e.run c start steps).store.part b
  /-- and so are the answers that are given, up to advice.  The safety of the cache is enough for
  them to be given in both runs or in none. -/
  answers : ∀ before ids actor r after, steps = before ++ .request ids actor r :: after →
    actor.store = b →
    let alone := (e.handle c ids actor r (e.run c start (before.filter (Step.concerns b)))).1
    let whole := (e.handle c ids actor r (e.run c start before)).1
    (alone ≠ .error .overflow ∧ whole ≠ .error .overflow) ∨
        (r.seeksAdvice = true → e.advisor.SafeWith c (e.run c start before).uptime) →
      Reply.withoutAdvice <$> alone = Reply.withoutAdvice <$> whole

/-- What a request for another store does to a store and to the identifiers reserved for it. -/
theorem handle_other (e : Engine) (c : CacheAccess κ) (ids : Ids) {actor : Actor} (r : Request)
    {w : World κ} {b : String} (k : w.store.Keyed) (hother : actor.store ≠ b) :
    (e.handle c ids actor r w).2.store.part b = w.store.part b := by
  rcases e.handle_deed c ids actor r w with hsame | hdeed
  · rw [hsame]
  · exact hdeed.part_eq k hother

theorem handle_reserves (e : Engine) (c : CacheAccess κ) {ids ids' : Ids} {actor : Actor}
    (r : Request) {w : World κ} {b : String} (k : w.store.Keyed)
    (hapart : actor.store ≠ b → ids.Apart ids') (h : w.store.Reserves b ids') :
    (e.handle c ids actor r w).2.store.Reserves b ids' := by
  rcases e.handle_deed c ids actor r w with hsame | hdeed
  · rw [hsame]
    exact h
  · exact h.mono (hdeed.brings k) hapart

/-- **A run for a store alone** gives its part of the store of the whole run, at the same time, as
long as the identifiers that its requests have are no others'. -/
theorem run_part (e : Engine) (c : CacheAccess κ) (now : Instant) (cache : κ) {b : String}
    (own : Ids → Prop) {steps : List (Step κ)}
    (howns : ∀ ids actor r, .request ids actor r ∈ steps → actor.store = b → own ids)
    (hapart : ∀ ids actor r, .request ids actor r ∈ steps → actor.store ≠ b →
      ∀ ids', own ids' → ids.Apart ids') :
    let w := e.run c (World.empty now cache) steps
    let alone := e.run c (World.empty now cache) (steps.filter (Step.concerns b))
    (∀ ids, own ids → w.store.Reserves b ids) ∧ alone.store = w.store.part b ∧
      alone.now = w.now ∧ alone.uptime = w.uptime := by
  -- The last step is left in or out.
  induction steps using List.reverseRecOn with
  | nil =>
    refine ⟨fun ids _ => ?_, rfl, rfl, rfl⟩
    constructor <;> simp [World.empty]
  | append_singleton steps step ih =>
    obtain ⟨hreserves, hstore, hnow, huptime⟩ := ih
      (fun ids actor r hmem => howns ids actor r (List.mem_append_left _ hmem))
      (fun ids actor r hmem => hapart ids actor r (List.mem_append_left _ hmem))
    have sound := e.run_sound c now cache steps
    have consistent := e.run_inPlace c now cache steps
    simp only [List.filter_append, run_append]
    generalize e.run c (World.empty now cache) steps = w at *
    generalize e.run c (World.empty now cache) (steps.filter (Step.concerns b)) = alone at *
    cases step with
    | purge =>
      refine ⟨fun ids hids => ?_, ?_, hnow, huptime⟩
      · have h := hreserves ids hids
        exact ⟨h.products, h.suppliers, h.orders, h.shifts, h.transactions, h.refunds, h.events,
          h.movements⟩
      · change (alone.store.purge alone.now).1 = (w.store.purge w.now).1.part b
        rw [hstore, hnow, Store.purge_part]
    | time now' => exact ⟨hreserves, hstore, rfl, huptime⟩
    | caching uptime cache' => exact ⟨hreserves, hstore, hnow, rfl⟩
    | request ids actor r =>
      have hmem : Step.request ids actor r ∈ steps ++ [Step.request ids actor r] := by simp
      have hafter : ∀ ids', own ids' → (e.handle c ids actor r w).2.store.Reserves b ids' :=
        fun ids' hids' => e.handle_reserves c r sound.keyed
          (fun hother => hapart ids actor r hmem hother ids' hids') (hreserves ids' hids')
      obtain ⟨cache₁, hwhole⟩ := e.handle_snd c ids actor r w
      refine ⟨hafter, ?_⟩
      by_cases hactor : actor.store = b
      · have hconcerns : [Step.request (κ := κ) ids actor r].filter (Step.concerns b) =
            [.request ids actor r] := by simp [Step.concerns, hactor]
        obtain ⟨cache₂, halone⟩ := e.handle_snd c ids actor r alone
        have hkeeps := e.deal_keepsTo w.now sound.keyed consistent
          (hactor ▸ hreserves ids (howns ids actor r hmem hactor)) r
        rw [hconcerns]
        change (e.handle c ids actor r alone).2.store = (e.handle c ids actor r w).2.store.part b ∧
          (e.handle c ids actor r alone).2.now = (e.handle c ids actor r w).2.now ∧
          (e.handle c ids actor r alone).2.uptime = (e.handle c ids actor r w).2.uptime
        rw [halone, hwhole, hstore, hnow, ← hactor, hkeeps]
        exact ⟨rfl, rfl, huptime⟩
      · have hconcerns : [Step.request (κ := κ) ids actor r].filter (Step.concerns b) = [] := by
          simp [Step.concerns, hactor]
        have hpart := e.handle_other c ids r sound.keyed hactor
        rw [hconcerns]
        change alone.store = (e.handle c ids actor r w).2.store.part b ∧
          alone.now = (e.handle c ids actor r w).2.now ∧
          alone.uptime = (e.handle c ids actor r w).2.uptime
        rw [hpart, hwhole]
        exact ⟨hstore, hnow, huptime⟩

/-- **Stores do not see each other**: every store is isolated in every run. -/
theorem run_isolates (e : Engine) (c : CacheAccess κ) (now : Instant) (cache : κ) (b : String)
    {steps : List (Step κ)} (fresh : FreshFor b steps) :
    e.Isolates c (World.empty now cache) b steps where
  rows := by
    refine (e.run_part c now cache
      (fun ids => ∃ actor r, .request ids actor r ∈ steps ∧ actor.store = b) ?_ ?_).2.1
    · intro ids actor r hmem hactor
      exact ⟨actor, r, hmem, hactor⟩
    · rintro ids actor r hmem hother ids' ⟨actor', r', hmem', hactor'⟩
      exact fresh ids actor r hmem hother ids' actor' r' hmem' hactor'
  answers := by
    intro before ids actor r after hsteps hactor alone whole hgiven
    subst hsteps
    have hmem : ∀ {step : Step κ}, step ∈ before → step ∈ before ++ .request ids actor r :: after :=
      List.mem_append_left _
    have hrequest : Step.request ids actor r ∈ before ++ .request ids actor r :: after := by simp
    -- The identifiers of the request are reserved, too, although it was not made yet.
    let own : Ids → Prop := fun ids' =>
      ids' = ids ∨ ∃ actor r, .request ids' actor r ∈ before ∧ actor.store = b
    have hapart : ∀ ids' actor' r', .request ids' actor' r' ∈ before → actor'.store ≠ b →
        ∀ ids'', own ids'' → ids'.Apart ids'' := by
      rintro ids' actor' r' hmem' hother ids'' (rfl | ⟨actor'', r'', hmem'', hactor''⟩)
      · exact fresh ids' actor' r' (hmem hmem') hother _ actor r hrequest hactor
      · exact fresh ids' actor' r' (hmem hmem') hother ids'' actor'' r'' (hmem hmem'') hactor''
    obtain ⟨hreserves, hstore, hnow, huptime⟩ := e.run_part c now cache own
      (fun ids' actor' r' hmem' hactor' => .inr ⟨actor', r', hmem', hactor'⟩) hapart
    have hkeeps := e.deal_keepsTo (e.run c (World.empty now cache) before).now
      (e.run_sound c now cache before).keyed (e.run_inPlace c now cache before)
      (hactor ▸ hreserves ids (.inl rfl)) r
    rw [handle_unadvised (hgiven.imp And.left (huptime ▸ ·)),
      handle_unadvised (hgiven.imp_left And.right), hstore, hnow, ← hactor, hkeeps]
    rfl

/-- Two stores have a product with the same stock keeping unit, and neither sees the other's. -/
theorem run_isolates_sameSku :
    let stranger : Actor := ⟨"stranger", .manager, "elsewhere", none⟩
    let steps : List (Step Cache) := [
      .request (DoubleSale.ids "1") stranger (.registerProduct ⟨"A", "A", 5⟩),
      .request (DoubleSale.ids "2") DoubleSale.manager (.registerProduct ⟨"A", "B", 7⟩)]
    FreshFor "store" steps ∧
      (DoubleSale.till 60).Isolates Cache.access (World.empty ⟨0⟩ .absent) "store" steps := by
  intro stranger steps
  have hfresh : FreshFor "store" steps := by
    intro ids actor r hmem hother ids' actor' r' hmem' hactor'
    simp only [steps, List.mem_cons, List.not_mem_nil, or_false, Step.request.injEq] at hmem hmem'
    obtain ⟨rfl, rfl, rfl⟩ : ids = DoubleSale.ids "1" ∧ actor = stranger ∧ _ := by
      rcases hmem with hmem | ⟨-, rfl, -⟩
      · exact hmem
      · exact absurd rfl hother
    obtain ⟨rfl, -⟩ : ids' = DoubleSale.ids "2" ∧ True := by
      rcases hmem' with ⟨-, rfl, -⟩ | ⟨rfl, -⟩
      · exact absurd hactor' (by decide)
      · exact ⟨rfl, trivial⟩
    exact ⟨by decide, by decide, fun _ _ => show "1" ≠ "2" by decide⟩
  exact ⟨hfresh, run_isolates _ _ _ _ _ hfresh⟩

end Engine

end Till
