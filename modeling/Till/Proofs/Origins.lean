import Till.Proofs.Places

/-!
# Where rows come from

After a deed every row was there before, or it is what the deed has made, and then the deed tells
who has asked for it.

* `Transaction.Origin`, `Deed.transaction_origin` : where a transaction comes from;
* `Deed.refund_origin`, `Deed.order_origin` : where refunds and orders come from;
* `Shift.Origin`, `Deed.shift_origin` : where the state of a shift comes from.
-/

namespace Till

/-- **An actor authorizes** what an approver is recorded for at a store. -/
structure Actor.Authorizes (actor : Actor) (store approver : String) : Prop where
  elevated : actor.isElevated = true
  store : actor.store = store
  approver : actor.approver = approver

/-- **Where a transaction comes from** when a request of an actor was dealt with. -/
inductive Transaction.Origin (actor : Actor) (s : Store) (r : Request) : Transaction → Prop
  /-- It was there. -/
  | kept {t : Transaction} (mem : t ∈ s.transactions) : Origin actor s r t
  /-- It was sold. -/
  | sold {t : Transaction} {cart : Cart} {key : String} (request : r = .checkout cart key)
      (fresh : s.hasTransaction t.id = false) (completed : t.status = .completed)
      (prices : t.pricing.source = .manual ∨ s.PricedByCatalog t.store t.lines)
      (approved : t.pricing.source = .manual →
        ∃ approver, t.pricing.approvedBy = some approver ∧ actor.Authorizes t.store approver) :
      Origin actor s r t
  /-- It was voided. -/
  | voided {t t' : Transaction} {reason approver : String} (mem : t ∈ s.transactions)
      (precedes : t.Precedes t') (request : r = .void t'.id reason)
      (completed : t.status = .completed) (approved : t'.voidedBy = some approver)
      (authorized : actor.Authorizes t'.store approver) : Origin actor s r t'
  /-- A part of it was refunded. -/
  | refunded {t t' : Transaction} (mem : t ∈ s.transactions) (precedes : t.Precedes t')
      (unvoided : t'.status ≠ .voided) : Origin actor s r t'

/-- **Where the state of a shift comes from** when a request of an actor was dealt with. -/
inductive Shift.Origin (actor : Actor) (s : Store) (r : Request) : Shift → Prop
  /-- The shift was in this state. -/
  | kept {sh : Shift} (mem : sh ∈ s.shifts) : Origin actor s r sh
  /-- The shift has begun. -/
  | opened {sh : Shift} (fresh : s.hasShift sh.id = false) (isOpen : sh.isOpen = true)
      (unused : sh.events = []) : Origin actor s r sh
  /-- The shift was closed. -/
  | closed {sh sh' : Shift} {cash : Int} {ev : DrawerEvent} (mem : sh ∈ s.shifts)
      (id : sh'.id = sh.id) (request : r = .closeShift sh.id cash) (handles : actor.Handles sh)
      (manual : ev.isManual = false) (events : sh'.events.Perm (ev :: sh.events)) :
      Origin actor s r sh'
  /-- An entry was made by hand. -/
  | recorded {sh sh' : Shift} {entry : DrawerEntry} (mem : sh ∈ s.shifts) (id : sh'.id = sh.id)
      (still : sh'.isOpen = sh.isOpen) (request : r = .recordEntry sh.id entry)
      (handles : actor.Handles sh) : Origin actor s r sh'
  /-- An event was added behind which a transaction stands. -/
  | logged {sh sh' : Shift} {ev : DrawerEvent} (mem : sh ∈ s.shifts) (id : sh'.id = sh.id)
      (still : sh'.isOpen = sh.isOpen) (manual : ev.isManual = false)
      (events : sh'.events.Perm (ev :: sh.events)) : Origin actor s r sh'

/-- Prices are only set by hand by those who may do so. -/
theorem Transaction.pricingRecord_authorizes {actor : Actor} {manual : Option ManualOverride}
    {pricing : PricingRecord}
    (h : pricingRecord actor manual = .ok pricing)
    (hsource : pricing.source = .manual) :
    ∃ approver, pricing.approvedBy = some approver ∧ actor.Authorizes actor.store approver := by
  cases manual with
  | none =>
    obtain rfl := Outcome.pure_eq_ok.1 h
    cases hsource
  | some o =>
    simp only [pricingRecord, Actor.requireElevated, Outcome.bind_eq_ok,
      Outcome.require_eq_ok, Outcome.pure_eq_ok] at h
    obtain ⟨_, helevated, rfl⟩ := h
    exact ⟨actor.approver, rfl, helevated, rfl, rfl⟩

namespace Deed

variable {e : Engine} {ids : Ids} {actor : Actor} {now : Instant} {s after : Store} {r : Request}

/-! ### Transactions -/

/-- **Where the transactions after a deed come from.** -/
theorem transaction_origin (h : Deed e ids actor now s r after) (k : s.Keyed) :
    ∀ t' ∈ after.transactions, t'.Origin actor s r := by
  intro t' ht'
  have hsame := h.keeps_ledger
  cases h with
  | @sold cart key claim u sh ev claims plan fits =>
    rcases List.mem_append.1 ht' with hold | hnew
    · exact .kept hold
    · obtain ⟨sh₀, pricing, totals, -, hsold, hunit⟩ := Engine.planSale_eq_ok plan
      have hstored : Store.unvoided u.transaction = u.transaction := by
        rw [hunit]
        exact Store.unvoided_sold ..
      rw [List.mem_singleton.1 hnew, hstored]
      refine .sold rfl fits.fresh ?_ fits.prices ?_ <;> rw [hunit]
      · rfl
      · exact Transaction.pricingRecord_authorizes hsold.pricing
  | refused => exact .kept ht'
  | @voided reason sh sh' t u ev plan fits =>
    obtain ⟨ht, -, howned⟩ := Store.transaction?_eq_some plan.found
    have hid : u.transaction = t.id := by rw [plan.unit]; rfl
    have happrover : u.voidedBy = actor.approver := by rw [plan.unit]; rfl
    have hrows : t' ∈ Rows.update (·.id) t.id (Store.marked u) s.transactions := hid ▸ ht'
    rcases (Rows.mem_update k.transactions ht).1 hrows with rfl | ⟨hold, -⟩
    · exact .voided ht (Transaction.precedes_marked plan.voidable.1 u) rfl plan.voidable.1 rfl
        ⟨plan.elevated, howned.symm, happrover.symm⟩
    · exact .kept hold
  | @refunded amount reason sh sh' t refunded units u ev elevated shift owned plan unit fits =>
    have ht := (Store.transaction?_eq_some fits.found).1
    have hid : u.refund.transaction = t.id := by rw [unit]; rfl
    have hpaid : Store.paidBack u t = refunded := by rw [unit, plan.paidBack_eq]
    have hrows : t' ∈ Rows.update (·.id) t.id (Store.paidBack u) s.transactions := hid ▸ ht'
    rcases (Rows.mem_update k.transactions ht).1 hrows with rfl | ⟨hold, -⟩
    · rw [hpaid]
      refine .refunded ht plan.precedes ?_
      rw [plan.refunded]
      simp only
      split <;> nofun
    · exact .kept hold
  | _ => exact .kept ((hsame rfl).1 ▸ ht')

/-- **Where the refunds after a deed come from.** -/
theorem refund_origin (h : Deed e ids actor now s r after) :
    ∀ refund ∈ after.refunds, refund ∈ s.refunds ∨
      r = .refund refund.transaction refund.amount refund.reason ∧ refund ∉ s.refunds ∧
        actor.Authorizes refund.store refund.approvedBy := by
  intro refund hrefund
  have hsame := h.keeps_ledger
  cases h with
  | refunded elevated shift owned plan unit fits =>
    refine (List.mem_append.1 hrefund).imp_right fun hnew => ?_
    obtain rfl := List.mem_singleton.1 hnew
    refine ⟨by rw [unit]; rfl, fun hold => fits.fresh _ hold rfl, ?_⟩
    rw [unit]
    exact ⟨elevated, owned.symm, rfl⟩
  | sold | refused | voided => exact .inl hrefund
  | _ => exact .inl ((hsame rfl).2 ▸ hrefund)

/-! ### Orders -/

/-- **Where the orders after a deed come from.** -/
theorem order_origin (h : Deed e ids actor now s r after) (k : s.Keyed) :
    ∀ o' ∈ after.orders, (∃ o ∈ s.orders, o.Precedes o') ∨
      ∃ made, r = .createOrder made ∧ actor.isElevated = true ∧
        o' = made.make ids.subject actor now ∧ ∀ o ∈ s.orders, o.id ≠ o'.id := by
  intro o' ho'
  cases h with
  | orderAdded elevated check products added supplier =>
    obtain ⟨hfresh, -, -, -, rfl⟩ := Store.addOrder_eq_ok.1 added
    rcases List.mem_append.1 ho' with hold | hnew
    · exact .inl ⟨o', hold, .refl o'⟩
    · obtain rfl := List.mem_singleton.1 hnew
      exact .inr ⟨_, rfl, elevated, rfl, hfresh⟩
  | @received lines o received u booked check owned receive unit fits =>
    have ho := (Store.order?_eq_some fits.found).1
    have hid : u.order = o.id := by rw [unit]
    have hrows : o' ∈ Rows.update (·.id) o.id (fun o => Store.bookedOrder o booked u.receivedAt)
        s.orders := hid ▸ ho'
    rcases (Rows.mem_update k.orders ho).1 hrows with rfl | ⟨hold, -⟩
    · exact .inl ⟨o, ho, rfl, Store.map_asOrdered_receiveAll fits.lines⟩
    · exact .inl ⟨o', hold, .refl o'⟩
  | shiftOpened start added =>
    obtain ⟨-, -, -, rfl⟩ := Store.addShift_eq_ok.1 added
    exact .inl ⟨o', ho', .refl o'⟩
  | productAdded check added =>
    obtain ⟨-, -, -, rfl⟩ := Store.addProduct_eq_ok.1 added
    exact .inl ⟨o', ho', .refl o'⟩
  | supplierAdded check added =>
    obtain ⟨-, rfl⟩ := Store.addSupplier_eq_ok.1 added
    exact .inl ⟨o', ho', .refl o'⟩
  | shiftClosed | entryRecorded | sold | refused | voided | refunded =>
    exact .inl ⟨o', ho', .refl o'⟩

/-! ### Shifts -/

/-- Where shifts come from when an event was appended behind which a transaction stands. -/
theorem origin_of_appends (k : s.Keyed) {sh : Shift} {ev : DrawerEvent} (h : s.Appends sh ev)
    (hmanual : ev.isManual = false) : ∀ sh' ∈ (s.logged ev).shifts, sh'.Origin actor s r := by
  intro sh' hsh'
  obtain ⟨hmem, hid⟩ := h.mem
  rw [Store.shifts_logged, ← hid] at hsh'
  rcases (Rows.mem_update k.shifts hmem).1 hsh' with rfl | ⟨hold, -⟩
  · exact .logged hmem rfl rfl hmanual (Store.placeEvent_perm ev sh.events)
  · exact .kept hold

/-- **Where the shifts after a deed come from.** -/
theorem shift_origin (h : Deed e ids actor now s r after) (k : s.Keyed) :
    ∀ sh' ∈ after.shifts, sh'.Origin actor s r := by
  intro sh' hsh'
  cases h with
  | shiftOpened start added =>
    obtain ⟨-, hfresh, -, rfl⟩ := Store.addShift_eq_ok.1 added
    rcases List.mem_append.1 hsh' with hold | hnew
    · exact .kept hold
    · obtain rfl := List.mem_singleton.1 hnew
      exact .opened hfresh rfl rfl
  | @shiftClosed cash closed sh closure ev handles close fits =>
    obtain ⟨hmem, hid⟩ := Store.shift?_eq_some fits.found
    have hlast := fits.last
    rw [close.events, List.getLast?_concat] at hlast
    obtain rfl : sh.closing ids.event cash now = ev := Option.some.inj hlast
    rw [Store.shifts_afterClose closed _ hid, ← hid] at hsh'
    rcases (Rows.mem_update k.shifts hmem).1 hsh' with rfl | ⟨hold, -⟩
    · exact .closed hmem rfl rfl handles rfl (Store.placeEvent_perm _ sh.events)
    · exact .kept hold
  | @entryRecorded entry sh ev check handles place appends =>
    obtain ⟨hmem, hid⟩ := appends.mem
    rw [Store.shifts_logged, ← hid] at hsh'
    rcases (Rows.mem_update k.shifts hmem).1 hsh' with rfl | ⟨hold, -⟩
    · exact .recorded hmem rfl rfl rfl handles
    · exact .kept hold
  | sold claims plan fits =>
    obtain ⟨sh₀, pricing, totals, -, -, hunit⟩ := Engine.planSale_eq_ok plan
    exact origin_of_appends k fits.appends (by rw [fits.entry, hunit]; rfl) sh' hsh'
  | voided plan fits =>
    exact origin_of_appends k fits.appends (by rw [fits.entry, plan.unit]; rfl) sh' hsh'
  | refunded elevated shift owned plan unit fits =>
    exact origin_of_appends k fits.appends (by rw [fits.entry, unit]; rfl) sh' hsh'
  | productAdded check added =>
    obtain ⟨-, -, -, rfl⟩ := Store.addProduct_eq_ok.1 added
    exact .kept hsh'
  | supplierAdded check added =>
    obtain ⟨-, rfl⟩ := Store.addSupplier_eq_ok.1 added
    exact .kept hsh'
  | orderAdded elevated check products added =>
    obtain ⟨-, -, -, -, rfl⟩ := Store.addOrder_eq_ok.1 added
    exact .kept hsh'
  | refused | received => exact .kept hsh'

end Deed

end Till
