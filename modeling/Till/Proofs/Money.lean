import Till.Proofs.Drawer

/-!
# No money is lost

Every cent of a transaction is in the log of a drawer.  A transaction is accounted for
(`Store.Accounted`) if one event records its sale, its refunds and their events add up to what was
refunded, and an event reverses it exactly when it is voided.  `Store.Balanced` says so of all
transactions, and that the events behind which transactions stand leave exactly the takings of the
store in its drawers.

* `Store.Balanced.change` : every change keeps the balance;
* `Engine.run_booksBalance` : the books of a till balance after every run.
-/

namespace Till

namespace Store

/-! ### Accounts -/

/-- The kinds of events behind which transactions stand. -/
def isSalesKind : DrawerKind → Bool
  | .sale => true
  | .refund => true
  | .voidReversal => true
  | _ => false

/-- The refunds of a transaction, in the order in which they were made. -/
def refundsFor (s : Store) (transaction : String) : List Refund :=
  s.refunds.filter fun r => r.transaction == transaction

/-- **A transaction is accounted for** by the events and the refunds of a store. -/
structure Accounted (s : Store) (t : Transaction) : Prop where
  /-- One event records the sale. -/
  sale : (s.eventsFor .sale t.id).length = 1
  /-- It records the whole total. -/
  saleAmount : ∀ e ∈ s.eventsFor .sale t.id, e.amount = t.grand
  /-- The refunds add up to what was refunded. -/
  refunds : ((s.refundsFor t.id).map (·.amount)).sum = t.refunded
  /-- So do their events. -/
  refundEvents : ((s.eventsFor .refund t.id).map (·.amount)).sum = t.refunded
  /-- What was refunded is a part of the total. -/
  bounds : 0 ≤ t.refunded ∧ t.refunded ≤ t.grand
  /-- One event reverses the sale if it is voided, and none otherwise. -/
  reversal : (s.eventsFor .voidReversal t.id).length = if t.status = .voided then 1 else 0
  /-- The event that reverses the sale reverses the whole total. -/
  reversalAmount : ∀ e ∈ s.eventsFor .voidReversal t.id, e.amount = t.grand
  /-- Nothing of a voided transaction was refunded. -/
  voided : t.status = .voided → t.refunded = 0
  /-- A transaction counts as refunded when its positive total was paid back. -/
  refunded : t.status = .refunded ↔ 0 < t.grand ∧ t.refunded = t.grand
  /-- All these events have the payment method of the transaction. -/
  payment : ∀ kind, isSalesKind kind = true → ∀ e ∈ s.eventsFor kind t.id,
    e.payment = some t.payment

/-- A sale in cash at a store that was not voided. -/
def leavesCash (store : String) (t : Transaction) : Bool :=
  t.store == store && t.payment.movesCash && !decide (t.status = .voided)

/-- What sales leave in the drawers of a store: cash that was neither paid back nor reversed. -/
def takings (s : Store) (store : String) : Int :=
  Rows.total (leavesCash store) (fun t => t.grand - t.refunded) s.transactions

/-- **The balance** of the books that every change keeps. -/
structure Balanced (s : Store) : Prop where
  /-- Every transaction is accounted for. -/
  accounted : ∀ t ∈ s.transactions, s.Accounted t
  /-- Behind every event of these kinds stands a transaction. -/
  referred : ∀ e ∈ s.events, isSalesKind e.kind = true →
    ∃ t ∈ s.transactions, e.reference = some t.id
  /-- Behind every refund stands a transaction. -/
  refunds : ∀ r ∈ s.refunds, ∃ t ∈ s.transactions, r.transaction = t.id
  /-- These events leave the takings in the drawers. -/
  cash : ∀ store, cashOf Shift.salesCash s store = s.takings store

variable {s after : Store} {t : Transaction} {sh : Shift} {ev : DrawerEvent} {id : String}
  {kind : DrawerKind}

/-! ### Events of one transaction -/

theorem eventsFor_logged_self (k : s.Keyed) (hmem : sh ∈ s.shifts) (hid : sh.id = ev.shift)
    (href : ev.reference = some id) :
    ((s.logged ev).eventsFor ev.kind id).Perm (ev :: s.eventsFor ev.kind id) := by
  have h := eventsFor_logged k hmem hid ev.kind id
  rwa [if_pos (by simp [refersTo, href])] at h

theorem eventsFor_logged_of_ne (k : s.Keyed) (hmem : sh ∈ s.shifts) (hid : sh.id = ev.shift)
    (hne : ev.kind = kind → ev.reference ≠ some id) :
    ((s.logged ev).eventsFor kind id).Perm (s.eventsFor kind id) := by
  have h := eventsFor_logged k hmem hid kind id
  rwa [if_neg (by simpa [refersTo] using hne)] at h

theorem mem_events_logged (k : s.Keyed) (hmem : sh ∈ s.shifts) (hid : sh.id = ev.shift)
    {e : DrawerEvent} : e ∈ (s.logged ev).events ↔ e = ev ∨ e ∈ s.events :=
  (events_logged k hmem hid).mem_iff.trans List.mem_cons

theorem salesCash_logged (k : s.Keyed) (hmem : sh ∈ s.shifts) (hid : sh.id = ev.shift)
    (store : String) :
    cashOf Shift.salesCash (s.logged ev) store =
      cashOf Shift.salesCash s store +
        (if sh.store = store ∧ (!ev.isManual) = true then ev.effect else 0) :=
  cashOf_logged k hmem hid (fun e => !e.isManual) store

/-- The order of the events does not matter. -/
theorem Accounted.of_perm (h : s.Accounted t)
    (hevents : ∀ kind, isSalesKind kind = true →
      (after.eventsFor kind t.id).Perm (s.eventsFor kind t.id))
    (hrefunds : after.refundsFor t.id = s.refundsFor t.id) : after.Accounted t where
  sale := (hevents .sale rfl).length_eq.trans h.sale
  saleAmount e he := h.saleAmount e ((hevents .sale rfl).mem_iff.1 he)
  refunds := by rw [hrefunds, h.refunds]
  refundEvents := ((hevents .refund rfl).map DrawerEvent.amount).sum_eq.trans h.refundEvents
  bounds := h.bounds
  reversal := (hevents .voidReversal rfl).length_eq.trans h.reversal
  reversalAmount e he := h.reversalAmount e ((hevents .voidReversal rfl).mem_iff.1 he)
  voided := h.voided
  refunded := h.refunded
  payment kind hkind e he := h.payment kind hkind e ((hevents kind hkind).mem_iff.1 he)

theorem Balanced.eventsFor_eq_nil (h : s.Balanced) (hid : s.hasTransaction id = false)
    (hkind : isSalesKind kind = true) : s.eventsFor kind id = [] := by
  refine List.filter_eq_nil_iff.2 ?_
  intro e he href
  simp only [refersTo, Bool.and_eq_true, decide_eq_true_eq] at href
  obtain ⟨t, ht, hreference⟩ := h.referred e he (href.1.symm ▸ hkind)
  rw [href.2] at hreference
  exact hasTransaction_eq_false.1 hid (List.mem_map.2 ⟨t, ht, (Option.some.inj hreference).symm⟩)

theorem Balanced.refundsFor_eq_nil (h : s.Balanced) (hid : s.hasTransaction id = false) :
    s.refundsFor id = [] := by
  refine List.filter_eq_nil_iff.2 ?_
  intro r hr href
  obtain ⟨t, ht, hreference⟩ := h.refunds r hr
  have : t.id = id := by simpa [hreference] using href
  exact hasTransaction_eq_false.1 hid (List.mem_map.2 ⟨t, ht, this⟩)

/-! ### Changes that do not touch transactions -/

/-- The balance is about shifts, transactions and refunds. -/
theorem Balanced.of_same (h : s.Balanced) (hshifts : after.shifts = s.shifts)
    (htransactions : after.transactions = s.transactions) (hrefunds : after.refunds = s.refunds) :
    after.Balanced where
  accounted t ht := by
    refine (h.accounted t (htransactions ▸ ht)).of_perm ?_ ?_
    · intro kind _
      rw [eventsFor, events, hshifts]
      exact .refl _
    · rw [refundsFor, hrefunds]
      rfl
  referred e he hkind := by
    rw [events, hshifts] at he
    rw [htransactions]
    exact h.referred e he hkind
  refunds r hr := by
    rw [htransactions]
    exact h.refunds r (hrefunds ▸ hr)
  cash store := by
    rw [cashOf, hshifts, takings, htransactions]
    exact h.cash store

theorem Balanced.shiftOpened (h : s.Balanced) (sh : Shift) :
    ({ s with shifts := s.shifts ++ [unused sh] } : Store).Balanced := by
  have hevents : ({ s with shifts := s.shifts ++ [unused sh] } : Store).events = s.events := by
    simp [Store.events, unused]
  refine { accounted := ?_, referred := ?_, refunds := h.refunds, cash := ?_ }
  · intro t ht
    refine (h.accounted t ht).of_perm ?_ rfl
    intro kind _
    rw [eventsFor, hevents]
    exact .refl _
  · intro e he hkind
    rw [hevents] at he
    exact h.referred e he hkind
  · intro store
    have hnone : (unused sh).salesCash = 0 := rfl
    have hcash := h.cash store
    simp only [cashOf, takings, Rows.total_append, Rows.total_cons, Rows.total_nil, hnone]
      at hcash ⊢
    rw [hcash]
    simp

theorem Balanced.withEnd (h : s.Balanced) (closed : Shift) : (s.withEnd closed).Balanced := by
  refine { accounted := ?_, referred := ?_, refunds := h.refunds, cash := ?_ }
  · intro t ht
    refine (h.accounted t ht).of_perm ?_ rfl
    intro kind _
    rw [eventsFor, events_withEnd]
    exact .refl _
  · intro e he hkind
    rw [events_withEnd] at he
    exact h.referred e he hkind
  · intro store
    rw [cashOf_withEnd s closed fun _ => rfl]
    exact h.cash store

/-- An event behind which no transaction stands keeps the balance. -/
theorem Balanced.logged (h : s.Balanced) (k : s.Keyed) (hmem : sh ∈ s.shifts)
    (hid : sh.id = ev.shift) (hkind : isSalesKind ev.kind = false)
    (heffect : ev.isManual = true ∨ ev.effect = 0) : (s.logged ev).Balanced := by
  refine { accounted := ?_, referred := ?_, refunds := h.refunds, cash := ?_ }
  · intro t ht
    refine (h.accounted t ht).of_perm ?_ rfl
    intro kind hsales
    refine eventsFor_logged_of_ne k hmem hid ?_
    intro hsame
    rw [hsame, hsales] at hkind
    cases hkind
  · intro e he hsales
    rcases (mem_events_logged k hmem hid).1 he with rfl | he
    · rw [hsales] at hkind
      cases hkind
    · exact h.referred e he hsales
  · intro store
    rw [salesCash_logged k hmem hid, h.cash store]
    rcases heffect with hmanual | hzero
    · simp [hmanual, takings, Store.logged, updateShift]
    · simp [hzero, takings, Store.logged, updateShift]

/-! ### Events of sales, voids and refunds -/

/-- **An event records** an amount of a transaction. -/
structure Records (t : Transaction) (kind : DrawerKind) (amount : Int) (ev : DrawerEvent) :
    Prop where
  kind : ev.kind = kind
  amount : ev.amount = amount
  payment : ev.payment = some t.payment
  reference : ev.reference = some t.id

theorem records_place (t : Transaction) (kind : DrawerKind) (amount : Int) (id shift : String)
    (seq : Int) (at' : Instant) :
    Records t kind amount ((Engine.entryFor t kind amount).place id shift seq at') :=
  ⟨rfl, rfl, rfl, rfl⟩

theorem Records.effect {amount : Int} (h : Records t kind amount ev) :
    ev.effect = if t.payment.movesCash then amount * kind.direction else 0 := by
  simp [DrawerEvent.effect, DrawerEvent.movesCash, h.payment, h.amount, h.kind]

theorem Records.isManual {amount : Int} (h : Records t kind amount ev)
    (hkind : isSalesKind kind = true) : ev.isManual = false := by
  rw [DrawerEvent.isManual, h.kind]
  cases kind <;> first | rfl | cases hkind

theorem Records.eventsFor_of_ne {amount : Int} (h : Records t kind amount ev) (k : s.Keyed)
    (hmem : sh ∈ s.shifts) (hid : sh.id = ev.shift) {id : String} (hne : id ≠ t.id)
    (kind' : DrawerKind) :
    ((s.logged ev).eventsFor kind' id).Perm (s.eventsFor kind' id) := by
  refine eventsFor_logged_of_ne k hmem hid fun _ href => hne ?_
  rw [h.reference] at href
  exact (Option.some.inj href).symm

theorem Records.eventsFor_of_kind {amount : Int} (h : Records t kind amount ev) (k : s.Keyed)
    (hmem : sh ∈ s.shifts) (hid : sh.id = ev.shift) (kind' : DrawerKind) (hne : kind ≠ kind')
    (id : String) : ((s.logged ev).eventsFor kind' id).Perm (s.eventsFor kind' id) :=
  eventsFor_logged_of_ne k hmem hid fun hsame => absurd (h.kind.symm.trans hsame) hne

theorem Records.eventsFor_self {amount : Int} (h : Records t kind amount ev) (k : s.Keyed)
    (hmem : sh ∈ s.shifts) (hid : sh.id = ev.shift) :
    ((s.logged ev).eventsFor kind t.id).Perm (ev :: s.eventsFor kind t.id) := by
  have hself := eventsFor_logged_self k hmem hid h.reference
  rwa [h.kind] at hself

theorem Records.payment_logged {amount : Int} (h : Records t kind amount ev) (k : s.Keyed)
    (hmem : sh ∈ s.shifts) (hid : sh.id = ev.shift)
    (hbefore : ∀ kind', isSalesKind kind' = true → ∀ e ∈ s.eventsFor kind' t.id,
      e.payment = some t.payment)
    (kind' : DrawerKind) (hkind : isSalesKind kind' = true) (e : DrawerEvent)
    (he : e ∈ (s.logged ev).eventsFor kind' t.id) : e.payment = some t.payment := by
  by_cases hsame : kind = kind'
  · subst hsame
    rcases List.mem_cons.1 ((h.eventsFor_self k hmem hid).mem_iff.1 he) with rfl | he
    · exact h.payment
    · exact hbefore kind hkind e he
  · exact hbefore kind' hkind e ((h.eventsFor_of_kind k hmem hid kind' hsame t.id).mem_iff.1 he)

/-! ### A sale -/

theorem Balanced.accounted_sold (h : s.Balanced) (k : s.Keyed) (hmem : sh ∈ s.shifts)
    (hid : sh.id = ev.shift) (hrec : Records t .sale t.grand ev)
    (hfresh : s.hasTransaction t.id = false) (hstatus : t.status = .completed)
    (hrefunded : t.refunded = 0) (hgrand : 0 ≤ t.grand) : (s.logged ev).Accounted t := by
  -- No event refers to a transaction that is not there yet.
  have hnone : ∀ {kind}, isSalesKind kind = true → s.eventsFor kind t.id = [] := by
    intro kind hkind
    exact h.eventsFor_eq_nil hfresh hkind
  have hsale := hrec.eventsFor_self k hmem hid
  have hrefund := hrec.eventsFor_of_kind k hmem hid .refund (by decide) t.id
  have hreversal := hrec.eventsFor_of_kind k hmem hid .voidReversal (by decide) t.id
  rw [hnone rfl] at hsale hrefund hreversal
  rw [List.perm_nil] at hrefund hreversal
  exact {
    sale := hsale.length_eq
    saleAmount := by
      intro e he
      rw [List.mem_singleton.1 (hsale.mem_iff.1 he)]
      exact hrec.amount
    refunds := by
      rw [show (s.logged ev).refundsFor t.id = [] from h.refundsFor_eq_nil hfresh, hrefunded]
      rfl
    refundEvents := by
      rw [hrefund, hrefunded]
      rfl
    bounds := by omega
    reversal := by
      rw [hreversal, hstatus]
      rfl
    reversalAmount := by
      intro e he
      rw [hreversal] at he
      cases he
    voided := fun _ => hrefunded
    refunded := by
      rw [hstatus, hrefunded]
      constructor
      · intro hsame
        cases hsame
      · rintro ⟨hpos, hzero⟩
        omega
    payment := hrec.payment_logged k hmem hid fun kind' hkind e he => by
      rw [hnone hkind] at he
      cases he }

theorem Balanced.sold (h : s.Balanced) (k : s.Keyed) (hmem : sh ∈ s.shifts)
    (hid : sh.id = ev.shift) (hstore : sh.store = t.store) (hrec : Records t .sale t.grand ev)
    (hfresh : s.hasTransaction t.id = false) (hstatus : t.status = .completed)
    (hrefunded : t.refunded = 0) (hgrand : 0 ≤ t.grand) :
    ({ s.logged ev with transactions := s.transactions ++ [t] } : Store).Balanced := by
  have hnew := h.accounted_sold k hmem hid hrec hfresh hstatus hrefunded hgrand
  refine { accounted := ?_, referred := ?_, refunds := ?_, cash := ?_ }
  · intro t' ht'
    rcases List.mem_append.1 ht' with ht' | ht'
    · have hne : t'.id ≠ t.id := by
        intro heq
        exact hasTransaction_eq_false.1 hfresh (heq ▸ List.mem_map_of_mem ht')
      exact (h.accounted t' ht').of_perm
        (fun kind _ => hrec.eventsFor_of_ne k hmem hid hne kind) rfl
    · rw [List.mem_singleton.1 ht']
      exact hnew.of_perm (fun _ _ => .refl _) rfl
  · intro e he hkind
    rcases (mem_events_logged k hmem hid).1 he with rfl | he
    · exact ⟨t, List.mem_append_right _ List.mem_cons_self, hrec.reference⟩
    · obtain ⟨t', ht', href⟩ := h.referred e he hkind
      exact ⟨t', List.mem_append_left _ ht', href⟩
  · intro r hr
    obtain ⟨t', ht', href⟩ := h.refunds r hr
    exact ⟨t', List.mem_append_left _ ht', href⟩
  · intro store
    have hcash := salesCash_logged k hmem hid store
    rw [hrec.isManual rfl, hrec.effect, h.cash store, hstore] at hcash
    refine hcash.trans ?_
    simp only [takings, leavesCash, Rows.total_append, Rows.total_cons, Rows.total_nil, hstatus,
      hrefunded, DrawerKind.direction]
    by_cases hs : t.store = store <;> cases t.payment <;> simp [hs, PaymentMethod.movesCash]

/-! ### Voids and refunds -/

/-- Another version of a transaction: what was sold at which price stays. -/
structure SameSale (t t' : Transaction) : Prop where
  id : t'.id = t.id
  store : t'.store = t.store
  grand : t'.grand = t.grand
  payment : t'.payment = t.payment

theorem exists_update (k : s.Keyed) (ht : t ∈ s.transactions) {f : Transaction → Transaction}
    (hf : (f t).id = t.id) {p : String → Prop} (h : ∃ t' ∈ s.transactions, p t'.id) :
    ∃ t' ∈ Rows.update (·.id) t.id f s.transactions, p t'.id := by
  obtain ⟨t', ht', hp⟩ := h
  by_cases hsame : t'.id = t.id
  · exact ⟨f t, (Rows.mem_update k.transactions ht).2 (.inl rfl), by rwa [hf, ← hsame]⟩
  · exact ⟨t', (Rows.mem_update k.transactions ht).2 (.inr ⟨ht', hsame⟩), hp⟩

/-- **A change of one transaction** keeps the balance if the transaction is accounted for afterwards
and the event moves as much cash as the takings change. -/
theorem Balanced.updated (h : s.Balanced) (k : s.Keyed) (hmem : sh ∈ s.shifts)
    (hid : sh.id = ev.shift) (hstore : sh.store = t.store) (ht : t ∈ s.transactions)
    {amount : Int} (hrec : Records t kind amount ev) (hkind : isSalesKind kind = true)
    {f : Transaction → Transaction} (hf : SameSale t (f t)) {rs : List Refund}
    (hrs : ∀ r ∈ rs, r.transaction = t.id)
    (hnew : ({ s.logged ev with refunds := s.refunds ++ rs } : Store).Accounted (f t))
    (hcash : ∀ store, (if leavesCash store (f t) then (f t).grand - (f t).refunded else 0) =
      (if leavesCash store t then t.grand - t.refunded else 0) +
        (if t.store = store then ev.effect else 0)) :
    ({ s.logged ev with
        transactions := Rows.update (·.id) t.id f s.transactions
        refunds := s.refunds ++ rs } : Store).Balanced := by
  refine { accounted := ?_, referred := ?_, refunds := ?_, cash := ?_ }
  · intro t' ht'
    rcases (Rows.mem_update k.transactions ht).1 ht' with rfl | ⟨ht', hne⟩
    · exact hnew.of_perm (fun _ _ => .refl _) rfl
    · refine (h.accounted t' ht').of_perm
        (fun kind' _ => hrec.eventsFor_of_ne k hmem hid hne kind') ?_
      have hother : rs.filter (fun r => r.transaction == t'.id) = [] := by
        refine List.filter_eq_nil_iff.2 ?_
        intro r hr
        rw [hrs r hr]
        simpa using Ne.symm hne
      simp only [refundsFor, List.filter_append, hother, List.append_nil]
  · intro e he hsales
    refine exists_update k ht hf.id (p := fun id => e.reference = some id) ?_
    rcases (mem_events_logged k hmem hid).1 he with rfl | he
    · exact ⟨t, ht, hrec.reference⟩
    · exact h.referred e he hsales
  · intro r hr
    refine exists_update k ht hf.id (p := fun id => r.transaction = id) ?_
    rcases List.mem_append.1 hr with hr | hr
    · exact h.refunds r hr
    · exact ⟨t, ht, hrs r hr⟩
  · intro store
    have hsales := salesCash_logged k hmem hid store
    rw [hrec.isManual hkind, h.cash store, hstore] at hsales
    refine hsales.trans ?_
    have htotal := Rows.total_update (leavesCash store) (fun t => t.grand - t.refunded)
      k.transactions ht f
    rw [hcash store] at htotal
    rw [takings, takings, htotal]
    simp only [Bool.not_false, and_true]
    omega

theorem Accounted.afterVoid (hold : s.Accounted t) (k : s.Keyed) (hmem : sh ∈ s.shifts)
    (hid : sh.id = ev.shift) (hrec : Records t .voidReversal t.grand ev)
    (hcompleted : t.status = .completed) (hunrefunded : t.refunded = 0) {t' : Transaction}
    (ht' : SameSale t t') (hstatus : t'.status = .voided) (hrefunded : t'.refunded = t.refunded) :
    (s.logged ev).Accounted t' := by
  -- It has not been reversed before.
  have hnone : s.eventsFor .voidReversal t.id = [] := by
    have := hold.reversal
    rw [hcompleted] at this
    exact List.eq_nil_of_length_eq_zero this
  have hreversal := hrec.eventsFor_self k hmem hid
  rw [hnone] at hreversal
  have hsale := hrec.eventsFor_of_kind k hmem hid .sale (by decide) t.id
  have hrefund := hrec.eventsFor_of_kind k hmem hid .refund (by decide) t.id
  refine { sale := ?_, saleAmount := ?_, refunds := ?_, refundEvents := ?_, bounds := ?_,
           reversal := ?_, reversalAmount := ?_, voided := ?_, refunded := ?_, payment := ?_ }
  · rw [ht'.id]
    exact hsale.length_eq.trans hold.sale
  · rw [ht'.id, ht'.grand]
    intro e he
    exact hold.saleAmount e (hsale.mem_iff.1 he)
  · rw [ht'.id, hrefunded]
    exact hold.refunds
  · rw [ht'.id, hrefunded]
    exact (hrefund.map DrawerEvent.amount).sum_eq.trans hold.refundEvents
  · rw [hrefunded, ht'.grand]
    exact hold.bounds
  · rw [ht'.id, hstatus]
    exact hreversal.length_eq
  · rw [ht'.id, ht'.grand]
    intro e he
    rw [List.mem_singleton.1 (hreversal.mem_iff.1 he)]
    exact hrec.amount
  · exact fun _ => hrefunded.trans hunrefunded
  · rw [hstatus, hrefunded, hunrefunded, ht'.grand]
    constructor
    · intro hsame
      cases hsame
    · rintro ⟨hpos, hzero⟩
      omega
  · rw [ht'.id, ht'.payment]
    exact hrec.payment_logged k hmem hid hold.payment

theorem Accounted.afterRefund (hold : s.Accounted t) (k : s.Keyed) (hmem : sh ∈ s.shifts)
    (hid : sh.id = ev.shift) {r : Refund} (hr : r.transaction = t.id)
    (hrec : Records t .refund r.amount ev) (hpos : 0 < r.amount)
    (hcompleted : t.status = .completed) {t' : Transaction} (ht' : SameSale t t')
    (hrefunded : t'.refunded = t.refunded + r.amount) (hle : t'.refunded ≤ t.grand)
    (hstatus : t'.status = if t'.refunded = t.grand then .refunded else .completed) :
    ({ s.logged ev with refunds := s.refunds ++ [r] } : Store).Accounted t' := by
  have hrefund := hrec.eventsFor_self k hmem hid
  have hsale := hrec.eventsFor_of_kind k hmem hid .sale (by decide) t.id
  have hreversal := hrec.eventsFor_of_kind k hmem hid .voidReversal (by decide) t.id
  have hunvoided : t'.status ≠ .voided := by
    rw [hstatus]
    split <;> nofun
  have hbounds := hold.bounds
  refine { sale := ?_, saleAmount := ?_, refunds := ?_, refundEvents := ?_, bounds := ?_,
           reversal := ?_, reversalAmount := ?_, voided := ?_, refunded := ?_, payment := ?_ }
  · rw [ht'.id]
    exact hsale.length_eq.trans hold.sale
  · rw [ht'.id, ht'.grand]
    intro e he
    exact hold.saleAmount e (hsale.mem_iff.1 he)
  · rw [ht'.id, hrefunded, ← hold.refunds]
    simp [refundsFor, hr]
  · rw [ht'.id, hrefunded, ← hold.refundEvents]
    have hsum := (hrefund.map DrawerEvent.amount).sum_eq
    rw [List.map_cons, List.sum_cons, hrec.amount, Int.add_comm] at hsum
    exact hsum
  · rw [ht'.grand]
    exact ⟨by omega, hle⟩
  · rw [ht'.id, if_neg hunvoided]
    have hbefore := hold.reversal
    rw [hcompleted] at hbefore
    exact hreversal.length_eq.trans hbefore
  · rw [ht'.id, ht'.grand]
    intro e he
    exact hold.reversalAmount e (hreversal.mem_iff.1 he)
  · intro hvoided
    exact absurd hvoided hunvoided
  · rw [hstatus, ht'.grand]
    by_cases hall : t'.refunded = t.grand
    · rw [if_pos hall]
      exact ⟨fun _ => ⟨by omega, hall⟩, fun _ => rfl⟩
    · rw [if_neg hall]
      constructor
      · intro hsame
        cases hsame
      · rintro ⟨-, hsum⟩
        exact absurd hsum hall
  · rw [ht'.id, ht'.payment]
    exact hrec.payment_logged k hmem hid hold.payment

/-! ### Every change -/

theorem balanced_empty : ({} : Store).Balanced where
  accounted _ ht := absurd ht List.not_mem_nil
  referred _ he := absurd he List.not_mem_nil
  refunds _ hr := absurd hr List.not_mem_nil
  cash _ := rfl

theorem Balanced.afterSale (h : s.Balanced) (k : s.Keyed) {e : Engine} {now : Instant} {ids : Ids}
    {actor : Actor} {cart : Cart} {claim : Claim} {u : SaleUnit}
    (plan : e.planSale ids now actor cart claim s = .ok u) (fits : s.SaleFits u sh ev) :
    (s.afterSale u ev).Balanced := by
  obtain ⟨sh₀, pricing, totals, hshift, -, hunit⟩ := Engine.planSale_eq_ok plan
  obtain ⟨hmem, -, hstore, -⟩ := openShift?_eq_some hshift
  have hentry := fits.entry
  have hid : sh₀.id = ev.shift := by rw [hentry, hunit]; rfl
  have hrec : Records (unvoided u.transaction) .sale (unvoided u.transaction).grand ev := by
    rw [hentry, hunit]
    exact ⟨rfl, rfl, rfl, rfl⟩
  have hstatus : (unvoided u.transaction).status = .completed := by rw [hunit]; rfl
  have hrefunded : (unvoided u.transaction).refunded = 0 := by rw [hunit]; rfl
  have howned : sh₀.store = (unvoided u.transaction).store := by rw [hunit]; exact hstore
  have hgrand : 0 ≤ (unvoided u.transaction).grand := Int.le_trans fits.refunded.1 fits.refunded.2
  exact (h.sold k hmem hid howned hrec fits.fresh hstatus hrefunded hgrand).of_same rfl rfl rfl

theorem leavesCash_of_ne (h : t.status ≠ .voided) (store : String) :
    leavesCash store t = (t.store == store && t.payment.movesCash) := by
  simp [leavesCash, h]

theorem Balanced.afterVoid (h : s.Balanced) (k : s.Keyed) {e : Engine} {now : Instant} {ids : Ids}
    {actor : Actor} {reason : String} {sh' : Shift} {u : VoidUnit}
    (plan : e.VoidPlanned ids now actor reason s sh' t u) (fits : s.VoidFits u t sh ev) :
    (s.afterVoid u ev).Balanced := by
  obtain ⟨hmem, -, hstore, -⟩ := openShift?_eq_some plan.shift
  obtain ⟨ht, -, howned⟩ := transaction?_eq_some plan.found
  have hid : sh'.id = ev.shift := by rw [fits.entry, plan.unit]; rfl
  have hrec : Records t .voidReversal t.grand ev := by
    rw [fits.entry, plan.unit]
    exact records_place ..
  have hsame : SameSale t (marked u t) := ⟨rfl, rfl, rfl, rfl⟩
  have hnew := (h.accounted t ht).afterVoid k hmem hid hrec fits.completed fits.unrefunded hsame rfl
    rfl
  have hcash : ∀ store, (if leavesCash store (marked u t) then
      (marked u t).grand - (marked u t).refunded else 0) =
        (if leavesCash store t then t.grand - t.refunded else 0) +
          (if t.store = store then ev.effect else 0) := by
    intro store
    -- All that was taken goes back, as nothing was refunded.
    have hvoided : leavesCash store (marked u t) = false := by simp [leavesCash, marked]
    rw [hvoided, leavesCash_of_ne (by rw [fits.completed]; decide), hrec.effect, fits.unrefunded]
    by_cases hs : t.store = store <;> cases t.payment <;>
      simp [hs, PaymentMethod.movesCash, DrawerKind.direction]
  have hupdated := h.updated k hmem hid (hstore.trans howned.symm) ht hrec rfl hsame
    (List.forall_mem_nil _)
    (hnew.of_perm (fun _ _ => .refl _) (congrArg _ (List.append_nil s.refunds))) hcash
  -- A void adds no refund.
  have htransaction : t.id = u.transaction := by rw [plan.unit]; rfl
  rw [htransaction] at hupdated
  exact hupdated.of_same rfl rfl (List.append_nil _).symm

theorem Balanced.afterRefund (h : s.Balanced) (k : s.Keyed) {now : Instant} {ids : Ids}
    {actor : Actor} {amount : Int} {reason : String} {sh' : Shift} {refunded : Transaction}
    {units : List RestockLine} {u : RefundUnit}
    (shift : s.openShift? actor.cashier actor.store = some sh') (owned : t.store = actor.store)
    (plan : t.IsRefund amount refunded units)
    (unit : u = Engine.refundUnit ids now actor sh'.id amount reason t refunded units)
    (fits : s.RefundFits u t sh ev) : (s.afterRefund u ev).Balanced := by
  obtain ⟨hmem, -, hstore, -⟩ := openShift?_eq_some shift
  have ht := (transaction?_eq_some fits.found).1
  have hid : sh'.id = ev.shift := by rw [fits.entry, unit]; rfl
  have htransaction : u.refund.transaction = t.id := by rw [unit]; rfl
  have hamount : u.refund.amount = amount := by rw [unit]; rfl
  have hrec : Records t .refund u.refund.amount ev := by
    rw [fits.entry, unit]
    exact records_place ..
  have hsame : SameSale t (paidBack u t) := ⟨rfl, rfl, rfl, rfl⟩
  have hrefunded : (paidBack u t).refunded = t.refunded + u.refund.amount := by
    rw [hamount, unit]
    exact congrArg Transaction.refunded plan.refunded
  have hstatus : (paidBack u t).status =
      if (paidBack u t).refunded = t.grand then .refunded else .completed := by
    rw [hrefunded, hamount, unit]
    exact congrArg Transaction.status plan.refunded
  have hunvoided : (paidBack u t).status ≠ .voided := by
    rw [hstatus]
    split <;> nofun
  have hnew := (h.accounted t ht).afterRefund k hmem hid htransaction hrec fits.amount
    fits.completed hsame hrefunded fits.after.2 hstatus
  have hcash : ∀ store, (if leavesCash store (paidBack u t) then
      (paidBack u t).grand - (paidBack u t).refunded else 0) =
        (if leavesCash store t then t.grand - t.refunded else 0) +
          (if t.store = store then ev.effect else 0) := by
    intro store
    rw [leavesCash_of_ne hunvoided, leavesCash_of_ne (by rw [fits.completed]; decide), hrefunded,
      hsame.grand, hsame.store, hsame.payment, hrec.effect]
    by_cases hs : t.store = store <;> cases t.payment <;>
      simp [hs, PaymentMethod.movesCash, DrawerKind.direction]
    omega
  have hupdated := h.updated k hmem hid (hstore.trans owned.symm) ht hrec rfl hsame
    (fun r hr => List.mem_singleton.1 hr ▸ htransaction) hnew hcash
  rw [← htransaction] at hupdated
  exact hupdated.of_same rfl rfl rfl

/-- **Every change keeps the balance.** -/
theorem Balanced.change {e : Engine} {now : Instant} (h : s.Balanced) (k : s.Keyed)
    (hchange : Change e now s after) : after.Balanced := by
  cases hchange with
  | @shiftOpened _ _ _ sh _ start added =>
    obtain ⟨-, -, -, rfl⟩ := addShift_eq_ok.1 added
    exact h.shiftOpened sh
  | @shiftClosed ids actor cash closed sh closure ev owned close fits =>
    obtain ⟨hmem, hid⟩ := shift?_eq_some fits.found
    -- The event is logged in the shift that has just got its end.
    have hshift : (ended sh closed).id = ev.shift := by
      have hlast := fits.last
      rw [close.events, List.getLast?_concat] at hlast
      rw [← Option.some.inj hlast]
      rfl
    rw [afterClose_eq]
    refine (h.withEnd closed).logged (keyed_withEnd k closed) (mem_withEnd hmem hid) hshift ?_ ?_
    · rw [fits.kind]
      rfl
    · exact .inr (by simp [DrawerEvent.effect, fits.kind, DrawerKind.direction])
  | @entryRecorded _ _ entry sh ev check owned place appends =>
    obtain ⟨hmem, hid⟩ := appends.mem
    have hkind : isSalesKind ev.kind = false ∧ ev.isManual = true := by
      rw [place]
      rcases (Engine.checkManualEntry_eq_ok.1 check).1 with hin | hout
      · simp [DrawerEntry.place, DrawerEvent.isManual, isSalesKind, hin]
      · simp [DrawerEntry.place, DrawerEvent.isManual, isSalesKind, hout]
    exact h.logged k hmem hid hkind.1 (.inl hkind.2)
  | sold claims plan fits => exact h.afterSale k plan fits
  | refused => exact h.of_same rfl rfl rfl
  | voided plan fits => exact h.afterVoid k plan fits
  | refunded elevated shift owned plan unit fits => exact h.afterRefund k shift owned plan unit fits
  | productAdded check added =>
    obtain ⟨-, -, -, rfl⟩ := addProduct_eq_ok.1 added
    exact h.of_same rfl rfl rfl
  | supplierAdded check added =>
    obtain ⟨-, rfl⟩ := addSupplier_eq_ok.1 added
    exact h.of_same rfl rfl rfl
  | orderAdded elevated check products added =>
    obtain ⟨-, -, -, -, rfl⟩ := addOrder_eq_ok.1 added
    exact h.of_same rfl rfl rfl
  | received => exact h.of_same rfl rfl rfl
  | purged => exact h.of_same rfl rfl rfl

/-! ### Every run -/

/-- **The books balance**: every transaction is accounted for, no event speaks of a transaction that
is not there, and in the drawers of every store is what was there at the beginning of its shifts,
what was put in and taken out by hand, and its takings. -/
structure BooksBalance (s : Store) : Prop where
  /-- Every transaction is accounted for. -/
  accounted : ∀ t ∈ s.transactions, s.Accounted t
  /-- Behind every event of these kinds stands a transaction. -/
  referred : ∀ e ∈ s.events, isSalesKind e.kind = true →
    ∃ t ∈ s.transactions, e.reference = some t.id
  /-- Behind every refund stands a transaction. -/
  refunds : ∀ r ∈ s.refunds, ∃ t ∈ s.transactions, r.transaction = t.id
  /-- The expected cash of a shift, when it can be told, is the cash that is due. -/
  expected : ∀ sh ∈ s.shifts, ∀ n, sh.expectedCash = .ok n → n = sh.cashDue
  /-- The cash that is due in all drawers of a store. -/
  cash : ∀ store, cashOf Shift.cashDue s store =
    cashOf Shift.openingCash s store + cashOf Shift.manualCash s store + s.takings store

theorem Balanced.booksBalance (h : s.Balanced) : s.BooksBalance where
  accounted := h.accounted
  referred := h.referred
  refunds := h.refunds
  expected _ _ _ := Shift.expectedCash_eq_ok
  cash store := by
    have hdue : cashOf Shift.cashDue s store =
        cashOf (fun sh => sh.openingCash + sh.manualCash + sh.salesCash) s store :=
      Rows.total_congr (fun _ _ => rfl) fun sh _ _ => sh.cashDue_eq
    rw [hdue, ← h.cash store]
    simp only [cashOf, Rows.total_add]

end Store

/-- **No money is lost**: whatever was asked of a till, by whomever and at whatever times, its books
balance. -/
theorem Engine.run_booksBalance {κ : Type} (e : Engine) (c : CacheAccess κ) (now : Instant)
    (cache : κ) (steps : List (Step κ)) :
    (e.run c (World.empty now cache) steps).store.BooksBalance := by
  -- The balance alone is not kept: a change finds its rows by identifiers.
  have keeps : ∀ {now s after}, Change e now s after → s.Keyed ∧ s.Balanced →
      after.Keyed ∧ after.Balanced := by
    rintro now s after hchange ⟨k, b⟩
    exact ⟨k.change hchange, b.change k hchange⟩
  have h := Engine.run_induction (P := fun s => s.Keyed ∧ s.Balanced)
    ⟨Store.keyed_empty, Store.balanced_empty⟩ keeps c now cache steps
  exact h.2.booksBalance

end Till
