import Till.Proofs.Extends

/-!
# Everything is in its place

Rows refer to rows of other tables by identifiers.  `Store.Consistent` says that they refer to rows
of their own place: a sale to a shift of its cashier at its store, an event to a transaction of the
store of its shift, units to products of their store, and so on.  That the identifiers exist is
tested when a row is written, that the places agree is not, so it is proved of every change:

* `Store.Adds`, `Change.adds` : what a change adds is in its place;
* `Store.Consistent.change` : every change keeps everything in its place.
-/

namespace Till

namespace Store

/-! ### Places -/

/-- **A shift of a cashier at a store.** -/
def ShiftOf (s : Store) (id cashier store : String) : Prop :=
  ∃ sh ∈ s.shifts, sh.id = id ∧ sh.cashier = cashier ∧ sh.store = store

/-- **A transaction of a store.** -/
def SoldAt (s : Store) (store id : String) : Prop :=
  ∃ t ∈ s.transactions, t.id = id ∧ t.store = store

/-- **Everything is in its place.** -/
structure Consistent (s : Store) : Prop where
  /-- Products have identifiers of their own, -/
  products : (s.products.map (·.id)).Nodup
  /-- and so have suppliers. -/
  suppliers : (s.suppliers.map (·.id)).Nodup
  /-- A transaction was sold in a shift of its cashier at its store. -/
  sales : ∀ t ∈ s.transactions, s.ShiftOf t.shift t.cashier t.store
  /-- What was sold is carried there. -/
  lines : ∀ t ∈ s.transactions, ∀ l ∈ t.lines, s.Carries t.store l.product
  /-- A refund was made in a shift of its cashier at its store, -/
  refunders : ∀ r ∈ s.refunds, s.ShiftOf r.shift r.cashier r.store
  /-- and the transaction was sold there. -/
  refunds : ∀ r ∈ s.refunds, s.SoldAt r.store r.transaction
  /-- Behind an event of a shift stands a transaction of its store. -/
  events : ∀ sh ∈ s.shifts, ∀ ev ∈ sh.events, isSalesKind ev.kind = true →
    ∃ id, ev.reference = some id ∧ s.SoldAt sh.store id
  /-- Units move where their product is carried. -/
  movements : ∀ m ∈ s.movements, s.Carries m.store m.product
  /-- An order is made with a supplier of its store, -/
  orders : ∀ o ∈ s.orders, s.SuppliedBy o.store o.supplier
  /-- and what is ordered is carried there. -/
  ordered : ∀ o ∈ s.orders, ∀ l ∈ o.lines, s.Carries o.store l.product

variable {s after : Store} {id cashier store : String}

theorem consistent_empty : ({} : Store).Consistent := by
  constructor <;> simp

theorem ShiftOf.mono (h : s.ShiftOf id cashier store) (hextends : s.Extends after) :
    after.ShiftOf id cashier store := by
  obtain ⟨sh, hsh, rfl, rfl, rfl⟩ := h
  obtain ⟨later, hlater, hprecedes⟩ := hextends.shifts sh hsh
  obtain ⟨hid, hcashier, hstore, -⟩ := hprecedes.same
  exact ⟨later, (shift?_eq_some hlater).1, hid, hcashier, hstore⟩

theorem SoldAt.mono (h : s.SoldAt store id) (hextends : s.Extends after) :
    after.SoldAt store id := by
  obtain ⟨t, ht, rfl, rfl⟩ := h
  obtain ⟨later, hlater, -⟩ := hextends.transactions t ht
  exact ⟨later, transaction?_eq_some hlater⟩

theorem shiftOf_of_openShift? {sh : Shift} (h : s.openShift? cashier store = some sh) :
    s.ShiftOf sh.id cashier store := by
  obtain ⟨hmem, hcashier, hstore, -⟩ := openShift?_eq_some h
  exact ⟨sh, hmem, rfl, hcashier, hstore⟩

/-! ### What a change adds -/

/-- **What a change adds is in its place.** -/
structure Adds (s after : Store) : Prop where
  transactions : ∀ t' ∈ after.transactions, (∃ t ∈ s.transactions, t.Precedes t') ∨
    s.ShiftOf t'.shift t'.cashier t'.store ∧ ∀ l ∈ t'.lines, s.Carries t'.store l.product
  refunds : ∀ r ∈ after.refunds,
    r ∈ s.refunds ∨ s.ShiftOf r.shift r.cashier r.store ∧ s.SoldAt r.store r.transaction
  events : ∀ sh' ∈ after.shifts, ∀ ev ∈ sh'.events,
    (∃ sh ∈ s.shifts, sh.store = sh'.store ∧ ev ∈ sh.events) ∨
      (isSalesKind ev.kind = true → ∃ id, ev.reference = some id ∧ after.SoldAt sh'.store id)
  movements : ∀ m ∈ after.movements, m ∈ s.movements ∨ s.Carries m.store m.product

/-- A change of shifts adds nothing but events. -/
theorem Adds.of_events (htransactions : after.transactions = s.transactions)
    (hrefunds : after.refunds = s.refunds) (hmovements : after.movements = s.movements)
    (hevents : ∀ sh' ∈ after.shifts, ∀ ev ∈ sh'.events,
      (∃ sh ∈ s.shifts, sh.store = sh'.store ∧ ev ∈ sh.events) ∨ isSalesKind ev.kind = false) :
    s.Adds after where
  transactions t ht := .inl ⟨t, htransactions ▸ ht, .refl t⟩
  refunds _ hr := .inl (hrefunds ▸ hr)
  events sh hsh ev hev := (hevents sh hsh ev hev).imp_right fun hkind hsales => by
    rw [hkind] at hsales
    cases hsales
  movements _ hm := .inl (hmovements ▸ hm)

/-- A change of the other tables adds nothing here. -/
theorem Adds.of_same (hshifts : after.shifts = s.shifts)
    (htransactions : after.transactions = s.transactions) (hrefunds : after.refunds = s.refunds)
    (hmovements : after.movements = s.movements) : s.Adds after :=
  .of_events htransactions hrefunds hmovements fun sh hsh _ hev =>
    .inl ⟨sh, hshifts ▸ hsh, rfl, hev⟩

/-- The events after one was added to the log of a shift. -/
theorem events_of_update (k : s.Keyed) {sh : Shift} {ev : DrawerEvent} {f : Shift → Shift}
    (hmem : sh ∈ s.shifts) (hstore : (f sh).store = sh.store)
    (hevents : (f sh).events = placeEvent ev sh.events) :
    ∀ sh' ∈ Rows.update (·.id) sh.id f s.shifts, ∀ ev' ∈ sh'.events,
      (∃ old ∈ s.shifts, old.store = sh'.store ∧ ev' ∈ old.events) ∨
        ev' = ev ∧ sh'.store = sh.store := by
  intro sh' hsh' ev' hev'
  rcases (Rows.mem_update k.shifts hmem).1 hsh' with rfl | ⟨hold, -⟩
  · rw [hevents, (placeEvent_perm ev sh.events).mem_iff] at hev'
    rcases List.mem_cons.1 hev' with rfl | hev'
    · exact .inr ⟨rfl, hstore⟩
    · exact .inl ⟨sh, hmem, hstore.symm, hev'⟩
  · exact .inl ⟨sh', hold, rfl, hev'⟩

theorem events_of_appends (k : s.Keyed) {sh : Shift} {ev : DrawerEvent} (h : s.Appends sh ev)
    (hshifts : after.shifts = (s.logged ev).shifts) :
    ∀ sh' ∈ after.shifts, ∀ ev' ∈ sh'.events,
      (∃ old ∈ s.shifts, old.store = sh'.store ∧ ev' ∈ old.events) ∨
        ev' = ev ∧ sh'.store = sh.store := by
  obtain ⟨hmem, hid⟩ := h.mem
  rw [hshifts, shifts_logged, ← hid]
  exact events_of_update k hmem rfl rfl

/-- An event is appended to the shift that it was made for. -/
theorem Appends.eq_of_id (k : s.Keyed) {sh sh' : Shift} {ev : DrawerEvent} (h : s.Appends sh' ev)
    (hmem : sh ∈ s.shifts) (hid : ev.shift = sh.id) : sh' = sh :=
  List.inj_on_of_nodup_map k.shifts h.mem.1 hmem (h.mem.2.trans hid)

/-- A change of a transaction that leaves an event about it in a shift of its store. -/
theorem Adds.of_update (k : s.Keyed) {t : Transaction} {f : Transaction → Transaction} {sh : Shift}
    {ev : DrawerEvent} (ht : t ∈ s.transactions) (hprecedes : t.Precedes (f t))
    (appends : s.Appends sh ev) (hplace : t.store = sh.store)
    (hreference : ev.reference = some t.id)
    (htransactions : after.transactions = Rows.update (·.id) t.id f s.transactions)
    (hshifts : after.shifts = (s.logged ev).shifts)
    (hrefunds : ∀ r ∈ after.refunds,
      r ∈ s.refunds ∨ s.ShiftOf r.shift r.cashier r.store ∧ s.SoldAt r.store r.transaction)
    (hmovements : ∀ m ∈ after.movements, m ∈ s.movements ∨ s.Carries m.store m.product) :
    s.Adds after := by
  refine { transactions := ?_, refunds := hrefunds, events := ?_, movements := hmovements }
  · rw [htransactions]
    intro t' ht'
    rcases (Rows.mem_update k.transactions ht).1 ht' with rfl | ⟨hold, -⟩
    · exact .inl ⟨t, ht, hprecedes⟩
    · exact .inl ⟨t', hold, .refl t'⟩
  · intro sh' hsh' ev' hev'
    rcases events_of_appends k appends hshifts sh' hsh' ev' hev' with hold | ⟨rfl, hstore⟩
    · exact .inl hold
    · refine .inr fun _ => ⟨t.id, hreference, f t, ?_, ?_, ?_⟩
      · rw [htransactions]
        exact (Rows.mem_update k.transactions ht).2 (.inl rfl)
      · rw [hprecedes.same]
      · rw [hprecedes.same, hstore, hplace]

end Store

/-! ### Products that move -/

open Store (isSalesKind)

theorem Transaction.product_newlyCovered (lines : List LineItem) (befores afters : List Int) :
    ∀ u ∈ newlyCovered lines befores afters, ∃ l ∈ lines, l.product = u.product := by
  have hlater : ∀ {l : LineItem} {lines : List LineItem} {units : List RestockLine},
      (∀ u ∈ units, ∃ l' ∈ lines, l'.product = u.product) →
        ∀ u ∈ units, ∃ l' ∈ l :: lines, l'.product = u.product := by
    intro l lines units h u hu
    obtain ⟨l', hl', hproduct⟩ := h u hu
    exact ⟨l', List.mem_cons_of_mem _ hl', hproduct⟩
  fun_induction newlyCovered lines befores afters with
  | case1 l lines before befores after afters hmore ih =>
    exact List.forall_mem_cons.2 ⟨⟨l, List.mem_cons_self, rfl⟩, hlater ih⟩
  | case2 l lines before befores after afters hnone ih => exact hlater ih
  | case3 => exact fun u hu => absurd hu List.not_mem_nil

/-- What goes back into stock was sold. -/
theorem Transaction.product_restock {t : Transaction} {before after : Int}
    {units : List RestockLine} (h : t.restock before after = .ok units) :
    ∀ u ∈ units, ∃ l ∈ t.lines, l.product = u.product := by
  simp only [restock, Outcome.bind_eq_ok, Outcome.pure_eq_ok] at h
  obtain ⟨befores, -, afters, -, rfl⟩ := h
  exact product_newlyCovered t.lines befores afters

/-- What arrives was ordered. -/
theorem Store.product_receiveAll {order : String} {rs : List ReceiptLine}
    {lines after : List OrderLine} (h : receiveAll order rs lines = .ok after) :
    ∀ r ∈ rs, ∃ l ∈ lines, l.product = r.product := by
  induction rs generalizing lines with
  | nil => exact fun r hr => absurd hr List.not_mem_nil
  | cons r rs ih =>
    simp only [receiveAll, Outcome.bind_eq_ok] at h
    obtain ⟨mid, hmid, hrest⟩ := h
    obtain ⟨l, hl, hproduct, -, rfl⟩ := receiveUnits_eq_ok hmid
    refine List.forall_mem_cons.2 ⟨⟨l, hl, hproduct⟩, ?_⟩
    intro r' hr'
    obtain ⟨l', hl', hproduct'⟩ := ih hrest r' hr'
    obtain ⟨k, hk, rfl⟩ := List.mem_map.1 hl'
    refine ⟨k, hk, ?_⟩
    rw [← hproduct']
    split <;> rfl

/-- What is sold is carried, whoever has set the prices: units have to be there. -/
theorem Engine.carries_of_sale {e : Engine} {ids : Ids} {now : Instant} {actor : Actor}
    {cart : Cart} {claim : Claim} {s : Store} {u : SaleUnit} {sh : Shift} {ev : DrawerEvent}
    (plan : e.planSale ids now actor cart claim s = .ok u) (fits : s.SaleFits u sh ev) :
    ∀ l ∈ u.transaction.lines, s.Carries u.transaction.store l.product := by
  intro l hl
  obtain ⟨sh₀, pricing, totals, -, -, hunit⟩ := planSale_eq_ok plan
  have hmovements : u.movements = saleMovements ids u.transaction := by rw [hunit]; rfl
  have hpositive := (fits.lines l hl).1
  obtain ⟨i, hi, rfl⟩ := List.mem_iff_getElem.1 hl
  have hmoves : movement u.transaction .sale u.transaction.createdAt (ids.movement i)
      u.transaction.lines[i].product (-u.transaction.lines[i].quantity) ∈ u.movements := by
    rw [hmovements]
    exact List.mem_mapIdx.2 ⟨i, hi, rfl⟩
  have hleaves := fits.available _ hmoves (by simp only [movement]; omega)
  exact Store.carries_of_activeProduct? hleaves.1

/-! ### Every change -/

theorem Change.adds {e : Engine} {now : Instant} {s after : Store} (h : Change e now s after)
    (k : s.Keyed) (consistent : s.Consistent) : s.Adds after := by
  cases h with
  | shiftOpened start added =>
    obtain ⟨-, -, -, rfl⟩ := Store.addShift_eq_ok.1 added
    refine .of_events rfl rfl rfl ?_
    intro sh' hsh' ev hev
    rcases List.mem_append.1 hsh' with hold | hnew
    · exact .inl ⟨sh', hold, rfl, hev⟩
    · rw [List.mem_singleton.1 hnew] at hev
      cases hev
  | @shiftClosed ids actor cash closed sh closure ev owned close fits =>
    obtain ⟨hmem, hid⟩ := Store.shift?_eq_some fits.found
    have hlast := fits.last
    rw [close.events, List.getLast?_concat] at hlast
    obtain rfl : sh.closing ids.event cash now = ev := Option.some.inj hlast
    refine .of_events rfl rfl rfl ?_
    rw [Store.shifts_afterClose closed _ hid, ← hid]
    intro sh' hsh' ev hev
    rcases Store.events_of_update k hmem rfl rfl sh' hsh' ev hev with hold | ⟨rfl, -⟩
    · exact .inl hold
    · exact .inr rfl
  | @entryRecorded ids actor entry sh ev check owned place appends =>
    refine .of_events rfl rfl rfl ?_
    intro sh' hsh' ev' hev'
    rcases Store.events_of_appends k appends rfl sh' hsh' ev' hev' with hold | ⟨rfl, -⟩
    · exact .inl hold
    · refine .inr ?_
      rw [place]
      rcases (Engine.checkManualEntry_eq_ok.1 check).1 with hin | hout
      · simp [DrawerEntry.place, hin, isSalesKind]
      · simp [DrawerEntry.place, hout, isSalesKind]
  | @sold ids actor cart key claim u sh ev claims plan fits =>
    have hcarries := Engine.carries_of_sale plan fits
    obtain ⟨sh₀, pricing, totals, hshift, -, hunit⟩ := Engine.planSale_eq_ok plan
    obtain ⟨hmem, hcashier, hstore, -⟩ := Store.openShift?_eq_some hshift
    obtain rfl : sh = sh₀ := fits.appends.eq_of_id k hmem (by rw [fits.entry, hunit]; rfl)
    have hstored : Store.unvoided u.transaction = u.transaction := by
      rw [hunit]
      exact Store.unvoided_sold ..
    refine { transactions := ?_, refunds := fun r hr => .inl hr, events := ?_, movements := ?_ }
    · intro t' ht'
      rcases List.mem_append.1 ht' with hold | hnew
      · exact .inl ⟨t', hold, .refl t'⟩
      · rw [List.mem_singleton.1 hnew, hstored]
        refine .inr ⟨?_, hcarries⟩
        rw [hunit]
        exact Store.shiftOf_of_openShift? hshift
    · intro sh' hsh' ev' hev'
      rcases Store.events_of_appends k fits.appends rfl sh' hsh' ev' hev' with hold | ⟨rfl, hplace⟩
      · exact .inl hold
      · refine .inr fun _ => ⟨u.transaction.id, by rw [fits.entry, hunit]; rfl, ?_⟩
        refine ⟨u.transaction, List.mem_append_right _ (List.mem_singleton.2 hstored.symm), rfl, ?_⟩
        rw [hplace, hstore, hunit]
        rfl
    · intro m hm
      refine (List.mem_append.1 hm).imp_right fun hm => ?_
      have hmovements : u.movements = Engine.saleMovements ids u.transaction := by rw [hunit]; rfl
      rw [hmovements] at hm
      exact Rows.forall_mem_mapIdx (p := fun m => s.Carries m.store m.product)
        (fun i l hl => hcarries l hl) m hm
  | @voided ids actor reason sh sh' t u ev plan fits =>
    obtain ⟨ht, -, howned⟩ := Store.transaction?_eq_some plan.found
    obtain ⟨hmem, -, hstore, -⟩ := Store.openShift?_eq_some plan.shift
    have hunit := plan.unit
    obtain rfl : sh' = sh := fits.appends.eq_of_id k hmem (by rw [fits.entry, hunit]; rfl)
    have hid : u.transaction = t.id := by rw [hunit]; rfl
    refine .of_update k ht (Transaction.precedes_marked plan.voidable.1 u) fits.appends
      (howned.trans hstore.symm) (by rw [fits.entry, hunit]; rfl) (hid ▸ rfl) rfl
      (fun r hr => .inl hr) ?_
    intro m hm
    refine (List.mem_append.1 hm).imp_right fun hm => ?_
    rw [hunit] at hm
    exact Rows.forall_mem_mapIdx (p := fun m => s.Carries m.store m.product)
      (fun i l hl => consistent.lines t ht l hl) m hm
  | @refunded ids actor amount reason sh sh' t refunded units u ev elevated shift owned plan unit
      fits =>
    have ht := (Store.transaction?_eq_some fits.found).1
    obtain ⟨hmem, -, hstore, -⟩ := Store.openShift?_eq_some shift
    obtain rfl : sh' = sh := fits.appends.eq_of_id k hmem (by rw [fits.entry, unit]; rfl)
    have hid : u.refund.transaction = t.id := by rw [unit]; rfl
    have hpaid : t.Precedes (Store.paidBack u t) := by
      rw [unit, plan.paidBack_eq]
      exact plan.precedes
    refine .of_update k ht hpaid fits.appends (owned.trans hstore.symm)
      (by rw [fits.entry, unit]; rfl) (hid ▸ rfl) rfl ?_ ?_
    · intro r hr
      refine (List.mem_append.1 hr).imp_right fun hr => ?_
      rw [List.mem_singleton.1 hr, unit]
      refine ⟨?_, t, ht, rfl, rfl⟩
      have hshift := Store.shiftOf_of_openShift? shift
      rw [← owned] at hshift
      exact hshift
    · intro m hm
      refine (List.mem_append.1 hm).imp_right fun hm => ?_
      rw [unit] at hm
      refine Rows.forall_mem_mapIdx (p := fun m => s.Carries m.store m.product)
        (fun i l hl => ?_) m hm
      obtain ⟨line, hline, hproduct⟩ := Transaction.product_restock plan.units l hl
      have hcarries := consistent.lines t ht line hline
      rwa [hproduct] at hcarries
  | productAdded check added =>
    obtain ⟨-, -, -, rfl⟩ := Store.addProduct_eq_ok.1 added
    exact .of_same rfl rfl rfl rfl
  | supplierAdded check added =>
    obtain ⟨-, rfl⟩ := Store.addSupplier_eq_ok.1 added
    exact .of_same rfl rfl rfl rfl
  | orderAdded elevated check products added =>
    obtain ⟨-, -, -, -, rfl⟩ := Store.addOrder_eq_ok.1 added
    exact .of_same rfl rfl rfl rfl
  | @received ids actor lines o received u booked check owned receive unit fits =>
    refine { transactions := fun t ht => .inl ⟨t, ht, .refl t⟩, refunds := fun _ hr => .inl hr,
             events := fun sh hsh _ hev => .inl ⟨sh, hsh, rfl, hev⟩, movements := ?_ }
    intro m hm
    refine (List.mem_append.1 hm).imp_right fun hm => ?_
    have hlines := fits.lines
    rw [unit] at hm hlines
    refine Rows.forall_mem_mapIdx (p := fun m => s.Carries m.store m.product)
      (fun i l hl => ?_) m hm
    obtain ⟨line, hline, hproduct⟩ := Store.product_receiveAll hlines l hl
    have hcarries := consistent.ordered o (Store.order?_eq_some fits.found).1 line hline
    rwa [hproduct] at hcarries
  | refused | purged => exact .of_same rfl rfl rfl rfl

/-- Products and suppliers are added under identifiers of their own. -/
theorem CatalogChange.nodup {s after : Store} (h : CatalogChange s after)
    (hproducts : (s.products.map (·.id)).Nodup) (hsuppliers : (s.suppliers.map (·.id)).Nodup) :
    (after.products.map (·.id)).Nodup ∧ (after.suppliers.map (·.id)).Nodup := by
  cases h with
  | none products suppliers | ordered _ _ products suppliers | received _ _ products suppliers =>
    rw [products, suppliers]
    exact ⟨hproducts, hsuppliers⟩
  | product fresh products suppliers =>
    rw [products, suppliers]
    exact ⟨Rows.nodup_concat hproducts (by simpa [Store.hasProduct] using fresh), hsuppliers⟩
  | supplier fresh products suppliers =>
    rw [products, suppliers]
    exact ⟨hproducts, Rows.nodup_concat hsuppliers (by simpa [Store.hasSupplier] using fresh)⟩

/-- An order after a change was there before, or it was made with a supplier of its store and about
products of its store. -/
theorem CatalogChange.orders {s after : Store} (h : CatalogChange s after) (k : s.Keyed) :
    ∀ o' ∈ after.orders, (∃ o ∈ s.orders, o.Precedes o') ∨
      s.SuppliedBy o'.store o'.supplier ∧ ∀ l ∈ o'.lines, s.Carries o'.store l.product := by
  intro o' ho'
  cases h with
  | none _ _ orders | product _ _ _ orders | supplier _ _ _ orders =>
    exact .inl ⟨o', orders ▸ ho', .refl o'⟩
  | ordered supplied carried _ _ orders =>
    rw [orders] at ho'
    rcases List.mem_append.1 ho' with hold | hnew
    · exact .inl ⟨o', hold, .refl o'⟩
    · rw [List.mem_singleton.1 hnew]
      exact .inr ⟨supplied, carried⟩
  | received mem precedes _ _ orders =>
    rw [orders] at ho'
    rcases (Rows.mem_update k.orders mem).1 ho' with rfl | ⟨hold, -⟩
    · exact .inl ⟨_, mem, precedes⟩
    · exact .inl ⟨o', hold, .refl o'⟩

/-- **Every change keeps everything in its place.** -/
theorem Store.Consistent.change {e : Engine} {now : Instant} {s after : Store} (h : s.Consistent)
    (sound : s.Sound) (logs : s.Logs) (hchange : Change e now s after) : after.Consistent := by
  have hextends := hchange.extends sound logs
  have hadds := hchange.adds sound.keyed h
  have hcatalog := hchange.catalog
  have hunique := hcatalog.nodup h.products h.suppliers
  have hcarries : ∀ {store id}, s.Carries store id → after.Carries store id :=
    fun hcarried => hcarried.mono hextends.products
  have horders := hcatalog.orders sound.keyed
  refine { products := hunique.1, suppliers := hunique.2, sales := ?_, lines := ?_,
           refunders := ?_, refunds := ?_, events := ?_, movements := ?_, orders := ?_,
           ordered := ?_ }
  · intro t' ht'
    rcases hadds.transactions t' ht' with ⟨t, ht, hprecedes⟩ | ⟨hshift, -⟩
    · rw [hprecedes.same]
      exact (h.sales t ht).mono hextends
    · exact hshift.mono hextends
  · intro t' ht'
    rcases hadds.transactions t' ht' with ⟨t, ht, hprecedes⟩ | ⟨-, hlines⟩
    · rw [hprecedes.same]
      exact fun l hl => hcarries (h.lines t ht l hl)
    · exact fun l hl => hcarries (hlines l hl)
  · intro r hr
    rcases hadds.refunds r hr with hr | ⟨hshift, -⟩
    · exact (h.refunders r hr).mono hextends
    · exact hshift.mono hextends
  · intro r hr
    rcases hadds.refunds r hr with hr | ⟨-, hsold⟩
    · exact (h.refunds r hr).mono hextends
    · exact hsold.mono hextends
  · intro sh' hsh' ev hev hkind
    rcases hadds.events sh' hsh' ev hev with ⟨sh, hsh, hstore, hold⟩ | hnew
    · obtain ⟨id, hreference, hsold⟩ := h.events sh hsh ev hold hkind
      exact ⟨id, hreference, hstore ▸ hsold.mono hextends⟩
    · exact hnew hkind
  · intro m hm
    rcases hadds.movements m hm with hm | hcarried
    · exact hcarries (h.movements m hm)
    · exact hcarries hcarried
  · intro o' ho'
    rcases horders o' ho' with ⟨o, ho, hprecedes⟩ | ⟨hsupplied, -⟩
    · rw [hprecedes.same]
      exact (h.orders o ho).mono hextends.suppliers
    · exact hsupplied.mono hextends.suppliers
  · intro o' ho' l' hl'
    rcases horders o' ho' with ⟨o, ho, hprecedes⟩ | ⟨-, hcarried⟩
    · -- What was ordered stays, so the line is about a product that was ordered.
      have hproduct : l'.product ∈ o.lines.map OrderLine.product :=
        hprecedes.products ▸ List.mem_map_of_mem hl'
      obtain ⟨l, hl, hsame⟩ := List.mem_map.1 hproduct
      rw [hprecedes.same, ← hsame]
      exact hcarries (h.ordered o ho l hl)
    · exact hcarries (hcarried l' hl')

/-- **Everything is in its place** after every run. -/
theorem Engine.run_inPlace {κ : Type} (e : Engine) (c : CacheAccess κ) (now : Instant) (cache : κ)
    (steps : List (Step κ)) : (e.run c (World.empty now cache) steps).store.Consistent := by
  have keeps : ∀ {now s after}, Change e now s after → s.Sound ∧ s.Logs ∧ s.Consistent →
      after.Sound ∧ after.Logs ∧ after.Consistent := by
    rintro now s after hchange ⟨sound, logs, consistent⟩
    exact ⟨sound.change hchange, logs.change sound.keyed hchange.logs,
      consistent.change sound logs hchange⟩
  have h := run_induction (P := fun s => s.Sound ∧ s.Logs ∧ s.Consistent)
    ⟨Store.sound_empty, Store.logs_empty, Store.consistent_empty⟩ keeps c now cache steps
  exact h.2.2

end Till
