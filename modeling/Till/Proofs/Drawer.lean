import Till.Proofs.Run

/-!
# The events of a store

The logs of all shifts together hold the events of a store.  An event is in the log of one shift,
and adding it adds it to the events of the store and to nothing else.

* `Store.events_logged` : the events after one was added;
* `Store.eventsFor_logged_of_ne`, `Store.eventsFor_logged_self` : the events of a kind that refer to
  a transaction;
* `Shift.cashDue` : the expected cash of a shift as an integer without bounds, and
  `Shift.expectedCash_eq_ok` : the expected cash, when it can be told, is that integer;
* `Store.cashOf_logged` : what an event adds to the cash of a store.
-/

namespace Till

/-! ### Effects -/

namespace DrawerEvent

/-- What an event adds to the cash in the drawer, as an integer without bounds. -/
def effect (e : DrawerEvent) : Int := if e.movesCash then e.amount * e.kind.direction else 0

theorem cashEffect_eq_ok {e : DrawerEvent} {n : Int} (h : e.cashEffect = .ok n) : n = e.effect := by
  rw [cashEffect] at h
  rw [effect]
  by_cases hmoves : e.movesCash = true
  · rw [if_pos hmoves] at h ⊢
    exact (Cents.exact_eq_ok.1 h).2.symm
  · rw [if_neg hmoves] at h ⊢
    exact (Except.ok.inj h).symm

/-- An entry that is made by hand. -/
def isManual (e : DrawerEvent) : Bool := decide (e.kind = .cashIn) || decide (e.kind = .cashOut)

end DrawerEvent

namespace Shift

/-- The effects of the events that are made by hand. -/
def manualCash (sh : Shift) : Int := Rows.total DrawerEvent.isManual DrawerEvent.effect sh.events

/-- The effects of the events behind which a transaction stands. -/
def salesCash (sh : Shift) : Int :=
  Rows.total (fun e => !e.isManual) DrawerEvent.effect sh.events

/-- **The cash that is due** in the drawer, as an integer without bounds. -/
def cashDue (sh : Shift) : Int := sh.openingCash + (sh.events.map DrawerEvent.effect).sum

theorem cashDue_eq (sh : Shift) : sh.cashDue = sh.openingCash + sh.manualCash + sh.salesCash := by
  have hsplit : ∀ events : List DrawerEvent, (events.map DrawerEvent.effect).sum =
      Rows.total DrawerEvent.isManual DrawerEvent.effect events +
        Rows.total (fun e => !e.isManual) DrawerEvent.effect events := by
    intro events
    induction events with
    | nil => rfl
    | cons e events ih =>
      simp only [List.map_cons, List.sum_cons, Rows.total_cons, ih]
      cases e.isManual <;> simp <;> omega
  rw [cashDue, hsplit, manualCash, salesCash]
  omega

theorem netEffect_eq_ok {events : List DrawerEvent} {n : Int} (h : netEffect events = .ok n) :
    n = (events.map DrawerEvent.effect).sum := by
  have hfold : ∀ (events : List DrawerEvent) (a : Int) {n : Int},
      events.foldlM (fun sum e => do
        let effect ← e.cashEffect
        Cents.exact (sum + effect)) a = (.ok n : Result Int) →
      n = a + (events.map DrawerEvent.effect).sum := by
    intro events
    induction events with
    | nil =>
      intro a n h
      obtain rfl := Outcome.pure_eq_ok.1 h
      simp
    | cons e events ih =>
      intro a n h
      simp only [List.foldlM_cons, Outcome.bind_eq_ok, Cents.exact_eq_ok] at h
      obtain ⟨_, ⟨effect, heffect, -, rfl⟩, hrest⟩ := h
      rw [ih _ hrest, DrawerEvent.cashEffect_eq_ok heffect, List.map_cons, List.sum_cons]
      omega
  rw [hfold events 0 h]
  omega

/-- **The expected cash** of a shift, when it can be told, is the cash that is due. -/
theorem expectedCash_eq_ok {sh : Shift} {n : Int} (h : sh.expectedCash = .ok n) :
    n = sh.cashDue := by
  simp only [expectedCash, Outcome.bind_eq_ok, Cents.exact_eq_ok] at h
  obtain ⟨net, hnet, -, rfl⟩ := h
  rw [cashDue, netEffect_eq_ok hnet]

end Shift

/-! ### Events of a store -/

namespace Store

/-- The events in the logs of all shifts. -/
def events (s : Store) : List DrawerEvent := s.shifts.flatMap (·.events)

/-- Whether an event of the kind refers to the transaction. -/
def refersTo (kind : DrawerKind) (transaction : String) (e : DrawerEvent) : Bool :=
  decide (e.kind = kind) && decide (e.reference = some transaction)

/-- The events of the kind that refer to the transaction. -/
def eventsFor (s : Store) (kind : DrawerKind) (transaction : String) : List DrawerEvent :=
  s.events.filter (refersTo kind transaction)

variable {s : Store} {sh : Shift} {e : DrawerEvent}

theorem placeEvent_perm (e : DrawerEvent) (events : List DrawerEvent) :
    (placeEvent e events).Perm (e :: events) := by
  induction events with
  | nil => exact .refl _
  | cons f events ih =>
    unfold placeEvent
    split
    · exact .refl _
    · exact (ih.cons f).trans (.swap e f events)

theorem shifts_logged (e : DrawerEvent) :
    (s.logged e).shifts = Rows.update (·.id) e.shift
      (fun sh => { sh with events := placeEvent e sh.events }) s.shifts := rfl

theorem Appends.mem (h : s.Appends sh e) : sh ∈ s.shifts ∧ sh.id = e.shift :=
  shift?_eq_some h.found

/-- **Adding an event** adds it to the events of the store. -/
theorem events_logged (k : s.Keyed) (hmem : sh ∈ s.shifts) (hid : sh.id = e.shift) :
    (s.logged e).events.Perm (e :: s.events) := by
  rw [events, shifts_logged, ← hid]
  exact Rows.flatMap_update_perm k.shifts hmem (placeEvent_perm e sh.events)

theorem eventsFor_logged (k : s.Keyed) (hmem : sh ∈ s.shifts) (hid : sh.id = e.shift)
    (kind : DrawerKind) (id : String) :
    ((s.logged e).eventsFor kind id).Perm
      (if refersTo kind id e then e :: s.eventsFor kind id else s.eventsFor kind id) := by
  have h := (events_logged k hmem hid).filter (refersTo kind id)
  rw [List.filter_cons] at h
  exact h

/-! ### Cash of a store -/

/-- The sum of an amount over the shifts at a place of sale. -/
def cashOf (amount : Shift → Int) (s : Store) (store : String) : Int :=
  Rows.total (fun sh => sh.store == store) amount s.shifts

theorem cashOf_logged (k : s.Keyed) (hmem : sh ∈ s.shifts) (hid : sh.id = e.shift)
    (counts : DrawerEvent → Bool) (store : String) :
    cashOf (fun sh => Rows.total counts DrawerEvent.effect sh.events) (s.logged e) store =
      cashOf (fun sh => Rows.total counts DrawerEvent.effect sh.events) s store +
        (if sh.store = store ∧ counts e = true then e.effect else 0) := by
  have hplace : Rows.total counts DrawerEvent.effect (placeEvent e sh.events) =
      (if counts e then e.effect else 0) + Rows.total counts DrawerEvent.effect sh.events := by
    rw [← Rows.total_cons]
    exact (((placeEvent_perm e sh.events).filter counts).map DrawerEvent.effect).sum_eq
  rw [cashOf, shifts_logged, ← hid, Rows.total_update _ _ k.shifts hmem, hplace, cashOf]
  by_cases hstore : sh.store = store <;> cases counts e <;> simp [hstore]

/-! ### The end of a shift -/

/-- The store in which a shift has got the end of another one. -/
def withEnd (s : Store) (closed : Shift) : Store :=
  s.updateShift closed.id fun sh => ended sh closed

theorem afterClose_eq (s : Store) (closed : Shift) (e : DrawerEvent) :
    s.afterClose closed e = (s.withEnd closed).logged e := rfl

theorem keyed_withEnd (k : s.Keyed) (closed : Shift) : (s.withEnd closed).Keyed := by
  refine ⟨Rows.nodup_update k.shifts ?_, k.transactions, k.orders⟩
  intro sh
  rfl

theorem mem_withEnd {closed : Shift} (hmem : sh ∈ s.shifts) (hid : sh.id = closed.id) :
    ended sh closed ∈ (s.withEnd closed).shifts :=
  List.mem_map.2 ⟨sh, hmem, by simp [hid]⟩

@[simp] theorem events_withEnd (s : Store) (closed : Shift) :
    (s.withEnd closed).events = s.events := by
  simp only [events, withEnd, updateShift, List.flatMap_map]
  congr 1
  funext sh
  by_cases hid : (sh.id == closed.id) = true
  · rw [if_pos hid]
    rfl
  · rw [if_neg hid]

theorem cashOf_withEnd (s : Store) (closed : Shift) {amount : Shift → Int}
    (h : ∀ sh, amount (ended sh closed) = amount sh) (store : String) :
    cashOf amount (s.withEnd closed) store = cashOf amount s store := by
  have hrows : ∀ rows : List Shift,
      Rows.total (fun sh => sh.store == store) amount
        (rows.map fun sh => if sh.id == closed.id then ended sh closed else sh) =
      Rows.total (fun sh => sh.store == store) amount rows := by
    intro rows
    induction rows with
    | nil => rfl
    | cons sh rows ih =>
      rw [List.map_cons, Rows.total_cons, Rows.total_cons, ih]
      split
      · rw [h]
        rfl
      · rfl
  exact hrows s.shifts

end Store

end Till
