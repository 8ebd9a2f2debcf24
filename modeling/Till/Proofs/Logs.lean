import Till.Proofs.Drawer

/-!
# Logs of shifts

The log of a shift grows at its end while the shift is open, and the event that closes the shift is
its last.  What a change of the store does to shifts is one of three things (`LogChange`): nothing,
a shift begins, or one shift moves (`Shift.Moves`), which means that an event is appended or that
the shift is closed.

* `Shift.InOrder` : positions without gaps, one closing event at the end of a closed log, and a
  variance that accounts for all events;
* `Shift.Precedes` : one shift is an earlier state of another one;
* `Store.Logs.change` : every change keeps the logs in order, and cashiers at one open shift;
* `LogChange.precedes` : every shift is an earlier state of a shift after a change.
-/

namespace Till

namespace Shift

/-- The positions of the events of a log. -/
def positions (events : List DrawerEvent) : List Int := events.map (·.seq)

/-- The events of a log that close the shift. -/
def closings (events : List DrawerEvent) : List DrawerEvent :=
  events.filter fun e => decide (e.kind = .close)

/-- **The log of a shift is in order.** -/
structure InOrder (sh : Shift) : Prop where
  /-- The positions are 1, 2, and so on. -/
  positions : positions sh.events = (List.range sh.events.length).map fun (i : Nat) => (i : Int) + 1
  /-- One event closes the shift if it is closed, and none otherwise. -/
  closings : (closings sh.events).length = if sh.isOpen then 0 else 1
  /-- It is the last. -/
  last : sh.isOpen = false → ∃ e, sh.events.getLast? = some e ∧ e.kind = .close
  /-- The variance is the cash counted less the cash due after all events. -/
  variance : sh.isOpen = false →
    ∃ cash, sh.closingCash = some cash ∧ sh.variance = some (cash - sh.cashDue)

/-- The event that closes a shift. -/
def closing (sh : Shift) (id : String) (cash : Int) (now : Instant) : DrawerEvent :=
  ({ kind := .close, amount := cash } : DrawerEntry).place id sh.id (sh.events.length + 1) now

/-- **A shift moves** when it gets an event or is closed. -/
inductive Moves (sh : Shift) : Shift → Prop
  /-- An event is appended. -/
  | appended {e : DrawerEvent} (isOpen : sh.isOpen = true) (seq : e.seq = Store.nextSeq sh.events)
      (kind : e.kind ≠ .close) : Moves sh { sh with events := Store.placeEvent e sh.events }
  /-- The shift is closed. -/
  | closed {id : String} {cash : Int} {now : Instant} {closed : Shift} {closure : ShiftClosure}
      (close : sh.IsClose id cash now closed closure) :
      Moves sh { Store.ended sh closed with
        events := Store.placeEvent (sh.closing id cash now) sh.events }

/-- **A shift is an earlier state** of another one. -/
structure Precedes (sh later : Shift) : Prop where
  /-- Who works where, and since when, stays. -/
  same : later.id = sh.id ∧ later.cashier = sh.cashier ∧ later.store = sh.store ∧
    later.openedAt = sh.openedAt ∧ later.openingCash = sh.openingCash
  /-- The log has only grown. -/
  log : sh.events <+: later.events
  /-- While the shift is open, nothing else has changed. -/
  isOpen : later.isOpen = true → later = { sh with events := later.events }
  /-- A closed shift stays as it is. -/
  closed : sh.isOpen = false → later = sh

variable {sh later : Shift} {e : DrawerEvent}

/-! ### Positions -/

theorem InOrder.nextSeq_eq (h : sh.InOrder) :
    Store.nextSeq sh.events = (sh.events.length : Int) + 1 := by
  have hseqs := h.positions
  unfold Store.nextSeq
  cases hlast : sh.events.getLast? with
  | none => simp [List.getLast?_eq_none_iff.1 hlast]
  | some e =>
    -- The last position is the number of the events.
    have hmapped : (Shift.positions sh.events).getLast? = some e.seq := by
      rw [Shift.positions, List.getLast?_map, hlast]
      rfl
    have hne : sh.events ≠ [] := by
      rintro hnil
      rw [hnil] at hlast
      cases hlast
    obtain ⟨n, hn⟩ := Nat.exists_eq_succ_of_ne_zero (mt List.length_eq_zero_iff.1 hne)
    rw [hseqs, hn, List.range_succ, List.map_append, List.map_singleton, List.getLast?_concat]
      at hmapped
    have hseq := Option.some.inj hmapped
    simp only
    omega

theorem placeEvent_of_le {events : List DrawerEvent} (h : ∀ f ∈ events, f.seq ≤ e.seq) :
    Store.placeEvent e events = events ++ [e] := by
  induction events with
  | nil => rfl
  | cons f events ih =>
    obtain ⟨hf, hrest⟩ := List.forall_mem_cons.1 h
    rw [Store.placeEvent, if_neg (Int.not_lt.2 hf), ih hrest]
    rfl

/-- **An event with the next position** goes to the end of the log. -/
theorem InOrder.placeEvent_eq (h : sh.InOrder) (hseq : e.seq = (sh.events.length : Int) + 1) :
    Store.placeEvent e sh.events = sh.events ++ [e] := by
  refine placeEvent_of_le ?_
  intro f hf
  have hmem : f.seq ∈ Shift.positions sh.events := List.mem_map_of_mem hf
  rw [h.positions] at hmem
  obtain ⟨i, hi, hpos⟩ := List.mem_map.1 hmem
  have hlt := List.mem_range.1 hi
  omega

theorem InOrder.positions_concat (h : sh.InOrder) (hseq : e.seq = (sh.events.length : Int) + 1) :
    Shift.positions (sh.events ++ [e]) =
      (List.range (sh.events ++ [e]).length).map fun (i : Nat) => (i : Int) + 1 := by
  have hold := h.positions
  rw [Shift.positions] at hold ⊢
  rw [List.map_append, hold, List.map_singleton, hseq, List.length_append, List.length_singleton,
    List.range_succ, List.map_append]
  rfl

/-! ### What moves of a shift keep -/

theorem inOrder_unused (sh : Shift) : (Store.unused sh).InOrder where
  positions := rfl
  closings := rfl
  last hclosed := by cases hclosed
  variance hclosed := by cases hclosed

theorem closings_concat (events : List DrawerEvent) (e : DrawerEvent) :
    closings (events ++ [e]) = closings events ++ if e.kind = .close then [e] else [] := by
  by_cases hkind : e.kind = .close <;> simp [closings, hkind]

/-- What the closing of a shift in order leaves is the closed shift that was planned. -/
theorem InOrder.closed_eq (h : sh.InOrder) {id : String} {cash : Int} {now : Instant}
    {closed : Shift} {closure : ShiftClosure} (close : sh.IsClose id cash now closed closure) :
    { Store.ended sh closed with
      events := Store.placeEvent (sh.closing id cash now) sh.events } = closed := by
  rw [h.placeEvent_eq rfl, close.closed]
  rfl

/-- The closing event moves no cash. -/
theorem IsClose.cashDue_eq {id : String} {cash : Int} {now : Instant} {closed : Shift}
    {closure : ShiftClosure} (h : sh.IsClose id cash now closed closure) :
    closed.cashDue = sh.cashDue := by
  have hopening : closed.openingCash = sh.openingCash := by
    rw [h.closed]
    rfl
  have hevents : closed.events = sh.events ++ [sh.closing id cash now] := h.events
  have heffect : (sh.closing id cash now).effect = 0 := by
    simp [closing, DrawerEntry.place, DrawerEvent.effect, DrawerKind.direction]
  rw [cashDue, cashDue, hopening, hevents, List.map_append, List.sum_append, List.map_singleton,
    List.sum_singleton, heffect, Int.add_zero]

/-- **Every move keeps the log in order.** -/
theorem InOrder.moves (h : sh.InOrder) (hmoves : sh.Moves later) : later.InOrder := by
  cases hmoves with
  | @appended e isOpen seq kind =>
    rw [h.nextSeq_eq] at seq
    have hclosings := h.closings
    rw [isOpen, if_pos rfl] at hclosings
    rw [h.placeEvent_eq seq]
    have hstill : Shift.isOpen { sh with events := sh.events ++ [e] } = true := isOpen
    refine { positions := h.positions_concat seq, closings := ?_, last := ?_, variance := ?_ }
    · rw [closings_concat, if_neg kind, List.append_nil, hclosings, hstill]
      rfl
    · intro hclosed
      rw [hstill] at hclosed
      cases hclosed
    · intro hclosed
      rw [hstill] at hclosed
      cases hclosed
  | @closed id cash now closed closure close =>
    rw [h.closed_eq close]
    have hevents : closed.events = sh.events ++ [sh.closing id cash now] := close.events
    have hclosings := h.closings
    rw [close.isOpen, if_pos rfl] at hclosings
    have hended : closed.isOpen = false := by
      rw [close.closed]
      rfl
    refine { positions := ?_, closings := ?_, last := ?_, variance := ?_ }
    · rw [hevents]
      exact h.positions_concat rfl
    · rw [hevents, closings_concat, List.length_append, hclosings, hended]
      rfl
    · intro _
      rw [hevents]
      exact ⟨_, List.getLast?_concat, rfl⟩
    · intro _
      refine ⟨cash, ?_, ?_⟩
      · rw [close.closed]
      · have hfigures := congrArg ShiftClosure.variance close.figures
        rw [close.cashDue_eq, ← expectedCash_eq_ok close.expected, close.closed]
        exact congrArg some hfigures

theorem Precedes.refl (sh : Shift) : sh.Precedes sh :=
  ⟨⟨rfl, rfl, rfl, rfl, rfl⟩, List.prefix_refl _, fun _ => rfl, fun _ => rfl⟩

theorem Precedes.trans {last : Shift} (h : sh.Precedes later) (h' : later.Precedes last) :
    sh.Precedes last where
  same := by
    obtain ⟨h₁, h₂, h₃, h₄, h₅⟩ := h.same
    obtain ⟨h₁', h₂', h₃', h₄', h₅'⟩ := h'.same
    exact ⟨h₁'.trans h₁, h₂'.trans h₂, h₃'.trans h₃, h₄'.trans h₄, h₅'.trans h₅⟩
  log := h.log.trans h'.log
  isOpen hopen := by
    -- What is open at the end has been open before.
    have hlast := h'.isOpen hopen
    have hmid : later.isOpen = true := by
      rw [hlast] at hopen
      exact hopen
    rw [h.isOpen hmid] at hlast
    exact hlast
  closed hclosed := by
    have hmid := h.closed hclosed
    rw [← hmid] at hclosed
    exact (h'.closed hclosed).trans hmid

/-- An open shift without new events is what it was. -/
theorem Precedes.eq_of_length (h : sh.Precedes later) (hopen : later.isOpen = true)
    (hlength : later.events.length = sh.events.length) : later = sh := by
  have hevents : sh.events = later.events := h.log.eq_of_length hlength.symm
  rw [h.isOpen hopen, ← hevents]

/-- **A shift is an earlier state** of what it becomes by a move. -/
theorem InOrder.precedes (h : sh.InOrder) (hmoves : sh.Moves later) : sh.Precedes later := by
  cases hmoves with
  | @appended e isOpen seq kind =>
    rw [h.nextSeq_eq] at seq
    rw [h.placeEvent_eq seq]
    refine ⟨⟨rfl, rfl, rfl, rfl, rfl⟩, List.prefix_append _ _, fun _ => rfl, ?_⟩
    intro hclosed
    rw [isOpen] at hclosed
    cases hclosed
  | @closed id cash now closed closure close =>
    rw [h.placeEvent_eq rfl]
    refine ⟨⟨rfl, rfl, rfl, rfl, rfl⟩, List.prefix_append _ _, ?_, ?_⟩
    · intro hopen
      have hended : closed.closedAt.isNone = true := hopen
      rw [close.closed] at hended
      cases hended
    · intro hclosed
      rw [close.isOpen] at hclosed
      cases hclosed

end Shift

/-! ### What a change does to shifts -/

/-- **What a change does to shifts.** -/
inductive LogChange (s after : Store) : Prop
  /-- Nothing. -/
  | none (shifts : after.shifts = s.shifts)
  /-- A shift begins. -/
  | opened {sh : Shift} (fresh : s.hasShift sh.id = false)
      (free : s.openShift? sh.cashier sh.store = .none)
      (shifts : after.shifts = s.shifts ++ [Store.unused sh])
  /-- One shift moves. -/
  | moved {sh : Shift} {f : Shift → Shift} (mem : sh ∈ s.shifts) (moves : sh.Moves (f sh))
      (shifts : after.shifts = Rows.update (·.id) sh.id f s.shifts)

namespace Store

variable {s after : Store}

theorem Appends.logs {sh : Shift} {ev : DrawerEvent} (h : s.Appends sh ev)
    (hkind : ev.kind ≠ .close) (hshifts : after.shifts = (s.logged ev).shifts) :
    LogChange s after := by
  obtain ⟨hmem, hid⟩ := h.mem
  refine .moved hmem (f := fun sh => { sh with events := placeEvent ev sh.events })
    (.appended h.isOpen h.seq hkind) ?_
  rw [hshifts, shifts_logged, hid]

theorem shifts_afterClose (closed : Shift) (ev : DrawerEvent) (hid : ev.shift = closed.id) :
    (s.afterClose closed ev).shifts = Rows.update (·.id) closed.id
      (fun sh => { ended sh closed with events := placeEvent ev sh.events }) s.shifts := by
  rw [afterClose_eq, shifts_logged, hid]
  simp only [withEnd, updateShift, Rows.update, List.map_map]
  refine List.map_congr_left ?_
  intro sh _
  by_cases h : sh.id = closed.id
  · simp [h, ended]
  · simp [h]

theorem CloseFits.logs {sh closed : Shift} {ev : DrawerEvent} {id : String} {cash : Int}
    {now : Instant} {closure : ShiftClosure} (close : sh.IsClose id cash now closed closure)
    (fits : s.CloseFits closed sh ev) : LogChange s (s.afterClose closed ev) := by
  obtain ⟨hmem, hid⟩ := shift?_eq_some fits.found
  have hlast := fits.last
  rw [close.events, List.getLast?_concat] at hlast
  obtain rfl : sh.closing id cash now = ev := Option.some.inj hlast
  refine .moved hmem
    (f := fun k => { Store.ended k closed with
      events := placeEvent (sh.closing id cash now) k.events })
    (.closed close) ?_
  rw [shifts_afterClose closed _ hid, hid]

end Store

namespace Engine

variable {e : Engine} {ids : Ids} {now : Instant} {actor : Actor} {s : Store}

theorem ne_close_of_manual {entry : DrawerEntry} {u : Unit}
    (check : checkManualEntry entry = .ok u) : entry.kind ≠ .close := by
  rcases (checkManualEntry_eq_ok.1 check).1 with hin | hout
  · simp [hin]
  · simp [hout]

theorem ne_close_of_sale {cart : Cart} {claim : Claim} {u : SaleUnit}
    (plan : e.planSale ids now actor cart claim s = .ok u) : u.entry.kind ≠ .close := by
  obtain ⟨sh, pricing, totals, -, -, rfl⟩ := planSale_eq_ok plan
  intro hclose
  cases hclose

theorem planSale_logs {cart : Cart} {claim : Claim} {u : SaleUnit} {sh : Shift} {ev : DrawerEvent}
    (plan : e.planSale ids now actor cart claim s = .ok u) (fits : s.SaleFits u sh ev) :
    LogChange s (s.afterSale u ev) := by
  refine fits.appends.logs ?_ rfl
  rw [fits.entry]
  exact ne_close_of_sale plan

end Engine

/-- **Every change does one of these things to shifts.** -/
theorem Change.logs {e : Engine} {now : Instant} {s after : Store} (h : Change e now s after) :
    LogChange s after := by
  cases h with
  | shiftOpened start added =>
    obtain ⟨-, hfresh, hfree, rfl⟩ := Store.addShift_eq_ok.1 added
    exact .opened hfresh hfree rfl
  | shiftClosed owned close fits => exact fits.logs close
  | entryRecorded check owned place appends =>
    refine appends.logs ?_ rfl
    rw [place]
    exact Engine.ne_close_of_manual check
  | sold claims plan fits => exact Engine.planSale_logs plan fits
  | refused => exact .none rfl
  | voided plan fits =>
    refine fits.appends.logs ?_ rfl
    rw [fits.entry, plan.unit]
    nofun
  | refunded elevated shift owned plan unit fits =>
    refine fits.appends.logs ?_ rfl
    rw [fits.entry, unit]
    nofun
  | productAdded check added =>
    obtain ⟨-, -, -, rfl⟩ := Store.addProduct_eq_ok.1 added
    exact .none rfl
  | supplierAdded check added =>
    obtain ⟨-, rfl⟩ := Store.addSupplier_eq_ok.1 added
    exact .none rfl
  | orderAdded elevated check products added =>
    obtain ⟨-, -, -, -, rfl⟩ := Store.addOrder_eq_ok.1 added
    exact .none rfl
  | received => exact .none rfl
  | purged => exact .none rfl

namespace Store

variable {s after : Store}

/-- **The logs of a store are in order**, and a cashier has one open shift at a store. -/
structure Logs (s : Store) : Prop where
  inOrder : ∀ sh ∈ s.shifts, sh.InOrder
  oneOpen : ∀ sh ∈ s.shifts, ∀ sh' ∈ s.shifts, sh.isOpen = true → sh'.isOpen = true →
    sh.cashier = sh'.cashier → sh.store = sh'.store → sh = sh'

theorem logs_empty : ({} : Store).Logs :=
  ⟨fun _ h => absurd h List.not_mem_nil, fun _ h => absurd h List.not_mem_nil⟩

/-- The open shift of a cashier is the one that is open. -/
theorem Logs.openShift?_eq (h : s.Logs) {sh : Shift} (hmem : sh ∈ s.shifts)
    (hopen : sh.isOpen = true) : s.openShift? sh.cashier sh.store = some sh := by
  cases hfound : s.openShift? sh.cashier sh.store with
  | none =>
    have hnone := List.find?_eq_none.1 hfound sh hmem
    simp [hopen] at hnone
  | some sh' =>
    obtain ⟨hmem', hcashier, hstore, hopen'⟩ := openShift?_eq_some hfound
    rw [h.oneOpen sh' hmem' sh hmem hopen' hopen hcashier hstore]

/-- **Every change keeps the logs in order.** -/
theorem Logs.change (h : s.Logs) (k : s.Keyed) (hchange : LogChange s after) : after.Logs := by
  cases hchange with
  | none shifts => exact ⟨by rw [shifts]; exact h.inOrder, by rw [shifts]; exact h.oneOpen⟩
  | @opened sh fresh free shifts =>
    have hnone : ∀ b ∈ s.shifts, b.isOpen = true → b.cashier = sh.cashier →
        b.store ≠ sh.store := by
      intro b hb hopen hcashier hstore
      have hno := List.find?_eq_none.1 free b hb
      simp [hopen, hcashier, hstore] at hno
    refine ⟨?_, ?_⟩
    · rw [shifts]
      intro a ha
      rcases List.mem_append.1 ha with ha | ha
      · exact h.inOrder a ha
      · rw [List.mem_singleton.1 ha]
        exact Shift.inOrder_unused sh
    · rw [shifts]
      intro a ha b hb hopen hopen' hcashier hstore
      rcases List.mem_append.1 ha with ha | ha <;> rcases List.mem_append.1 hb with hb | hb
      · exact h.oneOpen a ha b hb hopen hopen' hcashier hstore
      · rw [List.mem_singleton.1 hb] at hcashier hstore
        exact absurd hstore (hnone a ha hopen hcashier)
      · rw [List.mem_singleton.1 ha] at hcashier hstore
        exact absurd hstore.symm (hnone b hb hopen' hcashier.symm)
      · rw [List.mem_singleton.1 ha, List.mem_singleton.1 hb]
  | @moved sh f mem moves shifts =>
    have hprecedes := (h.inOrder sh mem).precedes moves
    have hopened : (f sh).isOpen = true → sh.isOpen = true := by
      intro hopen
      rw [hprecedes.isOpen hopen] at hopen
      exact hopen
    refine ⟨?_, ?_⟩
    · rw [shifts]
      intro a ha
      rcases (Rows.mem_update k.shifts mem).1 ha with rfl | ⟨ha, -⟩
      · exact (h.inOrder sh mem).moves moves
      · exact h.inOrder a ha
    · -- The shift that has moved has the cashier and the store that it had.
      obtain ⟨-, hcashier', hstore', -⟩ := hprecedes.same
      rw [shifts]
      intro a ha b hb hopen hopen' hcashier hstore
      rcases (Rows.mem_update k.shifts mem).1 ha with rfl | ⟨ha, hne⟩ <;>
        rcases (Rows.mem_update k.shifts mem).1 hb with rfl | ⟨hb, hne'⟩
      · rfl
      · have hsame := h.oneOpen sh mem b hb (hopened hopen) hopen' (hcashier'.symm.trans hcashier)
          (hstore'.symm.trans hstore)
        exact absurd (congrArg Shift.id hsame.symm) hne'
      · have hsame := h.oneOpen a ha sh mem hopen (hopened hopen') (hcashier.trans hcashier')
          (hstore.trans hstore')
        exact absurd (congrArg Shift.id hsame) hne
      · exact h.oneOpen a ha b hb hopen hopen' hcashier hstore

/-- **Every shift is an earlier state** of a shift after a change. -/
theorem Logs.precedes (h : s.Logs) (k : s.Keyed) (hchange : LogChange s after) :
    ∀ sh ∈ s.shifts, ∃ later ∈ after.shifts, sh.Precedes later := by
  intro a ha
  cases hchange with
  | none shifts => exact ⟨a, shifts ▸ ha, .refl a⟩
  | opened fresh free shifts =>
    exact ⟨a, shifts ▸ List.mem_append_left _ ha, .refl a⟩
  | @moved sh f mem moves shifts =>
    rw [shifts]
    by_cases hid : a.id = sh.id
    · obtain rfl := List.inj_on_of_nodup_map k.shifts ha mem hid
      exact ⟨f a, (Rows.mem_update k.shifts mem).2 (.inl rfl), (h.inOrder a ha).precedes moves⟩
    · exact ⟨a, (Rows.mem_update k.shifts mem).2 (.inr ⟨ha, hid⟩), .refl a⟩

end Store

namespace Engine

variable {κ : Type} (e : Engine) (c : CacheAccess κ)

/-- Runs keep the logs in order. -/
theorem run_keeps_logs {w : World κ} (k : w.store.Keyed) (logs : w.store.Logs)
    (steps : List (Step κ)) : (e.run c w steps).store.Keyed ∧ (e.run c w steps).store.Logs := by
  refine run_keeps (P := fun s => s.Keyed ∧ s.Logs) ?_ c ⟨k, logs⟩ steps
  rintro now s after hchange ⟨k, logs⟩
  exact ⟨k.change hchange, logs.change k hchange.logs⟩

theorem apply_keeps_logs {w : World κ} (k : w.store.Keyed) (logs : w.store.Logs) (step : Step κ) :
    (e.apply c w step).store.Keyed ∧ (e.apply c w step).store.Logs :=
  e.run_keeps_logs c k logs [step]

/-- **The logs of a till are in order** after every run. -/
theorem run_logs (now : Instant) (cache : κ) (steps : List (Step κ)) :
    (e.run c (World.empty now cache) steps).store.Logs :=
  (e.run_keeps_logs c (w := World.empty now cache) Store.keyed_empty Store.logs_empty steps).2

end Engine

end Till
