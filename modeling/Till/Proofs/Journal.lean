import Till.Proofs.Logs

/-!
# What a log consists of

The log of a shift is what was appended to it.  Entries made by hand, sales, voids and refunds
append one event each, and the append returns the event.

* `Engine.append` : the append that a request makes, with the event that it returns;
* `Engine.shifts_handle` : such a request does to the shifts what its append does;
* `Engine.appendedIn` : the events that the appends of a run have returned, in their order;
* `Engine.run_log` : after every run, the log of a shift consists of those of them that are for the
  shift and, once it is closed, of its closing event.
-/

namespace Till

/-! ### Entries -/

namespace Shift

variable {sh : Shift}

/-- The events of a log that do not close the shift. -/
def entries (sh : Shift) : List DrawerEvent := sh.events.filter fun e => !decide (e.kind = .close)

theorem entries_append {e : DrawerEvent} (hkind : e.kind ≠ .close) :
    entries { sh with events := sh.events ++ [e] } = sh.entries ++ [e] := by
  simp [entries, hkind]

/-- **A log consists of its entries and of its closing event**, if there is one. -/
theorem InOrder.events_eq (h : sh.InOrder) :
    sh.events = sh.entries ++ Shift.closings sh.events := by
  have hnone : ∀ events : List DrawerEvent, Shift.closings events = [] →
      (events.filter fun e => !decide (e.kind = .close)) = events := by
    intro events hclosings
    refine List.filter_eq_self.2 fun e he => ?_
    have hkind := List.filter_eq_nil_iff.1 hclosings e he
    simpa using hkind
  have hcount := h.closings
  cases hopen : sh.isOpen with
  | true =>
    rw [hopen, if_pos rfl, List.length_eq_zero_iff] at hcount
    rw [entries, hnone _ hcount, hcount, List.append_nil]
  | false =>
    obtain ⟨e, hlast, hkind⟩ := h.last hopen
    obtain ⟨front, hevents⟩ := List.getLast?_eq_some_iff.1 hlast
    -- The last event is the only one that closes the shift.
    rw [hopen, hevents, closings_concat, if_pos hkind] at hcount
    have hfront : Shift.closings front = [] := by
      simpa using hcount
    rw [entries, hevents, closings_concat, if_pos hkind, hfront, List.filter_append, hnone _ hfront]
    simp [hkind]

end Shift

namespace Store

variable {s after : Store} {sh : Shift} {ev : DrawerEvent}

/-- The entries of the shift with an identifier, if there is one. -/
def entriesOf (s : Store) (id : String) : List DrawerEvent :=
  ((s.shift? id).map Shift.entries).getD []

theorem entriesOf_of_mem (k : s.Keyed) (hmem : sh ∈ s.shifts) : s.entriesOf sh.id = sh.entries := by
  rw [entriesOf, shift?_of_mem k hmem]
  rfl

theorem entriesOf_congr (hshifts : after.shifts = s.shifts) (id : String) :
    after.entriesOf id = s.entriesOf id := by
  rw [entriesOf, shift?, hshifts]
  rfl

/-- The entries after a shift has changed. -/
theorem entriesOf_update (k : s.Keyed) (hmem : sh ∈ s.shifts) {f : Shift → Shift}
    (hf : ∀ sh, (f sh).id = sh.id)
    (hshifts : after.shifts = Rows.update (·.id) sh.id f s.shifts) (id : String) :
    after.entriesOf id = if id = sh.id then (f sh).entries else s.entriesOf id := by
  rw [entriesOf, shift?, hshifts]
  by_cases hid : id = sh.id
  · rw [if_pos hid, hid, Rows.find?_update_self k.shifts hmem hf]
    rfl
  · rw [if_neg hid, Rows.find?_update_of_ne hf hid]
    rfl

/-- **An append adds the event that it returns** to the entries of its shift. -/
theorem entriesOf_appends (k : s.Keyed) (logs : s.Logs) (h : s.Appends sh ev)
    (hkind : ev.kind ≠ .close) (hshifts : after.shifts = (s.logged ev).shifts) (id : String) :
    after.entriesOf id = s.entriesOf id ++ [ev].filter fun e => e.shift == id := by
  obtain ⟨hmem, hid⟩ := h.mem
  have horder := logs.inOrder sh hmem
  have hseq := h.seq
  rw [horder.nextSeq_eq] at hseq
  rw [shifts_logged, ← hid] at hshifts
  rw [entriesOf_update k hmem (f := fun sh => { sh with events := placeEvent ev sh.events })
    (fun _ => rfl) hshifts id]
  by_cases hsame : id = sh.id
  · rw [if_pos hsame, horder.placeEvent_eq hseq, Shift.entries_append hkind, hsame,
      entriesOf_of_mem k hmem]
    simp [hid]
  · rw [if_neg hsame]
    simp [← hid, Ne.symm hsame]

/-- The beginning of a shift adds no entries. -/
theorem entriesOf_opened (hshifts : after.shifts = s.shifts ++ [unused sh]) (id : String) :
    after.entriesOf id = s.entriesOf id := by
  rw [entriesOf, entriesOf, shift?, shift?, hshifts, List.find?_append]
  cases hfound : s.shifts.find? fun sh => sh.id == id with
  | some _ => rfl
  | none =>
    by_cases hid : sh.id = id <;> simp [unused, Shift.entries, hid]

/-- Nor does its end. -/
theorem entriesOf_closed (k : s.Keyed) (logs : s.Logs) {id : String} {cash : Int} {now : Instant}
    {closed : Shift} {closure : ShiftClosure} (close : sh.IsClose id cash now closed closure)
    (fits : s.CloseFits closed sh ev) (id' : String) :
    (s.afterClose closed ev).entriesOf id' = s.entriesOf id' := by
  obtain ⟨hmem, hid⟩ := shift?_eq_some fits.found
  have hlast := fits.last
  rw [close.events, List.getLast?_concat] at hlast
  obtain rfl : sh.closing id cash now = ev := Option.some.inj hlast
  have hshifts := shifts_afterClose (s := s) closed (sh.closing id cash now) hid
  rw [← hid] at hshifts
  rw [entriesOf_update k hmem
    (f := fun sh' =>
      { ended sh' closed with events := placeEvent (sh.closing id cash now) sh'.events })
    (fun _ => rfl) hshifts id']
  split
  · next hsame =>
    rw [(logs.inOrder sh hmem).closed_eq close, hsame, entriesOf_of_mem k hmem, Shift.entries,
      close.events, List.filter_append]
    simp [DrawerEntry.place, Shift.entries]
  · rfl

end Store

/-! ### The append of a request -/

namespace Engine

variable {κ : Type} {e : Engine} {c : CacheAccess κ} {ids : Ids} {now : Instant} {actor : Actor}
  {s after : Store} {w : World κ} {ev : DrawerEvent} {r : Request}

/-- The claim on a key, if nothing is stored under it. -/
def claimFor (lifetime : Int) (k : KeyUse) (s : Store) : Result Claim := do
  (Field.key k.key).run
  Outcome.require (k.record? s).isNone (.inFlight k.key)
  Claim.make k.store k.cashier k.key k.now lifetime

theorem claimFor_eq_ok {lifetime : Int} {k : KeyUse} {claim : Claim} :
    claimFor lifetime k s = .ok claim ↔ Claims lifetime k s claim := by
  simp only [claimFor, Outcome.bind_eq_ok, Field.Check.run_eq_ok, Outcome.require_eq_ok,
    Option.isNone_iff_eq_none]
  constructor
  · rintro ⟨_, hkey, _, hfree, hmade⟩
    exact ⟨hkey, hfree, hmade⟩
  · rintro ⟨hkey, hfree, hmade⟩
    exact ⟨(), hkey, (), hfree, hmade⟩

/-- **The append that a request makes**, if it succeeds: the store that it leaves, and the event
that it returns. -/
def append (e : Engine) (ids : Ids) (now : Instant) (actor : Actor) (s : Store) :
    Request → Option (Store × DrawerEvent)
  | .recordEntry id entry => Except.toOption (do
    (checkManualEntry entry).run
    let shift ← ownedShift actor id "record on another cashier's shift" s
    shift.checkOpen
    (s.appendEntry shift.id ids.event entry now).result)
  | .checkout cart key => Except.toOption (do
    let claim ← claimFor e.keyLifetime ⟨actor.store, actor.cashier, key, now⟩ s
    let u ← e.planSale ids now actor cart claim s
    (s.appendSale u).result)
  | .void id reason => Except.toOption (do
    let (_, u) ← e.planVoid ids now actor id reason s
    (s.appendVoid u).result)
  | .refund id amount reason => Except.toOption (do
    let shift ← refundShift actor reason s
    let u ← planRefund ids now actor shift.id id amount reason s
    (s.appendRefund u).result)
  | _ => none

/-- The event that the append of a request has returned, if it has made one. -/
def appended (e : Engine) (ids : Ids) (now : Instant) (actor : Actor) (s : Store) (r : Request) :
    List DrawerEvent := ((e.append ids now actor s r).map Prod.snd).toList

theorem toOption_eq_some {ε α : Type} {x : Except ε α} {a : α} :
    x.toOption = some a ↔ x = .ok a := by
  cases x <;> simp [Except.toOption]

/-- **An append that succeeds** puts the event that it returns into the log of an open shift, and
leaves the other shifts alone. -/
theorem append_eq_some (h : e.append ids now actor s r = some (after, ev)) :
    ∃ sh, s.Appends sh ev ∧ ev.kind ≠ .close ∧ after.shifts = (s.logged ev).shifts := by
  cases r with
  | recordEntry id entry =>
    simp only [append, toOption_eq_some, Outcome.bind_eq_ok, Field.Check.run_eq_ok,
      Stored.result_eq_ok] at h
    obtain ⟨_, hcheck, sh', -, _, -, happend⟩ := h
    obtain ⟨sh, hplace, happends, rfl⟩ := Store.appendEntry_eq_ok happend
    refine ⟨sh, happends, ?_, rfl⟩
    rw [hplace]
    exact ne_close_of_manual hcheck
  | checkout cart key =>
    simp only [append, toOption_eq_some, Outcome.bind_eq_ok, Stored.result_eq_ok] at h
    obtain ⟨claim, -, u, hplan, happend⟩ := h
    obtain ⟨sh, hfits, rfl⟩ := Store.appendSale_eq_ok happend
    refine ⟨sh, hfits.appends, ?_, rfl⟩
    rw [hfits.entry]
    exact ne_close_of_sale hplan
  | void id reason =>
    simp only [append, toOption_eq_some, Outcome.bind_eq_ok, Stored.result_eq_ok] at h
    obtain ⟨⟨voided, u⟩, hplan, happend⟩ := h
    obtain ⟨t, sh, hfits, rfl⟩ := Store.appendVoid_eq_ok happend
    obtain ⟨sh', t', -, hplanned, -⟩ := planVoid_eq_ok hplan
    refine ⟨sh, hfits.appends, ?_, rfl⟩
    rw [hfits.entry, hplanned.unit]
    intro hclose
    cases hclose
  | refund id amount reason =>
    simp only [append, toOption_eq_some, Outcome.bind_eq_ok, Stored.result_eq_ok] at h
    obtain ⟨sh', -, u, hplan, happend⟩ := h
    obtain ⟨t, sh, hfits, rfl⟩ := Store.appendRefund_eq_ok happend
    obtain ⟨t', refunded, units, -, -, -, rfl⟩ := planRefund_eq_ok hplan
    refine ⟨sh, hfits.appends, ?_, rfl⟩
    rw [hfits.entry]
    intro hclose
    cases hclose
  | _ => cases h

theorem mem_appended (h : ev ∈ e.appended ids now actor s r) :
    ∃ after, e.append ids now actor s r = some (after, ev) := by
  obtain ⟨⟨after, _⟩, happend, rfl⟩ := Option.map_eq_some_iff.1 (Option.mem_toList.1 h)
  exact ⟨after, happend⟩

/-! ### Requests and their appends -/

/-- A step that gives a new state exactly if an append succeeds leaves the store of the append. -/
theorem transact_of_append {α : Type} {f : Store → Result (α × Store)}
    {x : Result (Store × DrawerEvent)}
    (h : ∀ after, (∃ a, f s = .ok (a, after)) ↔ ∃ ev, x = .ok (after, ev)) :
    (Action.transact f s).2 = x.toOption.elim s Prod.fst := by
  cases hf : f s with
  | ok done =>
    obtain ⟨ev, hx⟩ := (h done.2).1 ⟨done.1, hf⟩
    simp [Action.transact, hf, hx, Except.toOption]
  | error fault =>
    cases hx : x with
    | ok done =>
      obtain ⟨a, ha⟩ := (h done.1).2 ⟨done.2, hx⟩
      rw [hf] at ha
      cases ha
    | error fault => simp [Action.transact, hf, Except.toOption]

theorem recordEntry_append (e : Engine) (ids : Ids) (now : Instant) (actor : Actor) (s : Store)
    (id : String) (entry : DrawerEntry) :
    (recordEntry ids now actor id entry s).2 =
      (e.append ids now actor s (.recordEntry id entry)).elim s Prod.fst := by
  refine transact_of_append fun after => ?_
  simp only [Outcome.bind_eq_ok, Outcome.pure_eq_ok, Prod.mk.injEq]
  constructor
  · rintro ⟨ev, u, hcheck, sh, howned, u', hopen, ⟨_, _⟩, happend, rfl, rfl⟩
    exact ⟨_, u, hcheck, sh, howned, u', hopen, happend⟩
  · rintro ⟨ev, u, hcheck, sh, howned, u', hopen, happend⟩
    exact ⟨_, u, hcheck, sh, howned, u', hopen, _, happend, rfl, rfl⟩

/-- The answer to an entry made by hand is the event that its append returns. -/
theorem appended_of_recordEntry (e : Engine) {id : String} {entry : DrawerEntry}
    (h : recordEntry ids now actor id entry s = (.ok ev, after)) :
    e.appended ids now actor s (.recordEntry id entry) = [ev] := by
  simp only [recordEntry, Action.transact_eq_ok, Outcome.bind_eq_ok, Outcome.pure_eq_ok,
    Prod.mk.injEq] at h
  obtain ⟨u, hcheck, sh, howned, u', hopen, ⟨_, _⟩, happend, rfl, rfl⟩ := h
  simp [appended, append, hcheck, howned, hopen, happend, bind, Except.bind, Except.toOption]

theorem void_append (e : Engine) (ids : Ids) (now : Instant) (actor : Actor) (s : Store)
    (id reason : String) :
    (e.void ids now actor id reason s).2 =
      (e.append ids now actor s (.void id reason)).elim s Prod.fst := by
  refine transact_of_append fun after => ?_
  simp only [Outcome.bind_eq_ok, Outcome.pure_eq_ok, Prod.mk.injEq, Stored.result_eq_ok,
    Store.commitVoid_eq_map, Outcome.map_eq_ok]
  constructor
  · rintro ⟨t, ⟨voided, u⟩, hplan, _, ⟨⟨_, ev⟩, happend, rfl⟩, -, rfl⟩
    exact ⟨ev, _, hplan, happend⟩
  · rintro ⟨ev, ⟨voided, u⟩, hplan, happend⟩
    exact ⟨_, _, hplan, _, ⟨_, happend, rfl⟩, rfl, rfl⟩

theorem refund_append (e : Engine) (ids : Ids) (now : Instant) (actor : Actor) (s : Store)
    (id : String) (amount : Int) (reason : String) :
    (e.refund ids now actor id amount reason s).2 =
      (e.append ids now actor s (.refund id amount reason)).elim s Prod.fst := by
  rw [refund_eq]
  refine transact_of_append fun after => ?_
  simp only [Outcome.bind_eq_ok, Outcome.pure_eq_ok, Prod.mk.injEq, Stored.result_eq_ok,
    Store.commitRefund_eq_map, Outcome.map_eq_ok]
  constructor
  · rintro ⟨refund, sh, hshift, u, hplan, _, ⟨⟨_, ev⟩, happend, rfl⟩, -, rfl⟩
    exact ⟨ev, sh, hshift, u, hplan, happend⟩
  · rintro ⟨ev, sh, hshift, u, hplan, happend⟩
    exact ⟨_, sh, hshift, u, hplan, _, ⟨_, happend, rfl⟩, rfl, rfl⟩

/-- A sale under a claim does to the store what its append does. -/
theorem sale_append (e : Engine) (ids : Ids) (now : Instant) (actor : Actor) (cart : Cart)
    {key : String} {claim : Claim} {s : Store}
    (claims : Claims e.keyLifetime ⟨actor.store, actor.cashier, key, now⟩ s claim) :
    (Action.transact (e.sale ids now actor cart claim) s).2 =
      (e.append ids now actor s (.checkout cart key)).elim s Prod.fst := by
  refine transact_of_append fun after => ?_
  simp only [claimFor_eq_ok.2 claims, sale, Outcome.bind_eq_ok, Outcome.pure_eq_ok, Prod.mk.injEq,
    Stored.result_eq_ok, Store.commitSale_eq_map, Outcome.map_eq_ok, Except.ok.injEq,
    exists_eq_left']
  constructor
  · rintro ⟨t, u, hplan, _, ⟨⟨_, ev⟩, happend, rfl⟩, -, rfl⟩
    exact ⟨ev, u, hplan, happend⟩
  · rintro ⟨ev, u, hplan, happend⟩
    exact ⟨_, u, hplan, _, ⟨_, happend, rfl⟩, rfl, rfl⟩

theorem append_of_unclaimed {cart : Cart} {key : String}
    (h : ∀ claim, ¬Claims e.keyLifetime ⟨actor.store, actor.cashier, key, now⟩ s claim) :
    e.append ids now actor s (.checkout cart key) = none := by
  simp only [append]
  cases hclaim : claimFor e.keyLifetime ⟨actor.store, actor.cashier, key, now⟩ s with
  | ok claim => exact absurd (claimFor_eq_ok.1 hclaim) (h claim)
  | error fault => rfl

theorem shifts_elim (s : Store) (x : Option (Store × DrawerEvent)) :
    (x.elim s Prod.fst).shifts = x.elim s.shifts (·.1.shifts) := by
  cases x <;> rfl

/-- So does a sale under a key, as far as the shifts go: a refusal may be remembered. -/
theorem sellOnce_append (e : Engine) (ids : Ids) (now : Instant) (actor : Actor) (s : Store)
    (cart : Cart) (key : String) :
    (e.sellOnce ids now actor cart key s).2.shifts =
      (e.append ids now actor s (.checkout cart key)).elim s.shifts (·.1.shifts) := by
  have houtcome := e.sellOnce_outcome ids now actor cart key s
  generalize e.sellOnce ids now actor cart key s = done at houtcome
  cases houtcome with
  | malformed malformed =>
    rw [append_of_unclaimed fun claim claims => ?_]
    · rfl
    · rw [claims.wellFormed] at malformed
      cases malformed
  | replayed wellFormed found =>
    rw [append_of_unclaimed fun claim claims => ?_]
    · rfl
    · rw [claims.free] at found
      cases found
  | endless wellFormed free late =>
    rw [append_of_unclaimed fun claim claims => late (Claim.make_eq_ok.1 claims.made).1]
    rfl
  | done claims body =>
    have hsale := e.sale_append ids now actor cart claims
    rw [Action.transact, body] at hsale
    rw [← shifts_elim]
    exact congrArg Store.shifts hsale
  | refused claims body kind | failed claims body kind =>
    have hsale := e.sale_append ids now actor cart claims
    rw [Action.transact, body] at hsale
    have hshifts : s.shifts = _ := congrArg Store.shifts hsale
    rw [← shifts_elim]
    exact hshifts

end Engine

/-- Whether a request appends an event to a log if it succeeds. -/
def Request.appends : Request → Bool
  | .recordEntry _ _ | .checkout _ _ | .void _ _ | .refund _ _ _ => true
  | _ => false

/-- Other requests leave the entries of all shifts alone. -/
theorem Deed.entriesOf_eq {e : Engine} {ids : Ids} {actor : Actor} {now : Instant} {s after : Store}
    {r : Request} (h : Deed e ids actor now s r after) (k : s.Keyed) (logs : s.Logs)
    (happends : r.appends = false) (id : String) : after.entriesOf id = s.entriesOf id := by
  cases h with
  | shiftOpened start added =>
    obtain ⟨-, -, -, rfl⟩ := Store.addShift_eq_ok.1 added
    exact Store.entriesOf_opened rfl id
  | shiftClosed handles close fits => exact Store.entriesOf_closed k logs close fits id
  | productAdded check added =>
    obtain ⟨-, -, -, rfl⟩ := Store.addProduct_eq_ok.1 added
    rfl
  | supplierAdded check added =>
    obtain ⟨-, rfl⟩ := Store.addSupplier_eq_ok.1 added
    rfl
  | orderAdded elevated check products added =>
    obtain ⟨-, -, -, -, rfl⟩ := Store.addOrder_eq_ok.1 added
    rfl
  | received => rfl
  | entryRecorded | sold | refused | voided | refunded => cases happends

namespace Engine

variable {κ : Type}

/-- **A request that appends** does to the shifts what its append does. -/
theorem shifts_handle (e : Engine) (c : CacheAccess κ) (ids : Ids) (actor : Actor) {r : Request}
    (happends : r.appends = true) (w : World κ) :
    (e.handle c ids actor r w).2.store.shifts =
      (e.append ids w.now actor w.store r).elim w.store.shifts (·.1.shifts) := by
  cases r with
  | recordEntry id entry =>
    rw [handle, change_store, recordEntry_append e, shifts_elim]
  | checkout cart key =>
    rw [handle, mapAnswer_snd, checkout_store, sellOnce_append]
  | void id reason => rw [handle, change_store, void_append, shifts_elim]
  | refund id amount reason => rw [handle, change_store, refund_append, shifts_elim]
  | _ => cases happends

theorem append_eq_none {e : Engine} {ids : Ids} {now : Instant} {actor : Actor} {s : Store}
    {r : Request} (happends : r.appends = false) : e.append ids now actor s r = none := by
  cases r <;> first | rfl | cases happends

/-- **What a request does to the entries of a shift**: it adds the event that its append has
returned, if it is for the shift. -/
theorem entriesOf_handle (e : Engine) (c : CacheAccess κ) (ids : Ids) (actor : Actor) (r : Request)
    (w : World κ) (k : w.store.Keyed) (logs : w.store.Logs) (id : String) :
    (e.handle c ids actor r w).2.store.entriesOf id = w.store.entriesOf id ++
      (e.appended ids w.now actor w.store r).filter fun ev => ev.shift == id := by
  cases happends : r.appends with
  | true =>
    have hshifts := e.shifts_handle c ids actor happends w
    cases happend : e.append ids w.now actor w.store r with
    | none =>
      rw [happend] at hshifts
      simpa [appended, happend] using Store.entriesOf_congr hshifts id
    | some done =>
      obtain ⟨sh, hinto, hkind, hlogged⟩ := append_eq_some happend
      rw [happend] at hshifts
      have hentries := Store.entriesOf_appends k logs hinto hkind (hshifts.trans hlogged) id
      simpa [appended, happend] using hentries
  | false =>
    have hstays : (e.handle c ids actor r w).2.store.entriesOf id = w.store.entriesOf id := by
      rcases e.handle_deed c ids actor r w with hsame | hdeed
      · rw [hsame]
      · exact hdeed.entriesOf_eq k logs happends id
    simpa [appended, append_eq_none happends] using hstays

/-! ### Runs -/

/-- The event that the append of a step has returned, if it has made one. -/
def appendedBy (e : Engine) (w : World κ) : Step κ → List DrawerEvent
  | .request ids actor r => e.appended ids w.now actor w.store r
  | _ => []

/-- **The events that the appends of a run have returned**, in their order. -/
def appendedIn (e : Engine) (c : CacheAccess κ) (w : World κ) : List (Step κ) → List DrawerEvent
  | [] => []
  | step :: steps => e.appendedBy w step ++ e.appendedIn c (e.apply c w step) steps

/-- What a step does to the entries of a shift. -/
theorem entriesOf_apply (e : Engine) (c : CacheAccess κ) (w : World κ) (k : w.store.Keyed)
    (logs : w.store.Logs) (step : Step κ) (id : String) :
    (e.apply c w step).store.entriesOf id = w.store.entriesOf id ++
      (e.appendedBy w step).filter fun ev => ev.shift == id := by
  cases step with
  | request ids actor r => exact e.entriesOf_handle c ids actor r w k logs id
  | purge | time | caching => exact (List.append_nil _).symm

/-- **A run adds the events that its appends return** to the entries of their shifts. -/
theorem entriesOf_run (e : Engine) (c : CacheAccess κ) (w : World κ) (k : w.store.Keyed)
    (logs : w.store.Logs) (steps : List (Step κ)) (id : String) :
    (e.run c w steps).store.entriesOf id = w.store.entriesOf id ++
      (e.appendedIn c w steps).filter fun ev => ev.shift == id := by
  induction steps generalizing w with
  | nil => simp [appendedIn]
  | cons step steps ih =>
    obtain ⟨k', logs'⟩ := e.apply_keeps_logs c k logs step
    rw [run_cons, ih _ k' logs', entriesOf_apply e c w k logs, appendedIn,
      List.filter_append, List.append_assoc]

/-- What a run appends has an amount that is not negative. -/
theorem amount_of_mem_appendedIn {e : Engine} {c : CacheAccess κ} {steps : List (Step κ)}
    {ev : DrawerEvent} : ∀ {w : World κ}, ev ∈ e.appendedIn c w steps → 0 ≤ ev.amount := by
  induction steps with
  | nil => exact fun h => absurd h List.not_mem_nil
  | cons step steps ih =>
    intro w h
    rcases List.mem_append.1 h with hstep | hrest
    · cases step with
      | request ids actor r =>
        obtain ⟨after, happend⟩ := mem_appended hstep
        obtain ⟨sh, hinto, -⟩ := append_eq_some happend
        exact hinto.amount
      | _ => cases hstep
    · exact ih hrest

/-- **The log of a shift** consists of the events that the appends for it have returned and, if it
is closed, of its closing event. -/
theorem run_log (e : Engine) (c : CacheAccess κ) (now : Instant) (cache : κ)
    (steps : List (Step κ)) : ∀ sh ∈ (e.run c (World.empty now cache) steps).store.shifts,
      sh.events =
        ((e.appendedIn c (World.empty now cache) steps).filter fun ev => ev.shift == sh.id) ++
          Shift.closings sh.events := by
  intro sh hmem
  obtain ⟨hkeyed, hlogs⟩ := e.run_keeps_logs c (w := World.empty now cache) Store.keyed_empty
    Store.logs_empty steps
  have hentries := e.entriesOf_run c (World.empty now cache) Store.keyed_empty Store.logs_empty
    steps sh.id
  rw [Store.entriesOf_of_mem hkeyed hmem] at hentries
  calc sh.events
      _ = sh.entries ++ Shift.closings sh.events := (hlogs.inOrder sh hmem).events_eq
      _ = _ := by
        rw [hentries]
        rfl

/-- All of these but the closing event have an amount that is not negative. -/
theorem run_amounts (e : Engine) (c : CacheAccess κ) (now : Instant) (cache : κ)
    (steps : List (Step κ)) : ∀ sh ∈ (e.run c (World.empty now cache) steps).store.shifts,
      ∀ ev ∈ sh.events, ev.kind ≠ .close → 0 ≤ ev.amount := by
  intro sh hmem ev hev hkind
  rw [e.run_log c now cache steps sh hmem] at hev
  rcases List.mem_append.1 hev with hentry | hclosing
  · exact amount_of_mem_appendedIn (List.mem_filter.1 hentry).1
  · exact absurd (of_decide_eq_true (List.mem_filter.1 hclosing).2) hkind

end Engine

end Till
