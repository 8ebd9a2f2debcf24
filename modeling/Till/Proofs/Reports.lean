import Till.Proofs.Authority
import Till.Proofs.Journal
import Till.Proofs.Reconciliation

/-!
# What a report says

A report on a shift adds up the events of each kind without their signs, the expected cash adds up
all events with theirs, and the figures of a closed shift were computed before its closing event was
added.  They agree.

* `Shift.cashTotal` : the sum of the amounts of one kind that were not paid by card;
* `Shift.movedBy_eq`, `Shift.cashDue_eq_totals` : the totals of a report are such sums, and the
  expected cash is the sum of them with their signs;
* `Shift.HasFigures` : a closed shift has the figures that were given when it was closed;
* `Engine.run_reportsTruly` : reports reconcile after every run, show the log as it was appended,
  and confirm the figures of closed shifts.
-/

namespace Till

/-! ### Totals -/

namespace DrawerEvent

variable {e : DrawerEvent} {kind : DrawerKind}

/-- Whether an event counts for a kind: it is of the kind, and was not paid by card. -/
def countsFor (kind : DrawerKind) (e : DrawerEvent) : Bool :=
  decide (e.kind = kind) && !decide (e.payment = some .externalCard)

theorem movesCash_eq (e : DrawerEvent) :
    e.movesCash = !decide (e.payment = some .externalCard) := by
  unfold movesCash
  rcases e.payment with _ | _ | _ <;> rfl

theorem size_eq (hkind : e.kind ≠ .close) (hamount : 0 ≤ e.amount) :
    e.size = if e.movesCash then e.amount else 0 := by
  rw [size, effect]
  cases e.movesCash with
  | false => rfl
  | true =>
    cases hdirection : e.kind <;> simp only [DrawerKind.direction, if_true] <;>
      first | exact absurd hdirection hkind | omega

end DrawerEvent

namespace Shift

variable {sh : Shift}

/-- **The sum of the amounts of one kind of event** that were not paid by card. -/
def cashTotal (sh : Shift) (kind : DrawerKind) : Int :=
  Rows.total (DrawerEvent.countsFor kind) (·.amount) sh.events

/-- **The total of a kind** in a report is the sum of its amounts. -/
theorem movedBy_eq {kind : DrawerKind} (hkind : kind ≠ .close)
    (hamounts : ∀ e ∈ sh.events, e.kind ≠ .close → 0 ≤ e.amount) :
    sh.movedBy kind = sh.cashTotal kind := by
  have hsum : ∀ events : List DrawerEvent, (∀ e ∈ events, e.kind ≠ .close → 0 ≤ e.amount) →
      ((events.filter fun e => decide (e.kind = kind)).map DrawerEvent.size).sum =
        Rows.total (DrawerEvent.countsFor kind) (·.amount) events := by
    intro events hevents
    induction events with
    | nil => rfl
    | cons e events ih =>
      obtain ⟨hamount, hrest⟩ := List.forall_mem_cons.1 hevents
      rw [Rows.total_cons, ← ih hrest, List.filter_cons, DrawerEvent.countsFor,
        ← DrawerEvent.movesCash_eq]
      by_cases hsame : e.kind = kind
      · have hsize := DrawerEvent.size_eq (hsame ▸ hkind) (hamount (hsame ▸ hkind))
        simp [hsame, hsize]
      · simp [hsame]
  exact hsum sh.events hamounts

/-- **The cash that is due** is the opening float and the totals of all kinds with their signs. -/
theorem cashDue_eq_totals (sh : Shift) : sh.cashDue = sh.openingCash + sh.cashTotal .cashIn -
    sh.cashTotal .cashOut + sh.cashTotal .sale - sh.cashTotal .refund -
      sh.cashTotal .voidReversal := by
  have hsum : ∀ events : List DrawerEvent, (events.map DrawerEvent.effect).sum =
      Rows.total (DrawerEvent.countsFor .cashIn) (·.amount) events -
      Rows.total (DrawerEvent.countsFor .cashOut) (·.amount) events +
      Rows.total (DrawerEvent.countsFor .sale) (·.amount) events -
      Rows.total (DrawerEvent.countsFor .refund) (·.amount) events -
      Rows.total (DrawerEvent.countsFor .voidReversal) (·.amount) events := by
    intro events
    induction events with
    | nil => rfl
    | cons e events ih =>
      simp only [List.map_cons, List.sum_cons, Rows.total_cons, ih, DrawerEvent.effect,
        DrawerEvent.countsFor, ← DrawerEvent.movesCash_eq]
      cases e.movesCash <;> cases e.kind <;> simp [DrawerKind.direction] <;> omega
  rw [cashDue, hsum]
  simp only [cashTotal]
  omega

end Shift

/-- **A report reconciles** with a shift. -/
structure ShiftReport.Reconciles (r : ShiftReport) (sh : Shift) : Prop where
  /-- It shows the shift with its log. -/
  shift : r.shift = sh
  /-- The expected cash is the opening float and the totals with their signs. -/
  expectedCash : r.expectedCash =
    sh.openingCash + r.cashIn - r.cashOut + r.sales - r.refunds - r.voidReversals
  cashIn : r.cashIn = sh.cashTotal .cashIn
  cashOut : r.cashOut = sh.cashTotal .cashOut
  sales : r.sales = sh.cashTotal .sale
  refunds : r.refunds = sh.cashTotal .refund
  voidReversals : r.voidReversals = sh.cashTotal .voidReversal
  variance : r.variance = sh.variance

theorem ShiftReport.totals_reconciles {sh : Shift}
    (hamounts : ∀ e ∈ sh.events, e.kind ≠ .close → 0 ≤ e.amount) :
    (totals sh).Reconciles sh where
  shift := rfl
  expectedCash := by
    have htotal : ∀ kind, kind ≠ .close → sh.movedBy kind = sh.cashTotal kind :=
      fun kind hkind => Shift.movedBy_eq hkind hamounts
    simp only [totals]
    rw [htotal .cashIn (by decide), htotal .cashOut (by decide), htotal .sale (by decide),
      htotal .refund (by decide), htotal .voidReversal (by decide)]
    exact sh.cashDue_eq_totals
  cashIn := Shift.movedBy_eq (by decide) hamounts
  cashOut := Shift.movedBy_eq (by decide) hamounts
  sales := Shift.movedBy_eq (by decide) hamounts
  refunds := Shift.movedBy_eq (by decide) hamounts
  voidReversals := Shift.movedBy_eq (by decide) hamounts
  variance := rfl

/-! ### Who gets a report -/

namespace Engine

variable {κ : Type} {e : Engine} {c : CacheAccess κ} {w : World κ} {ids : Ids} {actor : Actor}
  {sh : Shift}

/-- **A report that is given** is on a shift of the store that the actor handles. -/
theorem shiftReport_eq_ok {s : Store} {id : String} {r : ShiftReport}
    (h : shiftReport actor id s = .ok r) :
    ∃ sh ∈ s.shifts, sh.id = id ∧ actor.Handles sh ∧ sh.CanReport ∧ r = ShiftReport.totals sh := by
  simp only [shiftReport, Outcome.bind_eq_ok] at h
  obtain ⟨sh, howned, hreport⟩ := h
  obtain ⟨hfound, hid, handles⟩ := ownedShift_eq_ok howned
  have hgives := ShiftReport.ofShift_givesIf sh
  by_cases hcan : sh.CanReport
  · rw [hgives.gives hcan] at hreport
    exact ⟨sh, (Store.shift?_eq_some hfound).1, hid, handles, hcan, (Except.ok.inj hreport).symm⟩
  · rw [hgives.overflows hcan] at hreport
    cases hreport

theorem handle_shiftReport_eq_ok {id : String} {r : ShiftReport} {after : World κ} :
    e.handle c ids actor (.shiftReport id) w = (.ok (.report r), after) ↔
      shiftReport actor id w.store = .ok r ∧ after = w := by
  simp only [handle, look, mapAnswer_eq_ok, World.onStore, Action.query, Prod.mk.injEq,
    Reply.report.injEq]
  constructor
  · rintro ⟨r', ⟨hreport, rfl⟩, rfl⟩
    exact ⟨hreport, rfl⟩
  · rintro ⟨hreport, rfl⟩
    exact ⟨r, ⟨hreport, rfl⟩, rfl⟩

end Engine

/-! ### The figures of a closed shift -/

namespace Shift

variable {sh closed : Shift} {id : String} {cash : Int} {now : Instant} {closure : ShiftClosure}

/-- **A closed shift has the figures** that were given when it was closed. -/
structure HasFigures (sh : Shift) (closure : ShiftClosure) : Prop where
  isClosed : sh.isOpen = false
  expectedCash : sh.cashDue = closure.expectedCash
  closingCash : sh.closingCash = some closure.closingCash
  variance : sh.variance = some closure.variance
  /-- The variance is the counted less the expected cash. -/
  account : closure.variance = closure.closingCash - closure.expectedCash

theorem IsClose.hasFigures (h : sh.IsClose id cash now closed closure) :
    closed.HasFigures closure where
  isClosed := by
    rw [h.closed]
    rfl
  expectedCash := h.cashDue_eq.trans (expectedCash_eq_ok h.expected).symm
  closingCash := by
    rw [h.closed, h.figures]
  variance := by rw [h.closed]
  account := by
    rw [h.figures]

end Shift

namespace Engine

variable {κ : Type} {e : Engine} {c : CacheAccess κ} {w : World κ} {ids : Ids} {actor : Actor}
  {sh : Shift} {id : String} {cash : Int} {closure : ShiftClosure}

/-- **A shift that is closed** has the figures that are given. -/
theorem closeShift_hasFigures {now : Instant} {s after : Store} (k : s.Keyed) (logs : s.Logs)
    (h : e.closeShift ids now actor id cash s = (.ok closure, after)) :
    ∃ closed ∈ after.shifts, closed.id = id ∧ closed.HasFigures closure := by
  rw [closeShift_eq_transact] at h
  simp only [Action.transact_eq_ok, Outcome.bind_eq_ok, Stored.result_eq_ok, Outcome.pure_eq_ok,
    Prod.mk.injEq] at h
  obtain ⟨⟨closed, _⟩, hplan, _, hclose, rfl, rfl⟩ := h
  obtain ⟨sh, hfound, rfl, -, close⟩ := planClose_eq_ok hplan
  obtain ⟨sh', ev, hfits, rfl⟩ := Store.closeShift_eq_ok hclose
  have hmem := (Store.shift?_eq_some hfound).1
  have hlast := hfits.last
  rw [close.events, List.getLast?_concat] at hlast
  obtain rfl : sh.closing ids.event cash now = ev := Option.some.inj hlast
  have hlater := Store.shift?_afterClose k hmem (logs.inOrder sh hmem) close
  obtain ⟨hclosed, hid⟩ := Store.shift?_eq_some hlater
  exact ⟨closed, hclosed, hid, close.hasFigures⟩

/-- **A run has closed a shift** with the figures given. -/
def HasClosed (e : Engine) (c : CacheAccess κ) (start : World κ) (steps : List (Step κ))
    (id : String) (closure : ShiftClosure) : Prop :=
  ∃ before ids actor cash rest after,
    steps = before ++ .request ids actor (.closeShift id cash) :: rest ∧
    e.handle c ids actor (.closeShift id cash) (e.run c start before) =
      (.ok (.closure closure), after)

/-- A closed shift stays as it is. -/
theorem run_keeps_closed (k : w.store.Keyed) (logs : w.store.Logs) (hmem : sh ∈ w.store.shifts)
    (hclosed : sh.isOpen = false) (steps : List (Step κ)) :
    sh ∈ (e.run c w steps).store.shifts := by
  have hkeeps : ∀ {now s after}, Change e now s after → (s.Keyed ∧ s.Logs) ∧ sh ∈ s.shifts →
      (after.Keyed ∧ after.Logs) ∧ sh ∈ after.shifts := by
    rintro now s after hchange ⟨⟨k, logs⟩, hmem⟩
    obtain ⟨later, hlater, hprecedes⟩ := logs.precedes k hchange.logs sh hmem
    exact ⟨⟨k.change hchange, logs.change k hchange.logs⟩, hprecedes.closed hclosed ▸ hlater⟩
  exact (run_keeps hkeeps c ⟨⟨k, logs⟩, hmem⟩ steps).2

/-- **The figures of a closed shift** stay what they were when it was closed. -/
theorem HasClosed.hasFigures (k : w.store.Keyed) (logs : w.store.Logs) {steps : List (Step κ)}
    (h : e.HasClosed c w steps id closure) :
    ∃ sh ∈ (e.run c w steps).store.shifts, sh.id = id ∧ sh.HasFigures closure := by
  obtain ⟨before, ids, actor, cash, rest, after, rfl, hanswer⟩ := h
  obtain ⟨k', logs'⟩ := e.run_keeps_logs c k logs before
  obtain ⟨figures, s, hclose, rfl, hreply⟩ := change_eq_ok.1 hanswer
  obtain rfl := Reply.closure.inj hreply
  obtain ⟨sh, hmem, hid, hfigures⟩ := closeShift_hasFigures k' logs' hclose
  obtain ⟨kafter, logsafter⟩ :=
    e.apply_keeps_logs c k' logs' (.request ids actor (.closeShift id cash))
  have hstep : e.apply c (e.run c w before) (.request ids actor (.closeShift id cash)) =
      { e.run c w before with store := s } := congrArg Prod.snd hanswer
  rw [hstep] at kafter logsafter
  refine ⟨sh, ?_, hid, hfigures⟩
  rw [run_append, run_cons, hstep]
  exact run_keeps_closed kafter logsafter hmem hfigures.isClosed rest

/-- **A shift that a step has closed** was closed by a request that was answered. -/
theorem closed_of_apply (k : w.store.Keyed) (logs : w.store.Logs) (step : Step κ)
    (hmem : sh ∈ (e.apply c w step).store.shifts) (hclosed : sh.isOpen = false) :
    sh ∈ w.store.shifts ∨ ∃ ids actor cash closure after,
      step = .request ids actor (.closeShift sh.id cash) ∧
      e.handle c ids actor (.closeShift sh.id cash) w = (.ok (.closure closure), after) := by
  rcases shift_origin_of_apply k step sh hmem with hold | ⟨ids, actor, r, rfl, horigin⟩
  · exact .inl hold
  -- A shift that was closed before is what it was.
  have hsame : ∀ old ∈ w.store.shifts, sh.id = old.id → old.isOpen = false →
      sh ∈ w.store.shifts := by
    intro old hold hid hwas
    have hkept := run_keeps_closed (e := e) (c := c) k logs hold hwas [.request ids actor r]
    obtain ⟨k', -⟩ := e.apply_keeps_logs c k logs (.request ids actor r)
    obtain rfl := k'.shift_eq hkept hid sh hmem rfl
    exact hold
  cases horigin with
  | kept mem => exact .inl mem
  | opened fresh isOpen unused =>
    rw [hclosed] at isOpen
    cases isOpen
  | @closed old _ cash ev mem id request handles manual events =>
    rw [← id] at request
    subst request
    have hbooked := e.handle_booked c ids actor (r := .closeShift sh.id cash) rfl w
    cases hhandle : e.handle c ids actor (.closeShift sh.id cash) w with
    | mk result after =>
      cases result with
      | error fault =>
        have hkept := hbooked.kept (congrArg Prod.fst hhandle)
        rw [apply, hkept] at hmem
        exact .inl hmem
      | ok reply =>
        obtain ⟨closure, s, -, -, rfl⟩ := change_eq_ok.1 hhandle
        exact .inr ⟨ids, actor, cash, closure, after, rfl, hhandle⟩
  | recorded mem id still | logged mem id still =>
    exact .inl (hsame _ mem id (still ▸ hclosed))

/-- **A closed shift** was closed in the run. -/
theorem hasClosed_of_mem (k : w.store.Keyed) (logs : w.store.Logs) {steps : List (Step κ)}
    (hmem : sh ∈ (e.run c w steps).store.shifts) (hclosed : sh.isOpen = false) :
    sh ∈ w.store.shifts ∨ ∃ closure, e.HasClosed c w steps sh.id closure := by
  induction steps generalizing w with
  | nil => exact .inl hmem
  | cons step steps ih =>
    obtain ⟨k', logs'⟩ := e.apply_keeps_logs c k logs step
    rcases ih k' logs' hmem with
      hbefore | ⟨closure, before, ids, actor, cash, rest, after, rfl, hanswer⟩
    · rcases closed_of_apply k logs step hbefore hclosed with hold |
        ⟨ids, actor, cash, closure, after, rfl, hanswer⟩
      · exact .inl hold
      · exact .inr ⟨closure, [], ids, actor, cash, steps, after, rfl, hanswer⟩
    · exact .inr ⟨closure, step :: before, ids, actor, cash, rest, after, rfl, hanswer⟩

/-! ### Reports after a run -/

/-- **Reports tell the truth** after the steps of a run. -/
structure ReportsTruly (e : Engine) (c : CacheAccess κ) (start : World κ)
    (steps : List (Step κ)) : Prop where
  /-- Whoever handles a shift gets a report on it if its sums fit. -/
  given : ∀ sh ∈ (e.run c start steps).store.shifts, ∀ ids actor, actor.Handles sh →
    sh.CanReport → ∃ r,
      e.handle c ids actor (.shiftReport sh.id) (e.run c start steps) =
        (.ok (.report r), e.run c start steps)
  /-- A report that is given reconciles with the shift that is stored. -/
  reconciles : ∀ ids actor id r after,
    e.handle c ids actor (.shiftReport id) (e.run c start steps) = (.ok (.report r), after) →
      ∃ sh ∈ (e.run c start steps).store.shifts, sh.id = id ∧ r.Reconciles sh
  /-- The log that is stored consists of the events that the appends for the shift have returned,
  and of its closing event once it is closed. -/
  log : ∀ sh ∈ (e.run c start steps).store.shifts,
    sh.events = ((e.appendedIn c start steps).filter fun ev => ev.shift == sh.id) ++
      Shift.closings sh.events
  /-- So its first events are the first events returned. -/
  first : ∀ sh ∈ (e.run c start steps).store.shifts,
    ∀ k ≤ ((e.appendedIn c start steps).filter fun ev => ev.shift == sh.id).length,
      sh.events.take k =
        ((e.appendedIn c start steps).filter fun ev => ev.shift == sh.id).take k
  /-- There is no closing event before it is closed, and one afterwards. -/
  closings : ∀ sh ∈ (e.run c start steps).store.shifts,
    (Shift.closings sh.events).length = if sh.isOpen then 0 else 1
  /-- What an entry made by hand is answered with is what its append has returned. -/
  answers : ∀ w ids actor id entry ev after,
    e.handle c ids actor (.recordEntry id entry) w = (.ok (.event ev), after) →
      e.appendedBy w (.request ids actor (.recordEntry id entry)) = [ev]
  /-- A closed shift was closed by a request, which was answered with its figures. -/
  closed : ∀ sh ∈ (e.run c start steps).store.shifts, sh.isOpen = false →
    ∃ closure, e.HasClosed c start steps sh.id closure
  /-- These stay the figures of the shift, and all reports on it confirm them. -/
  figures : ∀ id closure, e.HasClosed c start steps id closure →
    (∃ sh ∈ (e.run c start steps).store.shifts, sh.id = id ∧ sh.HasFigures closure) ∧
    ∀ ids actor r after,
      e.handle c ids actor (.shiftReport id) (e.run c start steps) = (.ok (.report r), after) →
        r.expectedCash = closure.expectedCash ∧ r.variance = some closure.variance

/-- **Reports tell the truth** after every run. -/
theorem run_reportsTruly (e : Engine) (c : CacheAccess κ) (now : Instant) (cache : κ)
    (steps : List (Step κ)) : e.ReportsTruly c (World.empty now cache) steps := by
  obtain ⟨hkeyed, hlogs⟩ := e.run_keeps_logs c (w := World.empty now cache) Store.keyed_empty
    Store.logs_empty steps
  have hlog := e.run_log c now cache steps
  constructor
  case given =>
    intro sh hmem ids actor handles hcan
    exact ⟨_, handle_shiftReport_eq_ok.2
      ⟨(shiftReport_givesIf hkeyed hmem handles).gives hcan, rfl⟩⟩
  case reconciles =>
    intro ids actor id r after hreport
    obtain ⟨sh, hmem, hid, -, -, rfl⟩ := shiftReport_eq_ok (handle_shiftReport_eq_ok.1 hreport).1
    exact ⟨sh, hmem, hid, ShiftReport.totals_reconciles (e.run_amounts c now cache steps sh hmem)⟩
  case log => exact hlog
  case first =>
    intro sh hmem k hk
    rw [hlog sh hmem, List.take_append_of_le_length hk]
  case closings => exact fun sh hmem => (hlogs.inOrder sh hmem).closings
  case answers =>
    intro w ids actor id entry ev after hanswer
    obtain ⟨ev', s, hrecord, -, hreply⟩ := change_eq_ok.1 hanswer
    obtain rfl := Reply.event.inj hreply
    exact e.appended_of_recordEntry hrecord
  case closed =>
    intro sh hmem hclosed
    refine (hasClosed_of_mem Store.keyed_empty Store.logs_empty hmem hclosed).resolve_left ?_
    exact List.not_mem_nil
  case figures =>
    intro id closure hclosed
    obtain ⟨sh, hmem, rfl, hfigures⟩ := hclosed.hasFigures Store.keyed_empty Store.logs_empty
    refine ⟨⟨sh, hmem, rfl, hfigures⟩, ?_⟩
    intro ids actor r after hreport
    obtain ⟨sh', hmem', hid, -, -, rfl⟩ := shiftReport_eq_ok (handle_shiftReport_eq_ok.1 hreport).1
    obtain rfl := hkeyed.shift_eq hmem' hid.symm sh hmem rfl
    exact ⟨hfigures.expectedCash, hfigures.variance⟩

end Engine

end Till
