import Till.Proofs.Reports

/-!
# Entries made by hand

An entry made by hand is cash put into the drawer or taken out of it.  Its kind and its amount are
tested, and how it is said to have been paid is not, although it is taken down with the entry and
decides whether it moves cash.

* `Engine.recordEntry_records` : what an entry that is accepted does to the log of its shift;
* `ShiftReport.Moved` : a report with the amount of an entry in its expected cash and in the total
  of its kind;
* `Engine.run_recordsByHand` : after every run, an entry that is accepted moves its amount exactly
  if it is not said to have been paid by card, and nothing otherwise;
* `not_moved_byCard` : an entry that is accepted and moves nothing.
-/

namespace Till

/-! ### Adding an event -/

namespace Shift

variable (sh : Shift) (ev : DrawerEvent)

/-- A shift with another event at the end of its log. -/
def withEvent : Shift := { sh with events := sh.events ++ [ev] }

theorem cashDue_withEvent : (sh.withEvent ev).cashDue = sh.cashDue + ev.effect := by
  simp only [cashDue, withEvent, List.map_append, List.sum_append, List.map_singleton,
    List.sum_singleton, Int.add_assoc]

theorem movedBy_withEvent (kind : DrawerKind) :
    (sh.withEvent ev).movedBy kind = sh.movedBy kind + if ev.kind = kind then ev.size else 0 := by
  by_cases hkind : ev.kind = kind <;>
    simp [movedBy, withEvent, List.filter_append, hkind]

end Shift

/-- **The shift that an event was appended to** is found with the event at the end of its log. -/
theorem Store.Appends.shift?_logged {s : Store} {sh : Shift} {ev : DrawerEvent}
    (h : s.Appends sh ev) (k : s.Keyed) (logs : s.Logs) :
    (s.logged ev).shift? sh.id = some (sh.withEvent ev) := by
  obtain ⟨hmem, hid⟩ := h.mem
  have horder := logs.inOrder sh hmem
  have hseq := h.seq
  rw [horder.nextSeq_eq] at hseq
  have hfound := Rows.find?_update_self
    (f := fun sh : Shift => { sh with events := Store.placeEvent ev sh.events }) k.shifts hmem
    fun _ => rfl
  rw [Store.shift?, Store.shifts_logged, ← hid, hfound, horder.placeEvent_eq hseq]
  rfl

/-- **A report with the amount of an entry** in its expected cash and in the total of its kind. -/
structure ShiftReport.Moved (before after : ShiftReport) (entry : DrawerEntry) : Prop where
  expectedCash : after.expectedCash = before.expectedCash + entry.amount * entry.kind.direction
  cashIn : after.cashIn = before.cashIn + if entry.kind = .cashIn then entry.amount else 0
  cashOut : after.cashOut = before.cashOut + if entry.kind = .cashOut then entry.amount else 0
  sales : after.sales = before.sales
  refunds : after.refunds = before.refunds
  voidReversals : after.voidReversals = before.voidReversals

/-- A report with the figures of another one. -/
structure ShiftReport.Unmoved (before after : ShiftReport) : Prop where
  expectedCash : after.expectedCash = before.expectedCash
  cashIn : after.cashIn = before.cashIn
  cashOut : after.cashOut = before.cashOut
  sales : after.sales = before.sales
  refunds : after.refunds = before.refunds
  voidReversals : after.voidReversals = before.voidReversals

/-- What is tested of an entry made by hand. -/
structure DrawerEntry.ByHand (entry : DrawerEntry) : Prop where
  kind : entry.kind = .cashIn ∨ entry.kind = .cashOut
  positive : 0 < entry.amount

/-- An event has what was submitted as an entry. -/
structure DrawerEvent.Takes (ev : DrawerEvent) (entry : DrawerEntry) : Prop where
  kind : ev.kind = entry.kind
  amount : ev.amount = entry.amount
  payment : ev.payment = entry.payment

namespace DrawerEntry

variable {entry : DrawerEntry} {ev : DrawerEvent}

/-- **An entry that is not paid by card** moves its amount. -/
theorem ByHand.moved (h : entry.ByHand) (takes : ev.Takes entry)
    (hcash : entry.payment ≠ some .externalCard) (sh : Shift) :
    (ShiftReport.totals sh).Moved (ShiftReport.totals (sh.withEvent ev)) entry := by
  obtain ⟨hkind, hpositive⟩ := h
  have hmoves : ev.movesCash = true := by
    rw [DrawerEvent.movesCash_eq, takes.payment, decide_eq_false hcash]
    rfl
  have heffect : ev.effect = entry.amount * entry.kind.direction := by
    rw [DrawerEvent.effect, if_pos hmoves, takes.kind, takes.amount]
  have hsize : ev.size = entry.amount := by
    rw [DrawerEvent.size, heffect]
    rcases hkind with hin | hout
    · rw [hin, DrawerKind.direction]
      omega
    · rw [hout, DrawerKind.direction]
      omega
  have hdue : (sh.withEvent ev).cashDue = sh.cashDue + entry.amount * entry.kind.direction := by
    rw [Shift.cashDue_withEvent, heffect]
  have htotal : ∀ kind, (sh.withEvent ev).movedBy kind =
      sh.movedBy kind + if entry.kind = kind then entry.amount else 0 := by
    intro kind
    rw [Shift.movedBy_withEvent, takes.kind, hsize]
  have hother : ∀ kind, kind ≠ .cashIn → kind ≠ .cashOut →
      (sh.withEvent ev).movedBy kind = sh.movedBy kind := by
    intro kind hnotIn hnotOut
    rw [htotal, if_neg, Int.add_zero]
    rintro rfl
    exact hkind.elim hnotIn hnotOut
  exact ⟨hdue, htotal .cashIn, htotal .cashOut, hother .sale (by decide) (by decide),
    hother .refund (by decide) (by decide), hother .voidReversal (by decide) (by decide)⟩

/-- **An entry that is paid by card** moves nothing. -/
theorem unmoved_of_card (takes : ev.Takes entry) (hcard : entry.payment = some .externalCard)
    (sh : Shift) :
    (ShiftReport.totals sh).Unmoved (ShiftReport.totals (sh.withEvent ev)) := by
  have heffect : ev.effect = 0 := by
    rw [DrawerEvent.effect, DrawerEvent.movesCash_eq, takes.payment, hcard]
    rfl
  have htotal : ∀ kind, (sh.withEvent ev).movedBy kind = sh.movedBy kind := by
    intro kind
    rw [Shift.movedBy_withEvent, DrawerEvent.size, heffect]
    simp
  have hdue : (sh.withEvent ev).cashDue = sh.cashDue := by
    rw [Shift.cashDue_withEvent, heffect, Int.add_zero]
  exact ⟨hdue, htotal _, htotal _, htotal _, htotal _, htotal _⟩

/-- **An entry moves its amount** exactly if it is not paid by card. -/
theorem ByHand.moved_iff (h : entry.ByHand) (takes : ev.Takes entry) (sh : Shift) :
    (ShiftReport.totals sh).Moved (ShiftReport.totals (sh.withEvent ev)) entry ↔
      entry.payment ≠ some .externalCard := by
  refine ⟨fun moved hcard => ?_, fun hcash => h.moved takes hcash sh⟩
  have hstays := (unmoved_of_card takes hcard sh).expectedCash
  have hmoves := moved.expectedCash
  rw [hstays] at hmoves
  have hpositive := h.positive
  rcases h.kind with hin | hout
  · rw [hin, DrawerKind.direction] at hmoves
    omega
  · rw [hout, DrawerKind.direction] at hmoves
    omega

end DrawerEntry

/-! ### Entries after a run -/

namespace Engine

variable {κ : Type}

/-- **An entry is recorded** on an open shift as an event: the shift is stored with the event at the
end of its log. -/
structure Records (s after : Store) (id : String) (entry : DrawerEntry) (ev : DrawerEvent)
    (sh : Shift) : Prop where
  found : s.shift? id = some sh
  isOpen : sh.isOpen = true
  byHand : entry.ByHand
  takes : ev.Takes entry
  stored : after.shift? id = some (sh.withEvent ev)

theorem recordEntry_records {s after : Store} {ids : Ids} {now : Instant} {actor : Actor}
    {id : String} {entry : DrawerEntry} {ev : DrawerEvent} (k : s.Keyed) (logs : s.Logs)
    (h : recordEntry ids now actor id entry s = (.ok ev, after)) :
    ∃ sh, Records s after id entry ev sh := by
  obtain ⟨hcheck, sh, rfl, -, hplace, happends, rfl⟩ := recordEntry_eq_ok h
  obtain ⟨hkind, hpositive⟩ := checkManualEntry_eq_ok.1 hcheck
  have htakes : ev.Takes entry := by
    rw [hplace]
    exact ⟨rfl, rfl, rfl⟩
  exact ⟨sh, Store.shift?_of_mem k happends.mem.1, happends.isOpen, ⟨hkind, hpositive⟩, htakes,
    happends.shift?_logged k logs⟩

/-- **A till records entries made by hand.**  An entry that is accepted is put at the end of the log
of an open shift, with the payment that was submitted.  It moves its amount, in the cash that is
expected and in the total of its kind, exactly if that is not a payment by card, and moves nothing
otherwise.  These are the figures of all reports before it and after it. -/
structure RecordsByHand (e : Engine) (c : CacheAccess κ) (w : World κ) : Prop where
  recorded : ∀ ids actor id entry ev after,
    e.handle c ids actor (.recordEntry id entry) w = (.ok (.event ev), after) →
      ∃ sh, Records w.store after.store id entry ev sh ∧
        ((ShiftReport.totals sh).Moved (ShiftReport.totals (sh.withEvent ev)) entry ↔
          entry.payment ≠ some .externalCard) ∧
        (entry.payment = some .externalCard →
          (ShiftReport.totals sh).Unmoved (ShiftReport.totals (sh.withEvent ev)))
  reported : ∀ ids actor id entry ev after,
    e.handle c ids actor (.recordEntry id entry) w = (.ok (.event ev), after) →
      ∀ ids₁ actor₁ r₁ w₁ ids₂ actor₂ r₂ w₂,
        e.handle c ids₁ actor₁ (.shiftReport id) w = (.ok (.report r₁), w₁) →
        e.handle c ids₂ actor₂ (.shiftReport id) after = (.ok (.report r₂), w₂) →
          (r₁.Moved r₂ entry ↔ entry.payment ≠ some .externalCard) ∧
          (entry.payment = some .externalCard → r₁.Unmoved r₂)

theorem report_eq_totals {e : Engine} {c : CacheAccess κ} {w after : World κ} {ids : Ids}
    {actor : Actor} {id : String} {r : ShiftReport} {sh : Shift} (k : w.store.Keyed)
    (hfound : w.store.shift? id = some sh)
    (h : e.handle c ids actor (.shiftReport id) w = (.ok (.report r), after)) :
    r = ShiftReport.totals sh := by
  obtain ⟨sh', hmem, rfl, -, -, rfl⟩ := shiftReport_eq_ok (handle_shiftReport_eq_ok.1 h).1
  rw [Store.shift?_of_mem k hmem] at hfound
  rw [Option.some.inj hfound]

theorem run_recordsByHand (e : Engine) (c : CacheAccess κ) (now : Instant) (cache : κ)
    (steps : List (Step κ)) : e.RecordsByHand c (e.run c (World.empty now cache) steps) := by
  obtain ⟨hkeyed, hlogs⟩ := e.run_keeps_logs c (w := World.empty now cache) Store.keyed_empty
    Store.logs_empty steps
  generalize e.run c (World.empty now cache) steps = w at hkeyed hlogs
  have hrecords : ∀ {ids actor id entry ev after},
      e.handle c ids actor (.recordEntry id entry) w = (.ok (.event ev), after) →
        after.store.Keyed ∧ ∃ sh, Records w.store after.store id entry ev sh := by
    intro ids actor id entry ev after h
    have hkept := (e.apply_keeps_logs c hkeyed hlogs (.request ids actor (.recordEntry id entry))).1
    rw [apply, h] at hkept
    obtain ⟨ev', s, hrecord, rfl, hreply⟩ := change_eq_ok.1 h
    obtain rfl := Reply.event.inj hreply
    exact ⟨hkept, recordEntry_records hkeyed hlogs hrecord⟩
  constructor
  case recorded =>
    intro ids actor id entry ev after h
    obtain ⟨-, sh, records⟩ := hrecords h
    exact ⟨sh, records, records.byHand.moved_iff records.takes sh,
      fun hcard => DrawerEntry.unmoved_of_card records.takes hcard sh⟩
  case reported =>
    intro ids actor id entry ev after h ids₁ actor₁ r₁ w₁ ids₂ actor₂ r₂ w₂ h₁ h₂
    obtain ⟨hkept, sh, records⟩ := hrecords h
    rw [report_eq_totals hkeyed records.found h₁, report_eq_totals hkept records.stored h₂]
    exact ⟨records.byHand.moved_iff records.takes sh,
      fun hcard => DrawerEntry.unmoved_of_card records.takes hcard sh⟩

end Engine

/-! ### Cash that is said to have been paid by card -/

open DoubleSale (till ids manager)

/-- A shift begins with some cash. -/
def floating : List (Step Cache) := [.request (ids "1") manager (.openShift 100)]

/-- Cash put into the drawer by hand, said to have been paid by card. -/
def cardEntry : DrawerEntry := ⟨.cashIn, 50, some .externalCard, none⟩

/-- **Not every entry that is accepted moves its amount**: the cash that is put into the drawer is
missing in the report on the shift. -/
theorem not_moved_byCard :
    let w := (till 0).run Cache.access (World.empty ⟨0⟩ .absent) floating
    ∃ ev after r₁ r₂, cardEntry.ByHand ∧
      (till 0).handle Cache.access (ids "2") manager (.recordEntry "1" cardEntry) w =
        (.ok (.event ev), after) ∧
      (till 0).handle Cache.access (ids "3") manager (.shiftReport "1") w = (.ok (.report r₁), w) ∧
      (till 0).handle Cache.access (ids "3") manager (.shiftReport "1") after =
        (.ok (.report r₂), after) ∧
      ¬r₁.Moved r₂ cardEntry := by
  intro w
  refine ⟨_, _, _, _, ⟨.inl rfl, by decide⟩, rfl, rfl, rfl, ?_⟩
  intro moved
  exact absurd moved.cashIn (by decide)

end Till
