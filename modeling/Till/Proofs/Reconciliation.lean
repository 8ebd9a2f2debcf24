import Till.Proofs.Amounts
import Till.Proofs.AtMostOnce
import Till.Proofs.Calls
import Till.Proofs.Logs

/-!
# Which shifts can be closed

The cash that is expected in a drawer is added up from the effects of all events in the order of the
log, and every sum on the way has to fit 64 bits.  Single amounts are tested when they are recorded,
their sums are not, so a drawer can come to hold a log that cannot be added up any more.

* `Outcome.GivesIf` : a computation that gives a value exactly if a condition holds, and overflows
  otherwise;
* `Shift.close_givesIf`, `ShiftReport.ofShift_givesIf` : the conditions, `Shift.CanClose` and
  `Shift.CanReport`;
* `Shift.canClose_of_le`, `Shift.canReport_of_le` : they hold as long as all amounts together fit;
* `Engine.run_reconciles` : after every run, the cashier of an open shift can close it, and see the
  report on any shift of hers, exactly if they hold;
* `not_closes_overfilling` : a run after which they do not.
-/

namespace Till

/-! ### Computations that may overflow -/

namespace Outcome

variable {ε α β : Type} {x : Outcome ε α} {a : α} {p q : Prop}

/-- **A computation gives a value exactly if a condition holds**, and overflows otherwise. -/
structure GivesIf (x : Outcome ε α) (a : α) (p : Prop) : Prop where
  gives : p → x = .ok a
  overflows : ¬p → x = .error .overflow

theorem givesIf_pure (a : α) : GivesIf (pure a : Outcome ε α) a True :=
  ⟨fun _ => rfl, fun h => absurd trivial h⟩

theorem givesIf_exact (n : Int) : GivesIf (Cents.exact n : Outcome ε Int) n (Cents.Fits n) :=
  ⟨Cents.exact_of_fits, fun h => if_neg h⟩

/-- One computation after another gives a value if both do. -/
theorem GivesIf.bind {f : α → Outcome ε β} {b : β} (hx : GivesIf x a p)
    (hf : p → GivesIf (f a) b q) : GivesIf (x >>= f) b (p ∧ q) where
  gives := by
    rintro ⟨hp, hq⟩
    rw [hx.gives hp]
    exact (hf hp).gives hq
  overflows := by
    intro hnot
    by_cases hp : p
    · rw [hx.gives hp]
      exact (hf hp).overflows fun hq => hnot ⟨hp, hq⟩
    · rw [hx.overflows hp]
      rfl

theorem GivesIf.congr (h : GivesIf x a p) (hiff : p ↔ q) : GivesIf x a q :=
  ⟨fun hq => h.gives (hiff.2 hq), fun hq => h.overflows (mt hiff.1 hq)⟩

end Outcome

open Outcome (GivesIf)

/-! ### Adding up a log -/

/-- **Amounts can be added up** in their order: each fits, and so does the sum of each beginning. -/
structure Cents.Addable (amounts : List Int) : Prop where
  each : ∀ n ∈ amounts, Cents.Fits n
  sums : ∀ front, front <+: amounts → Cents.Fits front.sum

namespace DrawerEvent

theorem cashEffect_eq (e : DrawerEvent) : e.cashEffect = Cents.exact e.effect := by
  rw [cashEffect, effect]
  split
  · rfl
  · exact (Cents.exact_of_fits (by decide)).symm

/-- The cash that an event moves, without its sign. -/
def size (e : DrawerEvent) : Int := e.effect.natAbs

theorem sum_size (events : List DrawerEvent) :
    (events.map size).sum = Amounts.turnover (events.map effect) := by
  induction events with
  | nil => rfl
  | cons e events ih =>
    simp only [List.map_cons, List.sum_cons, Amounts.turnover, size] at ih ⊢
    omega

theorem sum_size_nonneg (events : List DrawerEvent) : 0 ≤ (events.map size).sum := by
  rw [sum_size]
  exact Int.natCast_nonneg _

end DrawerEvent

namespace Shift

variable {sh : Shift} {cash : Int}

/-- **The cash that is due can be told.** -/
structure CanReconcile (sh : Shift) : Prop where
  /-- The effects of the events can be added up. -/
  effects : Cents.Addable (sh.events.map DrawerEvent.effect)
  /-- What they add up to can be added to the cash at the beginning. -/
  due : Cents.Fits sh.cashDue

/-- **A shift can be closed** with the cash counted. -/
structure CanClose (sh : Shift) (cash : Int) : Prop extends sh.CanReconcile where
  /-- The variance fits. -/
  variance : Cents.Fits (cash - sh.cashDue)

/-- The cash that the events of one kind moved, without its sign. -/
def movedBy (sh : Shift) (kind : DrawerKind) : Int :=
  ((sh.events.filter fun e => decide (e.kind = kind)).map DrawerEvent.size).sum

/-- **A report on a shift can be given.** -/
structure CanReport (sh : Shift) : Prop extends sh.CanReconcile where
  /-- The total of every kind of event fits. -/
  totals : ∀ kind, Cents.Fits (sh.movedBy kind)

/-- Adding effects to a sum that fits.  The sum so far is one of those that have to fit. -/
theorem foldEffects_givesIf (events : List DrawerEvent) : ∀ a : Int, Cents.Fits a →
    GivesIf (events.foldlM (fun sum e => do
        let effect ← e.cashEffect
        Cents.exact (sum + effect)) a : Result Int)
      (a + (events.map DrawerEvent.effect).sum)
      ((∀ e ∈ events, Cents.Fits e.effect) ∧
        ∀ front, front <+: events.map DrawerEvent.effect → Cents.Fits (a + front.sum)) := by
  induction events with
  | nil =>
    intro a ha
    have hall : ∀ front : List Int, front <+: [] → Cents.Fits (a + front.sum) := by
      intro front hfront
      rw [List.prefix_nil.1 hfront]
      simpa using ha
    refine ⟨fun _ => by simp [pure, Except.pure], fun hnot => absurd ⟨?_, hall⟩ hnot⟩
    exact fun e he => absurd he List.not_mem_nil
  | cons e events ih =>
    intro a ha
    rw [List.foldlM_cons, DrawerEvent.cashEffect_eq, bind_assoc, List.map_cons, List.sum_cons,
      ← Int.add_assoc]
    refine ((Outcome.givesIf_exact e.effect).bind fun _ =>
      (Outcome.givesIf_exact (a + e.effect)).bind fun hfits => ih _ hfits).congr ?_
    simp only [List.prefix_cons_iff, List.forall_mem_cons]
    constructor
    · rintro ⟨heffect, hsum, heffects, hsums⟩
      refine ⟨⟨heffect, heffects⟩, ?_⟩
      rintro _ (rfl | ⟨front, rfl, hfront⟩)
      · simpa using ha
      · rw [List.sum_cons, ← Int.add_assoc]
        exact hsums front hfront
    · rintro ⟨⟨heffect, heffects⟩, hsums⟩
      refine ⟨heffect, ?_, heffects, ?_⟩
      · simpa using hsums [e.effect] (.inr ⟨[], rfl, List.nil_prefix⟩)
      · intro front hfront
        have hlonger := hsums (e.effect :: front) (.inr ⟨front, rfl, hfront⟩)
        rwa [List.sum_cons, ← Int.add_assoc] at hlonger

/-- The effects of a log are added up exactly if they can be. -/
theorem netEffect_givesIf (events : List DrawerEvent) :
    GivesIf (netEffect events) (events.map DrawerEvent.effect).sum
      (Cents.Addable (events.map DrawerEvent.effect)) := by
  have hwhole := foldEffects_givesIf events 0 (by decide)
  simp only [Int.zero_add] at hwhole
  refine hwhole.congr ⟨?_, ?_⟩
  · rintro ⟨heach, hsums⟩
    exact ⟨List.forall_mem_map.2 heach, hsums⟩
  · rintro ⟨heach, hsums⟩
    exact ⟨List.forall_mem_map.1 heach, hsums⟩

/-- **The expected cash** is told exactly if the cash that is due can be. -/
theorem expectedCash_givesIf (sh : Shift) : GivesIf sh.expectedCash sh.cashDue sh.CanReconcile := by
  refine ((netEffect_givesIf sh.events).bind fun _ =>
    Outcome.givesIf_exact sh.cashDue).congr ⟨?_, ?_⟩
  · rintro ⟨heffects, hdue⟩
    exact ⟨heffects, hdue⟩
  · rintro ⟨heffects, hdue⟩
    exact ⟨heffects, hdue⟩

/-! ### Closing -/

/-- The shift after its end. -/
def closedWith (sh : Shift) (id : String) (cash : Int) (now : Instant) : Shift :=
  { sh with
    events := sh.events ++ [sh.closing id cash now]
    closedAt := some now
    closingCash := some cash
    variance := some (cash - sh.cashDue) }

/-- The figures at the end of a shift. -/
def figuresWith (sh : Shift) (cash : Int) : ShiftClosure := ⟨sh.cashDue, cash, cash - sh.cashDue⟩

/-- **An open shift can be closed** with any cash if its figures fit. -/
theorem close_givesIf (hopen : sh.isOpen = true) (hcash : 0 ≤ cash) (id : String) (now : Instant) :
    GivesIf (sh.close id cash now) (sh.closedWith id cash now, sh.figuresWith cash)
      (sh.CanClose cash) := by
  have hfloat : (Field.cashFloat "closing_cash" cash).run = .ok () :=
    Field.Check.run_eq_ok.2 (Field.notNegative_eq_ok.2 hcash)
  have hopened : sh.checkOpen = .ok () := Outcome.require_eq_ok.2 hopen
  rw [close, hopened, hfloat]
  refine (sh.expectedCash_givesIf.bind fun _ =>
    (Outcome.givesIf_exact (cash - sh.cashDue)).bind fun _ =>
      Outcome.givesIf_pure (sh.closedWith id cash now, sh.figuresWith cash)).congr ⟨?_, ?_⟩
  · rintro ⟨hreconcile, hvariance, -⟩
    exact ⟨hreconcile, hvariance⟩
  · rintro ⟨hreconcile, hvariance⟩
    exact ⟨hreconcile, hvariance, trivial⟩

/-! ### Amounts that fit together -/

/-- The cash at the beginning and all the cash that the events moved, without signs. -/
def turnover (sh : Shift) : Nat :=
  sh.openingCash.natAbs + Amounts.turnover (sh.events.map DrawerEvent.effect)

theorem canReconcile_of_le (h : (sh.turnover : Int) ≤ Cents.greatest) : sh.CanReconcile := by
  have hbounds : ∀ part : List Int, part.Sublist (sh.events.map DrawerEvent.effect) →
      part.sum.natAbs ≤ Amounts.turnover (sh.events.map DrawerEvent.effect) :=
    fun part hpart => Amounts.natAbs_sum_le_of_sublist hpart
  simp only [turnover, Cents.greatest] at h
  refine ⟨⟨?_, ?_⟩, ?_⟩
  · intro n hn
    have hone := hbounds [n] (List.singleton_sublist.2 hn)
    rw [List.sum_singleton] at hone
    simp only [Cents.Fits, Cents.least, Cents.greatest]
    omega
  · intro front hfront
    have hsum := hbounds front hfront.sublist
    simp only [Cents.Fits, Cents.least, Cents.greatest]
    omega
  · have hsum := hbounds _ (List.Sublist.refl _)
    simp only [cashDue, Cents.Fits, Cents.least, Cents.greatest]
    omega

/-- **A shift can be closed as long as all its amounts fit together** with the cash counted. -/
theorem canClose_of_le (hcash : 0 ≤ cash) (h : sh.turnover + cash ≤ Cents.greatest) :
    sh.CanClose cash := by
  have hsum := Amounts.natAbs_sum_le_of_sublist
    (List.Sublist.refl (sh.events.map DrawerEvent.effect))
  refine ⟨canReconcile_of_le (by omega), ?_⟩
  simp only [turnover, cashDue, Cents.Fits, Cents.least, Cents.greatest] at h ⊢
  omega

/-- **A report can be given as long as all its amounts fit together.** -/
theorem canReport_of_le (h : (sh.turnover : Int) ≤ Cents.greatest) : sh.CanReport := by
  refine ⟨canReconcile_of_le h, ?_⟩
  intro kind
  have hless : Amounts.turnover ((sh.events.filter fun e => decide (e.kind = kind)).map
      DrawerEvent.effect) ≤ Amounts.turnover (sh.events.map DrawerEvent.effect) :=
    (((List.filter_sublist.map DrawerEvent.effect).map Int.natAbs).sum_le_sum
      fun _ _ => Nat.zero_le _)
  rw [movedBy, DrawerEvent.sum_size]
  simp only [turnover, Cents.Fits, Cents.least, Cents.greatest] at h ⊢
  omega

end Shift

/-! ### Reporting -/

namespace ShiftReport

/-- Adding sizes to a sum that fits.  They are not negative, so the sums so far fit if the whole
does. -/
theorem foldSizes_givesIf (events : List DrawerEvent) : ∀ a : Int, 0 ≤ a → Cents.Fits a →
    GivesIf (events.foldlM (fun sum e => do
        let effect ← e.cashEffect
        let size ← Cents.exact effect.natAbs
        Cents.exact (sum + size)) a : Result Int)
      (a + (events.map DrawerEvent.size).sum)
      (Cents.Fits (a + (events.map DrawerEvent.size).sum)) := by
  induction events with
  | nil =>
    intro a _ ha
    have hsum : a + (([] : List DrawerEvent).map DrawerEvent.size).sum = a := by simp
    rw [hsum]
    exact ⟨fun _ => rfl, fun hnot => absurd ha hnot⟩
  | cons e events ih =>
    intro a hnonneg ha
    have hsize : 0 ≤ e.size := Int.natCast_nonneg _
    have hrest := DrawerEvent.sum_size_nonneg events
    rw [List.foldlM_cons, DrawerEvent.cashEffect_eq, List.map_cons, List.sum_cons,
      ← Int.add_assoc, bind_assoc]
    simp only [bind_assoc]
    refine ((Outcome.givesIf_exact e.effect).bind fun _ =>
      (Outcome.givesIf_exact e.size).bind fun _ =>
        (Outcome.givesIf_exact (a + e.size)).bind fun hfits =>
          ih _ (by omega) hfits).congr ⟨fun h => h.2.2.2, ?_⟩
    simp only [DrawerEvent.size, Cents.Fits, Cents.least, Cents.greatest] at ha hsize hrest ⊢
    omega

/-- The total of a kind of event is told exactly if it fits. -/
theorem totalOf_givesIf (sh : Shift) (kind : DrawerKind) :
    GivesIf (totalOf kind sh.events) (sh.movedBy kind) (Cents.Fits (sh.movedBy kind)) := by
  have hwhole := foldSizes_givesIf (sh.events.filter fun e => decide (e.kind = kind)) 0
    (Int.le_refl 0) (by decide)
  simp only [Int.zero_add] at hwhole
  exact hwhole

/-- The totals of a shift. -/
def totals (sh : Shift) : ShiftReport :=
  ⟨sh, sh.cashDue, sh.movedBy .cashIn, sh.movedBy .cashOut, sh.movedBy .sale, sh.movedBy .refund,
    sh.movedBy .voidReversal, sh.variance⟩

/-- Events at the end of a shift move no cash. -/
theorem movedBy_close (sh : Shift) : sh.movedBy .close = 0 := by
  refine List.sum_eq_zero ?_
  intro n hn
  obtain ⟨e, he, rfl⟩ := List.mem_map.1 hn
  have hkind : e.kind = .close := of_decide_eq_true (List.mem_filter.1 he).2
  simp [DrawerEvent.size, DrawerEvent.effect, hkind, DrawerKind.direction]

/-- **A report on a shift can be given** if its totals fit. -/
theorem ofShift_givesIf (sh : Shift) : GivesIf (ofShift sh) (totals sh) sh.CanReport := by
  have htotal := totalOf_givesIf sh
  refine (sh.expectedCash_givesIf.bind fun _ => (htotal .cashIn).bind fun _ =>
    (htotal .cashOut).bind fun _ => (htotal .sale).bind fun _ => (htotal .refund).bind fun _ =>
      (htotal .voidReversal).bind fun _ => Outcome.givesIf_pure (totals sh)).congr ⟨?_, ?_⟩
  · rintro ⟨hreconcile, hin, hout, hsale, hrefund, hreversal, -⟩
    refine ⟨hreconcile, fun kind => ?_⟩
    cases kind with
    | cashIn => exact hin
    | cashOut => exact hout
    | sale => exact hsale
    | refund => exact hrefund
    | voidReversal => exact hreversal
    | close =>
      rw [movedBy_close]
      decide
  · rintro ⟨hreconcile, htotals⟩
    exact ⟨hreconcile, htotals _, htotals _, htotals _, htotals _, htotals _, trivial⟩

end ShiftReport

/-! ### The end of a shift in the store -/

namespace Store

variable {s : Store} {sh closed : Shift} {id : String} {cash : Int} {now : Instant}
  {closure : ShiftClosure}

/-- No log has a position after the last of the shift that stands under an identifier. -/
theorem hasPosition_eq_false (k : s.Keyed) (hmem : sh ∈ s.shifts) (h : sh.InOrder) :
    s.hasPosition sh.id (sh.events.length + 1) = false := by
  rw [hasPosition, List.any_eq_false]
  intro sh' hsh' htaken
  simp only [Bool.and_eq_true, beq_iff_eq, List.any_eq_true] at htaken
  obtain ⟨hid, ev, hev, hseq⟩ := htaken
  obtain rfl := List.inj_on_of_nodup_map k.shifts hsh' hmem hid
  have hposition : ev.seq ∈ Shift.positions sh'.events := List.mem_map_of_mem hev
  rw [h.positions] at hposition
  obtain ⟨i, hi, hpos⟩ := List.mem_map.1 hposition
  have hlt := List.mem_range.1 hi
  omega

/-- **The end of an open shift is booked**: its plan was made from the shift as it is. -/
theorem closeShift_of_isClose (k : s.Keyed) (hmem : sh ∈ s.shifts) (h : sh.InOrder)
    (close : sh.IsClose id cash now closed closure) (hfresh : s.hasEvent id = false) :
    s.closeShift closed = .ok (s.afterClose closed (sh.closing id cash now)) := by
  have hid : closed.id = sh.id := by rw [close.closed]; rfl
  have hended : closed.closedAt.isSome = true := by rw [close.closed]; rfl
  have hlast : closed.events.getLast?.filter (fun e => decide (e.kind = .close)) =
      some (sh.closing id cash now) := by
    rw [close.events, List.getLast?_concat]
    rfl
  have hlength : sh.events.length + 1 = closed.events.length := by
    rw [close.events, List.length_append, List.length_singleton]
  -- The shift has its end already when the event is added, but still the same log.
  have hposition : (s.withEnd closed).hasPosition sh.id (sh.events.length + 1) = false := by
    rw [hasPosition, List.any_eq_false]
    intro sh' hsh' htaken
    have hbefore := hasPosition_eq_false k hmem h
    rw [hasPosition, List.any_eq_false] at hbefore
    obtain ⟨old, hold, rfl⟩ := List.mem_map.1 hsh'
    refine hbefore old hold ?_
    split at htaken <;> exact htaken
  have hshift : (s.withEnd closed).hasShift sh.id = true := by
    rw [hasShift, List.any_eq_true]
    exact ⟨_, mem_withEnd hmem hid.symm, by simp [ended]⟩
  have hevent : (s.withEnd closed).addEvent (sh.closing id cash now) =
      .ok (s.afterClose closed (sh.closing id cash now)) := by
    refine addEvent_eq_ok.2 ⟨close.notNegative, hposition, ?_, hshift, rfl⟩
    exact hasEvent_updateShift_ended.trans hfresh
  simp only [closeShift, hlast, hended, hid, shift?_of_mem k hmem, close.isOpen, hlength,
    Outcome.ofOption, Outcome.require, bind, Except.bind, if_true, Bool.not_true,
    Bool.false_eq_true, if_false]
  rw [← hid]
  exact hevent

/-- Afterwards the shift that was planned is found. -/
theorem shift?_afterClose (k : s.Keyed) (hmem : sh ∈ s.shifts) (h : sh.InOrder)
    (close : sh.IsClose id cash now closed closure) :
    (s.afterClose closed (sh.closing id cash now)).shift? sh.id = some closed := by
  have hid : closed.id = sh.id := by rw [close.closed]; rfl
  have hshifts := shifts_afterClose (s := s) closed (sh.closing id cash now) hid.symm
  have hmemClosed : closed ∈ (s.afterClose closed (sh.closing id cash now)).shifts := by
    rw [hshifts, hid]
    exact (Rows.mem_update k.shifts hmem).2 (.inl (h.closed_eq close).symm)
  have hkeyed : (s.afterClose closed (sh.closing id cash now)).Keyed := by
    refine ⟨?_, k.transactions, k.orders⟩
    rw [hshifts]
    exact Rows.nodup_update k.shifts fun _ => rfl
  exact hid ▸ shift?_of_mem hkeyed hmemClosed

end Store

/-! ### What the cashier of a shift can do -/

namespace Engine

variable {κ : Type} {e : Engine} {c : CacheAccess κ} {w : World κ} {ids : Ids} {actor : Actor}
  {sh : Shift} {cash : Int}

theorem ownedShift_of_handles {s : Store} (k : s.Keyed) (hmem : sh ∈ s.shifts)
    (handles : actor.Handles sh) (action : String) : ownedShift actor sh.id action s = .ok sh := by
  simp only [ownedShift, Store.shift?_of_mem k hmem, Option.filter_some, handles.store,
    beq_self_eq_true, if_true, Outcome.ofOption, bind, Except.bind]
  split
  · rfl
  · next hother =>
    rw [Actor.requireElevated, handles.cashier.resolve_left hother]
    rfl

/-- **A request closes a shift**: it succeeds and leaves the shift closed. -/
def Closes (e : Engine) (c : CacheAccess κ) (w : World κ) (ids : Ids) (actor : Actor) (id : String)
    (cash : Int) : Prop :=
  ∃ closure after, e.handle c ids actor (.closeShift id cash) w = (.ok (.closure closure), after) ∧
    ∃ closed, after.store.shift? id = some closed ∧ closed.isOpen = false

/-- **A request reports on a shift.** -/
def Reports (e : Engine) (c : CacheAccess κ) (w : World κ) (ids : Ids) (actor : Actor)
    (id : String) : Prop :=
  ∃ report, e.handle c ids actor (.shiftReport id) w = (.ok (.report report), w)

/-- **A till reconciles its shifts.**  An open shift can be closed by its cashier, with any cash and
under an identifier that no event has, and a report on a shift can be given to its cashier, exactly
as long as the sums fit.  Otherwise the request overflows, and nothing changes. -/
structure Reconciles (e : Engine) (c : CacheAccess κ) (w : World κ) : Prop where
  closes : ∀ sh ∈ w.store.shifts, sh.isOpen = true → ∀ ids actor cash,
    actor.cashier = sh.cashier → actor.store = sh.store → 0 ≤ cash →
    w.store.hasEvent ids.event = false →
      (e.Closes c w ids actor sh.id cash ↔ sh.CanClose cash) ∧
        (¬sh.CanClose cash →
          e.handle c ids actor (.closeShift sh.id cash) w = (.error .overflow, w))
  reports : ∀ sh ∈ w.store.shifts, ∀ ids actor,
    actor.cashier = sh.cashier → actor.store = sh.store →
      (e.Reports c w ids actor sh.id ↔ sh.CanReport) ∧
        (¬sh.CanReport → e.handle c ids actor (.shiftReport sh.id) w = (.error .overflow, w))

/-- A step on the store that fails and leaves the store alone. -/
theorem change_eq_error {α : Type} {reply : α → Reply} {step : Action Store α}
    {fault : Fault Rejection} (h : step w.store = (.error fault, w.store)) :
    change reply step w = (.error fault, w) := by
  simp only [change, Action.mapAnswer, World.onStore, h]

theorem closeShift_eq_transact (e : Engine) (ids : Ids) (now : Instant) (actor : Actor)
    (id : String) (cash : Int) :
    e.closeShift ids now actor id cash = Action.transact (fun s => do
      let (closed, closure) ← planClose ids now actor id cash s
      let after ← (s.closeShift closed).result
      pure (closure, after)) :=
  funext fun s => RetryPolicy.attempt_transact _ _ _ s

theorem planClose_givesIf {s : Store} (k : s.Keyed) (hmem : sh ∈ s.shifts)
    (hopen : sh.isOpen = true) (hcashier : actor.cashier = sh.cashier)
    (hstore : actor.store = sh.store) (hcash : 0 ≤ cash) (ids : Ids) (now : Instant) :
    GivesIf (planClose ids now actor sh.id cash s)
      (sh.closedWith ids.event cash now, sh.figuresWith cash) (sh.CanClose cash) := by
  rw [planClose, ownedShift_of_handles k hmem ⟨hstore.symm, .inl hcashier.symm⟩]
  exact Shift.close_givesIf hopen hcash ids.event now

theorem handle_closeShift (e : Engine) (c : CacheAccess κ) (sound : w.store.Sound)
    (logs : w.store.Logs) (hmem : sh ∈ w.store.shifts) (hopen : sh.isOpen = true)
    (hcashier : actor.cashier = sh.cashier) (hstore : actor.store = sh.store) (hcash : 0 ≤ cash)
    (hfresh : w.store.hasEvent ids.event = false) :
    (sh.CanClose cash → e.Closes c w ids actor sh.id cash) ∧
      (¬sh.CanClose cash →
        e.handle c ids actor (.closeShift sh.id cash) w = (.error .overflow, w)) := by
  have k := sound.keyed
  have horder := logs.inOrder sh hmem
  have hplan := planClose_givesIf k hmem hopen hcashier hstore hcash ids w.now
  refine ⟨fun hcan => ?_, fun hcannot => ?_⟩
  · have hplanned := hplan.gives hcan
    obtain ⟨sh', hfound, -, -, close⟩ := planClose_eq_ok hplanned
    obtain rfl := Option.some.inj (hfound.symm.trans (Store.shift?_of_mem k hmem))
    have hbooked := Store.closeShift_of_isClose k hmem horder close hfresh
    have hclosed : e.closeShift ids w.now actor sh'.id cash w.store =
        (.ok (sh'.figuresWith cash),
          w.store.afterClose (sh'.closedWith ids.event cash w.now)
            (sh'.closing ids.event cash w.now)) := by
      rw [closeShift_eq_transact, Action.transact_eq_ok, hplanned]
      simp only [bind, Except.bind, hbooked]
      rfl
    exact ⟨sh'.figuresWith cash, _, change_eq_ok.2 ⟨_, _, hclosed, rfl, rfl⟩,
      sh'.closedWith ids.event cash w.now, Store.shift?_afterClose k hmem horder close, rfl⟩
  · refine change_eq_error ?_
    rw [closeShift_eq_transact, Action.transact, hplan.overflows hcannot]
    rfl

theorem shiftReport_givesIf {s : Store} (k : s.Keyed) (hmem : sh ∈ s.shifts)
    (handles : actor.Handles sh) :
    GivesIf (shiftReport actor sh.id s) (ShiftReport.totals sh) sh.CanReport := by
  rw [shiftReport, ownedShift_of_handles k hmem handles]
  exact ShiftReport.ofShift_givesIf sh

theorem handle_shiftReport (e : Engine) (c : CacheAccess κ) (ids : Ids) (k : w.store.Keyed)
    (hmem : sh ∈ w.store.shifts) (hcashier : actor.cashier = sh.cashier)
    (hstore : actor.store = sh.store) :
    (sh.CanReport → e.Reports c w ids actor sh.id) ∧
      (¬sh.CanReport → e.handle c ids actor (.shiftReport sh.id) w = (.error .overflow, w)) := by
  have hreport := shiftReport_givesIf k hmem ⟨hstore.symm, .inl hcashier.symm⟩
  refine ⟨fun hcan => ⟨ShiftReport.totals sh, ?_⟩, fun hcannot => ?_⟩
  · refine mapAnswer_eq_ok.2 ⟨ShiftReport.totals sh, ?_, rfl⟩
    simp only [World.onStore, Action.query, hreport.gives hcan]
  · simp only [handle, look, Action.mapAnswer, World.onStore, Action.query,
      hreport.overflows hcannot]

/-- **A till reconciles its shifts after every run**, as long as their sums fit. -/
theorem run_reconciles (e : Engine) (c : CacheAccess κ) (now : Instant) (cache : κ)
    (steps : List (Step κ)) : e.Reconciles c (e.run c (World.empty now cache) steps) := by
  have hsound := e.run_sound c now cache steps
  have hlogs := e.run_logs c now cache steps
  generalize e.run c (World.empty now cache) steps = w at hsound hlogs
  refine ⟨?_, ?_⟩
  · intro sh hmem hopen ids actor cash hcashier hstore hcash hfresh
    have hclose := handle_closeShift e c hsound hlogs hmem hopen hcashier hstore hcash hfresh
    refine ⟨⟨fun hcloses => ?_, hclose.1⟩, hclose.2⟩
    by_contra hcannot
    obtain ⟨closure, after, hok, -⟩ := hcloses
    rw [hclose.2 hcannot] at hok
    cases hok
  · intro sh hmem ids actor hcashier hstore
    have hreport := handle_shiftReport e c ids hsound.keyed hmem hcashier hstore
    refine ⟨⟨fun hreports => ?_, hreport.1⟩, hreport.2⟩
    by_contra hcannot
    obtain ⟨report, hok⟩ := hreports
    rw [hreport.2 hcannot] at hok
    cases hok

end Engine

/-! ### A drawer that cannot be reconciled -/

open DoubleSale (till ids manager)

/-- A drawer is filled with more cash than 64 bits hold, and then some of it is taken out again. -/
def overfilling : List (Step Cache) := [
  .request (ids "1") manager (.openShift 0),
  .request (ids "2") manager (.recordEntry "1" ⟨.cashIn, Cents.greatest, none, none⟩),
  .request (ids "3") manager (.recordEntry "1" ⟨.cashIn, 1, none, none⟩),
  .request (ids "4") manager (.recordEntry "1" ⟨.cashOut, 1, none, none⟩)]

/-- **Not every open shift can be closed**: all entries are accepted, and the cash that is due in
the end fits, but the cashier can neither close the shift with that cash nor get a report. -/
theorem not_closes_overfilling :
    let w := (till 0).run Cache.access (World.empty ⟨0⟩ .absent) overfilling
    ∃ sh ∈ w.store.shifts, sh.isOpen = true ∧ sh.cashier = manager.cashier ∧
      sh.store = manager.store ∧ w.store.hasEvent "5" = false ∧ sh.cashDue = Cents.greatest ∧
      ¬(till 0).Closes Cache.access w (ids "5") manager sh.id sh.cashDue ∧
      ¬(till 0).Reports Cache.access w (ids "5") manager sh.id := by
  intro w
  refine ⟨_, List.mem_singleton_self _, rfl, rfl, rfl, rfl, rfl, ?_, ?_⟩
  · rintro ⟨closure, after, hok, -⟩
    cases hok
  · rintro ⟨report, hok⟩
    cases hok

end Till
