import Till.Proofs.AtMostOnce
import Till.Proofs.Booking
import Till.Proofs.Places

/-!
# Which sales are reversed

A void is tested by the role of the actor, by its open shift, by the transaction itself and again by
the unit of work that books it, and so is a refund.  This file states all these tests at once and
proves that nothing else decides: what a transaction accepts, the store books.

* `Instant.since_neg`, `Instant.since_lt_perSecond` : how much time has passed when a clock was set
  back;
* `Engine.MayReverse`, `Transaction.Voidable`, `Transaction.Refundable` : who may reverse, and what;
* `Engine.void_eq_ok_iff`, `Engine.refund_eq_ok_iff` : exactly that is done;
* `Store.GainsVoid`, `Store.GainsRefund` : what the store gains by it;
* `Engine.run_reversesExactly` : so it is at a till after every run.
-/

namespace Till

/-! ### Clocks that were set back -/

namespace Instant

theorem isLeap_iff {t : Instant} : t.isLeap = true ↔ 60000000000 ≤ t.tick % 61000000000 :=
  decide_eq_true_iff

/-- Of the sixty-one seconds of a minute sixty count. -/
theorem elapsed_eq (t : Instant) : t.elapsed = t.tick - t.tick / 61000000000 * 1000000000 := by
  simp only [elapsed, minute, within, perMinute, ticksPerMinute]
  omega

/-- **Less than no time has passed** if the clock was set back and shows no leap second. -/
theorem since_neg {now earlier : Instant} (hback : now < earlier) (hleap : now.isLeap = false) :
    now.since earlier < 0 := by
  have hticks : now.tick < earlier.tick := hback
  have hwithin : now.tick % 61000000000 < 60000000000 := by
    rw [← Int.not_le, ← isLeap_iff, hleap]
    exact Bool.false_ne_true
  rw [since, elapsed_eq, elapsed_eq]
  split
  · -- A second is added, but the minutes are so far apart that they belong to different days.
    next h =>
    obtain ⟨hleap', hminute⟩ := h
    rw [isLeap_iff] at hleap'
    simp only [minuteOfDay, minute, minutesPerDay, ticksPerMinute] at hminute
    simp only [perSecond]
    omega
  · rw [if_neg (by simp [hleap])]
    omega

/-- **Less than a second has passed** if the clock was set back, even into a leap second. -/
theorem since_lt_perSecond {now earlier : Instant} (hback : now < earlier) :
    now.since earlier < perSecond := by
  have hticks : now.tick < earlier.tick := hback
  rw [since, elapsed_eq, elapsed_eq, perSecond]
  split
  · next h =>
    obtain ⟨hleap, hminute⟩ := h
    rw [isLeap_iff] at hleap
    simp only [minuteOfDay, minute, minutesPerDay, ticksPerMinute] at hminute
    omega
  · split <;> omega

end Instant

/-! ### What can be reversed -/

namespace Transaction

variable {t voided refunded : Transaction} {now : Instant} {amount : Int} {units : List RestockLine}

/-- **A transaction can be voided** at an instant: it is completed, nothing was refunded, and the
window, with its end, is not over. -/
structure Voidable (t : Transaction) (now : Instant) (window : Int) : Prop where
  completed : t.status = .completed
  unrefunded : t.refunded = 0
  inTime : now.since t.createdAt ≤ window

/-- **An amount can be refunded**: the transaction is completed, and there is as much. -/
structure Refundable (t : Transaction) (amount : Int) : Prop where
  completed : t.status = .completed
  positive : 0 < amount
  enough : amount ≤ t.grand - t.refunded

/-- A transaction after a void. -/
def afterVoid (t : Transaction) (reason approver : String) (now : Instant) : Transaction :=
  { t with
    status := .voided
    voidedAt := some now
    voidReason := some reason
    voidedBy := some approver }

/-- Exactly the refundable amounts are refunded. -/
theorem refund_eq_ok_iff (h : t.Priced) (hrefunded : 0 ≤ t.refunded) :
    t.refund amount = .ok (refunded, units) ↔ t.IsRefund amount refunded units := by
  refine ⟨refund_eq_ok, fun isRefund => ?_⟩
  have henough := isRefund.enough
  obtain ⟨units', hrefund⟩ :=
    refund_of_le h isRefund.completed hrefunded isRefund.positive (by omega)
  -- The units follow from the amounts.
  obtain rfl := Except.ok.inj ((refund_eq_ok hrefund).units.symm.trans isRefund.units)
  rw [isRefund.eq_afterRefund]
  exact hrefund

theorem exists_isRefund_iff (h : t.Priced) (hrefunded : 0 ≤ t.refunded) :
    (∃ refunded units, t.IsRefund amount refunded units) ↔ t.Refundable amount := by
  constructor
  · rintro ⟨refunded, units, isRefund⟩
    exact ⟨isRefund.completed, isRefund.positive, isRefund.enough⟩
  · intro refundable
    have henough := refundable.enough
    obtain ⟨units, hrefund⟩ :=
      refund_of_le h refundable.completed hrefunded refundable.positive (by omega)
    exact ⟨_, units, refund_eq_ok hrefund⟩

end Transaction

namespace Engine

variable {e : Engine} {ids : Ids} {now : Instant} {actor : Actor} {id reason : String}
  {amount : Int} {s after : Store} {sh : Shift} {t voided refunded : Transaction}
  {units : List RestockLine}

/-- **An actor may reverse** a sale, or a part of it, in a shift and for a reason. -/
structure MayReverse (actor : Actor) (id reason : String) (s : Store) (sh : Shift)
    (t : Transaction) : Prop where
  elevated : actor.isElevated = true
  /-- The actor has the shift open. -/
  shift : s.openShift? actor.cashier actor.store = some sh
  reason : Text.isBlankText reason = false ∧ reason.utf8ByteSize ≤ 500
  /-- The sale was made at the store of the actor. -/
  found : s.transaction? actor.store id = some t

theorem MayReverse.unique {sh' : Shift} {t' : Transaction} (may : MayReverse actor id reason s sh t)
    (may' : MayReverse actor id reason s sh' t') : sh' = sh ∧ t' = t :=
  ⟨Option.some.inj (may'.shift.symm.trans may.shift),
    Option.some.inj (may'.found.symm.trans may.found)⟩

/-! ### Plans -/

/-- Of one who may reverse only the transaction is asked whether it can be voided. -/
theorem MayReverse.planVoid_eq (may : MayReverse actor id reason s sh t) :
    e.planVoid ids now actor id reason s = (do
      t.checkVoidable now e.voidWindow
      pure (t.afterVoid reason actor.approver now, voidUnit ids now actor sh reason t)) := by
  have hreason : Field.reason "void_reason" reason = .ok () := Field.reason_eq_ok.2 may.reason
  simp only [planVoid, Actor.requireElevated, may.elevated, Outcome.require,
    currentShift_eq_ok.2 may.shift, transaction_eq_ok.2 may.found, Transaction.void, hreason,
    Field.Check.run, Outcome.ofCheck, bind, Except.bind]
  cases t.checkVoidable now e.voidWindow <;> rfl

/-- Of one who may reverse only the transaction is asked whether it can be refunded. -/
theorem MayReverse.refund_eq (may : MayReverse actor id reason s sh t) :
    e.refund ids now actor id amount reason s = Action.transact (fun s => do
      let (refunded, units) ← t.refund amount
      let u := refundUnit ids now actor sh.id amount reason t refunded units
      let after ← (s.commitRefund u).result
      pure (u.refund, after)) s := by
  have hreason : Field.reason "refund_reason" reason = .ok () := Field.reason_eq_ok.2 may.reason
  simp only [Engine.refund_eq, Action.transact, refundShift, planRefund, Refund.checkReason,
    Actor.requireElevated, may.elevated, Outcome.require, currentShift_eq_ok.2 may.shift,
    transaction_eq_ok.2 may.found, hreason, Field.Check.run, Outcome.ofCheck, bind, Except.bind]
  cases t.refund amount <;> rfl

theorem planVoid_eq_ok_iff {u : VoidUnit} :
    e.planVoid ids now actor id reason s = .ok (voided, u) ↔
      ∃ sh t, MayReverse actor id reason s sh t ∧ t.Voidable now e.voidWindow ∧
        voided = t.afterVoid reason actor.approver now ∧
        u = voidUnit ids now actor sh reason t := by
  constructor
  · intro hplan
    simp only [planVoid, Actor.requireElevated, Transaction.void, Outcome.bind_eq_ok,
      Outcome.require_eq_ok, currentShift_eq_ok, transaction_eq_ok, Field.Check.run_eq_ok,
      Field.reason_eq_ok, Transaction.checkVoidable_eq_ok, Outcome.pure_eq_ok, Prod.mk.injEq]
      at hplan
    obtain ⟨_, helevated, sh, hshift, t, hfound, _, ⟨_, hreason, _, hvoidable, rfl⟩, rfl, rfl⟩ :=
      hplan
    exact ⟨sh, t, ⟨helevated, hshift, hreason, hfound⟩,
      ⟨hvoidable.1, hvoidable.2.1, hvoidable.2.2⟩, rfl, rfl⟩
  · rintro ⟨sh, t, may, voidable, rfl, rfl⟩
    have hcheck : t.checkVoidable now e.voidWindow = .ok () :=
      Transaction.checkVoidable_eq_ok.2 ⟨voidable.completed, voidable.unrefunded, voidable.inTime⟩
    rw [may.planVoid_eq, hcheck]
    rfl

/-! ### Units of work -/

/-- **A transaction that can be voided passes all tests** of the unit of work. -/
theorem MayReverse.voidFits (may : MayReverse actor id reason s sh t)
    (voidable : t.Voidable now e.voidWindow) (room : s.HasRoom ids) (sound : s.Sound)
    (logs : s.Logs) (consistent : s.Consistent) :
    s.VoidFits (voidUnit ids now actor sh reason t) t sh
      (eventFor ids t .voidReversal t.grand sh now) := by
  have ht := (Store.transaction?_eq_some may.found).1
  obtain ⟨hmem, -, -, hopen⟩ := Store.openShift?_eq_some may.shift
  have htests : ∀ l ∈ t.lines, l.quantity ≠ 0 ∧ s.hasProduct l.product = true := fun l hl =>
    ⟨Int.ne_of_gt ((sound.stocked.priced t ht).lines l hl).quantity.1,
      (consistent.lines t ht l hl).hasProduct⟩
  obtain ⟨hmovements, hdistinct⟩ := room.movements
    (f := fun i (l : LineItem) =>
      movement t .voidReversal now (ids.movement i) l.product l.quantity)
    (fun _ _ => rfl) fun _ => htests
  have hbounds := (sound.balanced.accounted t ht).bounds
  exact {
    found := Store.transaction?_of_mem sound.keyed ht
    completed := voidable.completed
    unrefunded := voidable.unrefunded
    movements := hmovements
    distinct := hdistinct
    entry := rfl
    appends := room.appends sound.keyed logs hmem hopen (Int.le_trans hbounds.1 hbounds.2) }

/-- **A refund passes all tests** of the unit of work. -/
theorem MayReverse.refundFits (may : MayReverse actor id reason s sh t)
    (isRefund : t.IsRefund amount refunded units) (room : s.HasRoom ids) (sound : s.Sound)
    (logs : s.Logs) (consistent : s.Consistent) :
    s.RefundFits (refundUnit ids now actor sh.id amount reason t refunded units) t sh
      (eventFor ids t .refund amount sh now) := by
  have ht := (Store.transaction?_eq_some may.found).1
  obtain ⟨hmem, -, -, hopen⟩ := Store.openShift?_eq_some may.shift
  have hbounds := (sound.balanced.accounted t ht).bounds
  have hunits := (Transaction.restock_bounds (sound.stocked.priced t ht)
    (Int.le_trans hbounds.1 hbounds.2) isRefund.units).2
  -- What goes back into stock was sold, so it is carried.
  have htests : ∀ l ∈ units, l.quantity ≠ 0 ∧ s.hasProduct l.product = true := by
    intro l hl
    obtain ⟨line, hline, hproduct⟩ := Transaction.product_restock isRefund.units l hl
    exact ⟨Int.ne_of_gt (hunits l hl).1, hproduct ▸ (consistent.lines t ht line hline).hasProduct⟩
  obtain ⟨hmovements, hdistinct⟩ := room.movements
    (f := fun i (l : RestockLine) =>
      movement t .refundReversal now (ids.movement i) l.product l.quantity)
    (fun _ _ => rfl) fun _ => htests
  have hpositive := isRefund.positive
  have henough := isRefund.enough
  exact {
    found := Store.transaction?_of_mem sound.keyed ht
    completed := isRefund.completed
    before := rfl
    after := by
      simp only [refundUnit, isRefund.refunded]
      omega
    amount := hpositive
    fresh := room.unused.refund
    movements := hmovements
    distinct := hdistinct
    entry := rfl
    appends := room.appends sound.keyed logs hmem hopen (Int.le_of_lt hpositive) }

/-! ### Voids and refunds -/

/-- **Exactly the voidable transactions are voided** by those who may, if there is room. -/
theorem void_eq_ok_iff (room : s.HasRoom ids) (sound : s.Sound) (logs : s.Logs)
    (consistent : s.Consistent) :
    e.void ids now actor id reason s = (.ok voided, after) ↔
      ∃ sh t, MayReverse actor id reason s sh t ∧ t.Voidable now e.voidWindow ∧
        voided = t.afterVoid reason actor.approver now ∧
        after = s.afterVoid (voidUnit ids now actor sh reason t)
          (eventFor ids t .voidReversal t.grand sh now) := by
  simp only [void, Action.transact_eq_ok, Outcome.bind_eq_ok, Stored.result_eq_ok,
    Outcome.pure_eq_ok, Prod.mk.injEq]
  constructor
  · rintro ⟨⟨_, u⟩, hplan, booked, hbooked, rfl, rfl⟩
    obtain ⟨sh, t, may, voidable, rfl, rfl⟩ := planVoid_eq_ok_iff.1 hplan
    exact ⟨sh, t, may, voidable, rfl, Except.ok.inj
      (hbooked.symm.trans (may.voidFits voidable room sound logs consistent).commits)⟩
  · rintro ⟨sh, t, may, voidable, rfl, rfl⟩
    exact ⟨_, planVoid_eq_ok_iff.2 ⟨sh, t, may, voidable, rfl, rfl⟩, _,
      (may.voidFits voidable room sound logs consistent).commits, rfl, rfl⟩

/-- **Exactly the refundable amounts are refunded** by those who may, if there is room. -/
theorem refund_eq_ok_iff {r : Refund} (room : s.HasRoom ids) (sound : s.Sound) (logs : s.Logs)
    (consistent : s.Consistent) :
    e.refund ids now actor id amount reason s = (.ok r, after) ↔
      ∃ sh t refunded units, MayReverse actor id reason s sh t ∧
        t.IsRefund amount refunded units ∧
        r = ⟨ids.subject, t.id, t.store, amount, reason, actor.cashier, sh.id, actor.approver,
          now⟩ ∧
        after = s.afterRefund (refundUnit ids now actor sh.id amount reason t refunded units)
          (eventFor ids t .refund amount sh now) := by
  rw [Engine.refund_eq]
  simp only [refundShift, Refund.checkReason, Actor.requireElevated, Action.transact_eq_ok,
    Outcome.bind_eq_ok, Outcome.require_eq_ok, Field.Check.run_eq_ok, Field.reason_eq_ok,
    currentShift_eq_ok, Stored.result_eq_ok, Outcome.pure_eq_ok, Prod.mk.injEq]
  constructor
  · rintro ⟨sh, ⟨_, helevated, _, hreason, hshift⟩, u, hplan, booked, hbooked, rfl, rfl⟩
    obtain ⟨t, refunded, units, rfl, hfound, isRefund, rfl⟩ := planRefund_eq_ok hplan
    have may : MayReverse actor t.id reason s sh t := ⟨helevated, hshift, hreason, hfound⟩
    exact ⟨sh, t, refunded, units, may, isRefund, rfl, Except.ok.inj
      (hbooked.symm.trans (may.refundFits isRefund room sound logs consistent).commits)⟩
  · rintro ⟨sh, t, refunded, units, may, isRefund, rfl, rfl⟩
    have ht := (Store.transaction?_eq_some may.found).1
    have hrefund := (Transaction.refund_eq_ok_iff (sound.stocked.priced t ht)
      (sound.balanced.accounted t ht).bounds.1).2 isRefund
    refine ⟨sh, ⟨(), may.elevated, (), may.reason, may.shift⟩,
      refundUnit ids now actor sh.id amount reason t refunded units, ?_, _,
      (may.refundFits isRefund room sound logs consistent).commits, rfl, rfl⟩
    simp only [planRefund, transaction_eq_ok.2 may.found, hrefund, bind, Except.bind]
    rfl

end Engine

/-! ### What the store gains -/

namespace Store

variable {s after : Store} {ids : Ids} {now : Instant} {actor : Actor} {reason : String}
  {amount : Int} {sh : Shift} {t refunded : Transaction} {units : List RestockLine}

/-- **A store gains a void**: the transaction is marked, all its units go back, and an event at the
end of the log of the shift records the whole total.  All else stays. -/
structure GainsVoid (s after : Store) (ids : Ids) (now : Instant) (actor : Actor) (reason : String)
    (sh : Shift) (t : Transaction) : Prop where
  transactions : after.transactions = Rows.update (·.id) t.id
    (·.afterVoid reason actor.approver now) s.transactions
  movements : after.movements = s.movements ++ t.lines.mapIdx fun i l =>
    ⟨ids.movement i, l.product, t.store, l.quantity, .voidReversal, t.id, now⟩
  shifts : after.shifts = s.shiftsWith sh.id ids.event
    ⟨.voidReversal, t.grand, some t.payment, some t.id⟩ now
  rest : after.products = s.products ∧ after.suppliers = s.suppliers ∧ after.orders = s.orders ∧
    after.refunds = s.refunds ∧ after.outcomes = s.outcomes

/-- **A store gains a refund**: its record, the units that are newly covered, an event at the end of
the log of the shift, and the amount on the transaction.  All else stays. -/
structure GainsRefund (s after : Store) (ids : Ids) (now : Instant) (amount : Int) (sh : Shift)
    (t : Transaction) (r : Refund) : Prop where
  transactions : after.transactions = Rows.update (·.id) t.id
    (fun t => t.afterRefund (t.refunded + amount)) s.transactions
  refunds : after.refunds = s.refunds ++ [r]
  /-- Every line of which units are newly covered has a movement of them. -/
  movements : ∃ units, t.restock t.refunded (t.refunded + amount) = .ok units ∧
    after.movements = s.movements ++ units.mapIdx fun i l =>
      ⟨ids.movement i, l.product, t.store, l.quantity, .refundReversal, t.id, now⟩
  shifts : after.shifts = s.shiftsWith sh.id ids.event
    ⟨.refund, amount, some t.payment, some t.id⟩ now
  rest : after.products = s.products ∧ after.suppliers = s.suppliers ∧ after.orders = s.orders ∧
    after.outcomes = s.outcomes

theorem gainsVoid_afterVoid (k : s.Keyed) (logs : s.Logs) (hmem : sh ∈ s.shifts) :
    s.GainsVoid (s.afterVoid (Engine.voidUnit ids now actor sh reason t)
      (Engine.eventFor ids t .voidReversal t.grand sh now)) ids now actor reason sh t where
  transactions := rfl
  movements := rfl
  shifts := shifts_logged_place k logs hmem (Engine.entryFor t .voidReversal t.grand) ids.event now
  rest := ⟨rfl, rfl, rfl, rfl, rfl⟩

theorem gainsRefund_afterRefund (k : s.Keyed) (logs : s.Logs) (hmem : sh ∈ s.shifts)
    (ht : t ∈ s.transactions) (isRefund : t.IsRefund amount refunded units) :
    let u := Engine.refundUnit ids now actor sh.id amount reason t refunded units
    s.GainsRefund (s.afterRefund u (Engine.eventFor ids t .refund amount sh now)) ids now
      amount sh t u.refund where
  transactions := Rows.update_congr k.transactions ht
    (isRefund.paidBack_eq.trans isRefund.eq_afterRefund)
  refunds := rfl
  movements := ⟨units, isRefund.units, rfl⟩
  shifts := shifts_logged_place k logs hmem (Engine.entryFor t .refund amount) ids.event now
  rest := ⟨rfl, rfl, rfl, rfl⟩

end Store

/-! ### What is refused -/

/-- **A transaction is used up**: all of it was paid back. -/
def Transaction.UsedUp (t : Transaction) : Prop :=
  t.status = .refunded ∨ t.status = .completed ∧ t.refunded = t.grand

theorem Transaction.UsedUp.refund_eq {t : Transaction} (h : t.UsedUp) {amount : Int}
    (hpositive : 0 < amount) :
    t.refund amount = .error (.rejected (.refundExceedsTotal t.id amount 0)) := by
  have hamount : Field.positive "amount" amount = .ok () := Field.positive_eq_ok.2 hpositive
  rcases h with hrefunded | ⟨hcompleted, hall⟩
  · simp only [refund, hamount, checkRefundable, hrefunded, Field.Check.run, Outcome.ofCheck, bind,
      Except.bind]
    rfl
  · have hstatus : t.checkRefundable amount = .ok () := checkRefundable_eq_ok.2 hcompleted
    have hnothing : t.refundable = .ok 0 := by
      rw [refundable, hall, Int.sub_self]
      rfl
    simp only [refund, hamount, hstatus, hnothing, Field.Check.run, Outcome.ofCheck, bind,
      Except.bind]
    exact if_pos hpositive

namespace Engine

variable {e : Engine} {ids : Ids} {now : Instant} {actor : Actor} {id reason : String}
  {amount : Int} {s : Store} {sh : Shift} {t : Transaction}

/-- **A voided transaction is not voided again**, at whatever time. -/
theorem MayReverse.void_again (may : MayReverse actor id reason s sh t)
    (hvoided : t.status = .voided) :
    e.void ids now actor id reason s = (.error (.rejected (.alreadyVoided id)), s) := by
  obtain rfl := (Store.transaction?_eq_some may.found).2.1
  have hcheck : t.checkVoidable now e.voidWindow = .error (.rejected (.alreadyVoided t.id)) :=
    if_pos hvoided
  simp only [void, Action.transact, may.planVoid_eq, hcheck]
  rfl

/-- A void that comes too late is refused. -/
theorem MayReverse.void_late (may : MayReverse actor id reason s sh t)
    (hcompleted : t.status = .completed) (hunrefunded : t.refunded = 0)
    (hlate : e.voidWindow < now.since t.createdAt) :
    e.void ids now actor id reason s =
      (.error (.rejected (.voidWindowExpired id (e.voidWindow / Instant.perSecond))), s) := by
  obtain rfl := (Store.transaction?_eq_some may.found).2.1
  have hcheck : t.checkVoidable now e.voidWindow =
      .error (.rejected (.voidWindowExpired t.id (e.voidWindow / Instant.perSecond))) := by
    rw [Transaction.checkVoidable, if_neg (by simp [hcompleted]), if_pos ⟨hcompleted, hunrefunded⟩,
      decide_eq_false (Int.not_le.2 hlate)]
    rfl
  simp only [void, Action.transact, may.planVoid_eq, hcheck]
  rfl

/-- **Of a transaction that is used up** nothing more is refunded. -/
theorem MayReverse.refund_usedUp (may : MayReverse actor id reason s sh t) (usedUp : t.UsedUp)
    (hpositive : 0 < amount) :
    e.refund ids now actor id amount reason s =
      (.error (.rejected (.refundExceedsTotal id amount 0)), s) := by
  obtain rfl := (Store.transaction?_eq_some may.found).2.1
  rw [may.refund_eq, usedUp.refund_eq hpositive]
  rfl

/-! ### Requests -/

variable {κ : Type} {c : CacheAccess κ} {w : World κ}

/-- **A till reverses exactly what can be reversed**, by those who may. -/
structure ReversesExactly (e : Engine) (c : CacheAccess κ) (w : World κ) : Prop where
  /-- A void succeeds exactly if the transaction can be voided. -/
  voids : ∀ ids actor id reason, w.store.HasRoom ids →
    ((∃ reply, (e.handle c ids actor (.void id reason) w).1 = .ok reply) ↔
      ∃ sh t, MayReverse actor id reason w.store sh t ∧ t.Voidable w.now e.voidWindow)
  /-- Then the store gains nothing but this void. -/
  gainsVoid : ∀ ids actor id reason, w.store.HasRoom ids → ∀ reply after,
    e.handle c ids actor (.void id reason) w = (.ok reply, after) →
      ∃ sh t s, MayReverse actor id reason w.store sh t ∧
        reply = .transaction (t.afterVoid reason actor.approver w.now) ∧
        after = { w with store := s } ∧ w.store.GainsVoid s ids w.now actor reason sh t
  /-- A transaction that was voided is not voided again, whatever the time. -/
  voidsOnce : ∀ ids actor id reason sh t, MayReverse actor id reason w.store sh t →
    t.status = .voided →
      e.handle c ids actor (.void id reason) w = (.error (.rejected (.alreadyVoided id)), w)
  /-- A clock that was set back is in time for every void, unless it shows a leap second and the
  window is shorter than a second. -/
  inTime : 0 ≤ e.voidWindow → ∀ t ∈ w.store.transactions, w.now < t.createdAt →
    w.now.isLeap = false ∨ Instant.perSecond ≤ e.voidWindow →
      w.now.since t.createdAt ≤ e.voidWindow
  /-- A refund succeeds exactly if there is as much to refund. -/
  refunds : ∀ ids actor id amount reason, w.store.HasRoom ids →
    ((∃ reply, (e.handle c ids actor (.refund id amount reason) w).1 = .ok reply) ↔
      ∃ sh t, MayReverse actor id reason w.store sh t ∧ t.Refundable amount)
  /-- Then the store gains nothing but this refund. -/
  gainsRefund : ∀ ids actor id amount reason, w.store.HasRoom ids → ∀ reply after,
    e.handle c ids actor (.refund id amount reason) w = (.ok reply, after) →
      ∃ sh t s r, MayReverse actor id reason w.store sh t ∧
        r = ⟨ids.subject, t.id, t.store, amount, reason, actor.cashier, sh.id, actor.approver,
          w.now⟩ ∧
        reply = .refund r ∧ after = { w with store := s } ∧
        w.store.GainsRefund s ids w.now amount sh t r
  /-- Of a transaction that is used up nothing more is refunded. -/
  refundsNoMore : ∀ ids actor id amount reason sh t, MayReverse actor id reason w.store sh t →
    t.UsedUp → 0 < amount →
      e.handle c ids actor (.refund id amount reason) w =
        (.error (.rejected (.refundExceedsTotal id amount 0)), w)
  /-- What does not succeed is refused with a reason and changes nothing. -/
  refuses : ∀ ids actor r, (r.call? e actor w.now).isSome = true →
    (∃ reply, (e.handle c ids actor r w).1 = .ok reply) ∨
      ∃ reason, e.handle c ids actor r w = (.error (.rejected reason), w)

/-- A step on the store that answers and is atomic succeeds, or is refused and changes nothing. -/
theorem change_answers {α : Type} {reply : α → Reply} {step : Action Store α}
    (hanswers : Outcome.Answers (step w.store).1) (hatomic : Action.Atomic step) :
    (∃ b, (change reply step w).1 = .ok b) ∨
      ∃ reason, change reply step w = (.error (.rejected reason), w) := by
  rcases hanswers with ⟨a, ha⟩ | ⟨reason, hreason⟩
  · exact .inl ⟨reply a, congrArg Prod.fst (change_eq_ok.2 ⟨a, _, Prod.ext ha rfl, rfl, rfl⟩)⟩
  · have hsame : (step w.store).2 = w.store := hatomic (Prod.ext hreason rfl)
    exact .inr ⟨reason, change_eq_error (Prod.ext hreason hsame)⟩

theorem reversesExactly (e : Engine) (c : CacheAccess κ) (sound : w.store.Sound)
    (logs : w.store.Logs) (consistent : w.store.Consistent) : e.ReversesExactly c w where
  voids ids actor id reason room := by
    constructor
    · rintro ⟨reply, hreply⟩
      obtain ⟨voided, s, hvoid, -⟩ := change_eq_ok.1 (Prod.ext hreply rfl)
      obtain ⟨sh, t, may, voidable, -⟩ := (void_eq_ok_iff room sound logs consistent).1 hvoid
      exact ⟨sh, t, may, voidable⟩
    · rintro ⟨sh, t, may, voidable⟩
      exact ⟨_, congrArg Prod.fst (change_eq_ok.2 ⟨_, _,
        (void_eq_ok_iff room sound logs consistent).2 ⟨sh, t, may, voidable, rfl, rfl⟩, rfl, rfl⟩)⟩
  gainsVoid ids actor id reason room reply after h := by
    obtain ⟨voided, s, hvoid, rfl, rfl⟩ := change_eq_ok.1 h
    obtain ⟨sh, t, may, -, rfl, rfl⟩ := (void_eq_ok_iff room sound logs consistent).1 hvoid
    exact ⟨sh, t, _, may, rfl, rfl,
      Store.gainsVoid_afterVoid sound.keyed logs (Store.openShift?_eq_some may.shift).1⟩
  voidsOnce ids actor id reason sh t may hvoided := change_eq_error (may.void_again hvoided)
  inTime hwindow t ht hback h := by
    rcases h with hleap | hsecond
    · have := Instant.since_neg hback hleap
      omega
    · have := Instant.since_lt_perSecond hback
      omega
  refunds ids actor id amount reason room := by
    constructor
    · rintro ⟨reply, hreply⟩
      obtain ⟨r, s, hrefund, -⟩ := change_eq_ok.1 (Prod.ext hreply rfl)
      obtain ⟨sh, t, refunded, units, may, isRefund, -⟩ :=
        (refund_eq_ok_iff room sound logs consistent).1 hrefund
      exact ⟨sh, t, may, isRefund.completed, isRefund.positive, isRefund.enough⟩
    · rintro ⟨sh, t, may, refundable⟩
      have ht := (Store.transaction?_eq_some may.found).1
      obtain ⟨refunded, units, isRefund⟩ := (Transaction.exists_isRefund_iff
        (sound.stocked.priced t ht) (sound.balanced.accounted t ht).bounds.1).2 refundable
      exact ⟨_, congrArg Prod.fst (change_eq_ok.2 ⟨_, _,
        (refund_eq_ok_iff room sound logs consistent).2
          ⟨sh, t, refunded, units, may, isRefund, rfl, rfl⟩, rfl, rfl⟩)⟩
  gainsRefund ids actor id amount reason room reply after h := by
    obtain ⟨r, s, hrefund, rfl, rfl⟩ := change_eq_ok.1 h
    obtain ⟨sh, t, refunded, units, may, isRefund, rfl, rfl⟩ :=
      (refund_eq_ok_iff room sound logs consistent).1 hrefund
    exact ⟨sh, t, _, _, may, rfl, rfl, rfl, Store.gainsRefund_afterRefund sound.keyed logs
      (Store.openShift?_eq_some may.shift).1 (Store.transaction?_eq_some may.found).1 isRefund⟩
  refundsNoMore ids actor id amount reason sh t may usedUp hpositive :=
    change_eq_error (may.refund_usedUp usedUp hpositive)
  refuses ids actor r hcall := by
    cases r with
    | void id reason =>
      exact change_answers (e.answers_void ids w.now actor id reason w.store)
        (Action.atomic_transact _)
    | refund id amount reason =>
      exact change_answers (answers_refund sound e ids w.now actor id amount reason)
        (refund_atomic id reason amount)
    | _ => cases hcall

/-- **A till reverses exactly what can be reversed after every run**, and its logs have room as long
as it has not made more steps than 64 bits can count. -/
theorem run_reversesExactly (e : Engine) (c : CacheAccess κ) (now : Instant) (cache : κ)
    (steps : List (Step κ)) :
    e.ReversesExactly c (e.run c (World.empty now cache) steps) ∧
      ∀ sh ∈ (e.run c (World.empty now cache) steps).store.shifts,
        sh.events.length ≤ steps.length :=
  ⟨e.reversesExactly c (e.run_sound c now cache steps) (e.run_logs c now cache steps)
    (e.run_inPlace c now cache steps), e.run_logs_length c now cache steps⟩

end Engine

namespace DoubleSale

theorem mayReverse_soldOnce (lifetime : Int) (start : Instant) :
    ∃ sh, Engine.MayReverse manager "6" "wrong" (soldOnce lifetime start) sh (sold "6" start) :=
  ⟨_, rfl, rfl, by decide +kernel, rfl⟩

/-- A sale of five cents can be voided at once, or three cents of it be refunded. -/
theorem run_reversesExactly_soldOnce :
    let e := till 86400000000000
    let w := e.run Cache.access (World.empty ⟨0⟩ .absent) (stocking ++ [checkout "6"])
    let ids := Ids.strokes 2
    w.store.HasRoom ids ∧
      ∃ sh, Engine.MayReverse manager "6" "wrong" w.store sh (sold "6" ⟨0⟩) ∧
        (∃ s, e.handle Cache.access ids manager (.void "6" "wrong") w =
            (.ok (.transaction ((sold "6" ⟨0⟩).afterVoid "wrong" "manager" w.now)),
              { w with store := s }) ∧
          w.store.GainsVoid s ids w.now manager "wrong" sh (sold "6" ⟨0⟩)) ∧
        ∃ s r, e.handle Cache.access ids manager (.refund "6" 3 "wrong") w =
            (.ok (.refund r), { w with store := s }) ∧
          r = ⟨ids.subject, "6", "store", 3, "wrong", "manager", sh.id, "manager", w.now⟩ ∧
          w.store.GainsRefund s ids w.now 3 sh (sold "6" ⟨0⟩) r := by
  intro e w ids
  obtain ⟨w', hstore, hnow, hrun⟩ : ∃ w' : World Cache, w'.store = soldOnce 86400000000000 ⟨0⟩ ∧
      w'.now = ⟨0⟩ ∧ w = w' := run_checkout (by decide +kernel) []
  obtain rfl := hrun
  have room : w.store.HasRoom ids := by
    rw [hstore]
    exact ⟨Ids.unused_strokes (by decide), List.forall_mem_singleton.2 (by decide)⟩
  obtain ⟨sh, may⟩ := mayReverse_soldOnce 86400000000000 ⟨0⟩
  rw [← hstore] at may
  have exactly : e.ReversesExactly Cache.access w :=
    (Engine.run_reversesExactly e Cache.access ⟨0⟩ .absent (stocking ++ [checkout "6"])).1
  refine ⟨room, sh, may, ?_, ?_⟩
  · have voidable : (sold "6" ⟨0⟩).Voidable w.now e.voidWindow := by
      rw [hnow]
      exact ⟨rfl, rfl, by decide⟩
    obtain ⟨reply, hreply⟩ := (exactly.voids ids _ _ _ room).2 ⟨sh, _, may, voidable⟩
    obtain ⟨sh', t, s, may', rfl, hafter, gains⟩ :=
      exactly.gainsVoid ids _ _ _ room reply _ (Prod.ext hreply rfl)
    obtain ⟨rfl, rfl⟩ := may.unique may'
    exact ⟨s, Prod.ext hreply hafter, gains⟩
  · have refundable : (sold "6" ⟨0⟩).Refundable 3 := ⟨rfl, by decide, by decide⟩
    obtain ⟨reply, hreply⟩ := (exactly.refunds ids _ _ 3 _ room).2 ⟨sh, _, may, refundable⟩
    obtain ⟨sh', t, s, r, may', hr, rfl, hafter, gains⟩ :=
      exactly.gainsRefund ids _ _ 3 _ room reply _ (Prod.ext hreply rfl)
    obtain ⟨rfl, rfl⟩ := may.unique may'
    exact ⟨s, r, Prod.ext hreply hafter, hr, gains⟩

/-- A tenth of a second after the leap second at the end of the year 2016. -/
def newYear : Instant := .ofMinute 24720480 100000000

/-- The middle of that leap second. -/
def leapSecond : Instant := .ofMinute 24720479 60500000000

/-- **A clock that was set back into a leap second** can be too late: more than no time has passed
since a sale that lies ahead. -/
theorem void_refused_leapSecond :
    let e := till 86400000000000
    let w := e.run Cache.access (World.empty newYear .absent)
      (stocking ++ [checkout "6", .time leapSecond])
    ∃ sh, Engine.MayReverse manager "6" "wrong" w.store sh (sold "6" newYear) ∧
      (sold "6" newYear).status = .completed ∧ (sold "6" newYear).refunded = 0 ∧
      w.now < (sold "6" newYear).createdAt ∧
      ∀ ids, e.handle Cache.access ids manager (.void "6" "wrong") w =
        (.error (.rejected (.voidWindowExpired "6" 0)), w) := by
  intro e w
  have hrepresentable : (newYear.shift 86400000000000).IsRepresentable := by decide +kernel
  have hback : leapSecond < newYear := by decide
  have hlate : e.voidWindow < leapSecond.since (sold "6" newYear).createdAt := by decide
  obtain ⟨sold', hsold, -, hrun⟩ := run_checkout hrepresentable [.time leapSecond]
  have hw : w = { sold' with now := leapSecond } := hrun
  have hstore : w.store = soldOnce 86400000000000 newYear := hw ▸ hsold
  have hnow : w.now = leapSecond := hw ▸ rfl
  obtain ⟨sh, may⟩ : ∃ sh, Engine.MayReverse manager "6" "wrong" w.store sh (sold "6" newYear) :=
    hstore ▸ mayReverse_soldOnce 86400000000000 newYear
  refine ⟨sh, may, rfl, rfl, hnow ▸ hback, fun ids => ?_⟩
  exact Engine.change_eq_error (may.void_late rfl rfl (hnow ▸ hlate))

end DoubleSale

end Till
