import Till.Proofs.AtMostOnce
import Till.Proofs.Race

/-!
# Races that are lost

Of the requests that race for a transaction or for the end of a shift some come too late: what they
have loaded is no longer what is stored.

* `Plan.Waits.current` : what is booked for a transaction was computed from the transaction as it is
  stored, so a plan that is stale is refused (`Plan.Waits.refused`);
* `Race.settles` : refunds and voids of a transaction exclude each other, and what all refunds have
  paid back and put back fits together, however the requests were interleaved;
* `Plan.Waits.tooLate` : the end of a shift whose log has grown, or that was closed meanwhile, is
  refused;
* `Race.closes` : the logs of all shifts are in order, however the requests were interleaved.

`LateRequests.race` is a race in which both happen: two refunds and the end of the shift were
planned before one of the refunds was booked.
-/

namespace Till

/-! ### Refusals -/

namespace Store

variable {s : Store} {t : Transaction} {sh closed : Shift}

theorem commitVoid_of_stale {u : VoidUnit} (hfound : s.transaction? u.store u.transaction = some t)
    (hstale : t.status ≠ .completed ∨ t.refunded ≠ 0) :
    ∃ reason, s.commitVoid u = Outcome.reject (.rejected reason) ∧
      (reason = .alreadyVoided u.transaction ∨
        reason = .wrongStatus u.transaction t.status "void") := by
  have hconflict : ∃ reason, voidConflict u.transaction (some t) = some (.rejected reason) ∧
      (reason = .alreadyVoided u.transaction ∨
        reason = .wrongStatus u.transaction t.status "void") := by
    cases hstatus : t.status with
    | completed =>
      have hrefunded : t.refunded ≠ 0 := hstale.resolve_left (not_not_intro hstatus)
      exact ⟨_, by simp only [voidConflict, hstatus, hrefunded, if_false], .inr rfl⟩
    | voided => exact ⟨_, by simp only [voidConflict, hstatus], .inl rfl⟩
    | pending | refunded => exact ⟨_, by simp only [voidConflict, hstatus], .inr rfl⟩
  obtain ⟨reason, hreason, hcases⟩ := hconflict
  exact ⟨reason, by rw [commitVoid, hfound, hreason], hcases⟩

theorem commitRefund_of_stale {u : RefundUnit}
    (hfound : s.transaction? u.refund.store u.refund.transaction = some t)
    (hstale : t.status ≠ .completed ∨ t.refunded ≠ u.refundedBefore) :
    s.commitRefund u = Outcome.reject
      (.rejected (.modifiedConcurrently "Transaction" u.refund.transaction)) := by
  have hunfit : isRefundOf u t = false := by
    simp only [isRefundOf, Bool.and_eq_false_iff, decide_eq_false_iff_not]
    exact hstale
  simp only [commitRefund, hfound, Option.filter_some, hunfit, Bool.false_eq_true, if_false]
  rfl

/-- **The end of a shift is refused** if the shift is closed, or if its log is not as long as it
was. -/
theorem closeShift_of_stale {id : String} {cash : Int} {now : Instant} {sh' : Shift}
    {closure : ShiftClosure} (close : sh.IsClose id cash now closed closure)
    (hfound : s.shift? sh.id = some sh') :
    (sh'.isOpen = false → s.closeShift closed = Outcome.reject (.rejected (.shiftClosed sh.id))) ∧
      (sh'.isOpen = true → sh'.events.length ≠ sh.events.length →
        s.closeShift closed =
          Outcome.reject (.rejected (.modifiedConcurrently "Shift" sh.id))) := by
  have hid : closed.id = sh.id := by rw [close.closed]; rfl
  have hended : closed.closedAt.isSome = true := by rw [close.closed]; rfl
  have hlast : closed.events.getLast?.filter (fun e => decide (e.kind = .close)) =
      some (sh.closing id cash now) := by
    rw [close.events, List.getLast?_concat]
    rfl
  refine ⟨?_, ?_⟩
  · intro hclosed
    simp only [closeShift, hlast, hended, hid, hfound, hclosed, Outcome.ofOption, Outcome.require,
      bind, Except.bind]
    rfl
  · intro hopen hlength
    have hlonger : ¬sh'.events.length + 1 = closed.events.length := by
      rw [close.events, List.length_append, List.length_singleton]
      omega
    simp only [closeShift, hlast, hended, hid, hfound, hopen, hlonger, Outcome.ofOption,
      Outcome.require, bind, Except.bind, if_false]
    rfl

end Store

theorem Engine.book_of_rejected {unit : Store → Stored Store} {s : Store} {reason : Rejection}
    (h : unit s = Outcome.reject (.rejected reason)) :
    book unit s = (.error (.rejected reason), s) := by
  rw [book, Action.transact, h]
  rfl

namespace Plan

/-- The transaction that was loaded to be voided or refunded. -/
def loaded? : Plan → Option Transaction
  | .void t _ => some t
  | .refund t _ => some t
  | _ => none

/-- Whether a plan is to void a transaction. -/
def isVoid : Plan → Bool
  | .void _ _ => true
  | _ => false

/-- **A plan for a transaction is refused** by a store that has the transaction in another state,
and nothing is written. -/
def IsRefused (p : Plan) (current : Transaction) (s : Store) : Prop :=
  ∃ reason, Engine.book p.unit s = (.error (.rejected reason), s) ∧
    if p.isVoid then reason = .alreadyVoided current.id ∨
      reason = .wrongStatus current.id current.status "void"
    else reason = .modifiedConcurrently "Transaction" current.id

variable {e : Engine} {p : Plan} {s after : Store} {t t' : Transaction} {sh sh' closed : Shift}

/-! ### Plans for a transaction -/

/-- **What is booked for a transaction** was computed from the transaction as it is stored. -/
theorem Waits.current (h : p.Waits e s) (sound : s.Sound) (hloaded : p.loaded? = some t)
    (hbook : p.unit s = .ok after) :
    t ∈ s.transactions ∧ t.status = .completed ∧ (p.isVoid = true → t.refunded = 0) ∧
      ∃ t' ∈ after.transactions, t'.id = t.id ∧
        if p.isVoid then t'.status = .voided else 0 < t'.refunded := by
  obtain ⟨s₀, admitted, hearlier, -, hmade⟩ := h
  have k := sound.keyed
  cases hmade with
  | @void ids now actor sh₀ id reason t₀ voided admits elevated found voids =>
    obtain rfl := Option.some.inj hloaded
    obtain ⟨t', sh, ev, fits, rfl⟩ := Store.commitVoid_eq_ok hbook
    obtain ⟨hvoidable, -⟩ := Transaction.void_eq_ok voids
    have ht := (Store.transaction?_eq_some (Engine.transaction_eq_ok.1 found)).1
    obtain rfl := hearlier.eq_of_voidFits k ht rfl hvoidable.2.1 fits
    have ht' := (Store.transaction?_eq_some fits.found).1
    exact ⟨ht', fits.completed, fun _ => fits.unrefunded, _,
      (Rows.mem_update k.transactions ht').2 (.inl rfl), rfl, rfl⟩
  | @refund ids now actor sh₀ id reason amount t₀ u admits elevated found plan =>
    obtain rfl := Option.some.inj hloaded
    obtain ⟨t', sh, ev, fits, rfl⟩ := Store.commitRefund_eq_ok hbook
    obtain ⟨refunded, units, hrefund, hunit⟩ := Engine.planRefund_of_found plan found
    have ht := (Store.transaction?_eq_some (Engine.transaction_eq_ok.1 found)).1
    obtain rfl := hearlier.eq_of_refundFits k ht hunit fits
    have ht' := (Store.transaction?_eq_some fits.found).1
    have hid : u.refund.transaction = t'.id := by rw [hunit]; rfl
    have hbounds := (sound.balanced.accounted t' ht').bounds
    have hpaid : (Store.paidBack u t').refunded = t'.refunded + amount := by
      rw [hunit]
      exact congrArg Transaction.refunded hrefund.refunded
    have hpositive := hrefund.positive
    refine ⟨ht', fits.completed, nofun, Store.paidBack u t', ?_, rfl, ?_⟩
    · rw [Store.afterRefund, hid]
      exact (Rows.mem_update k.transactions ht').2 (.inl rfl)
    · rw [if_neg (by simp [isVoid]), hpaid]
      omega
  | sale | close | entry => cases hloaded

/-- **A plan for a transaction that is not what it was** when it was loaded is refused. -/
theorem Waits.refused (h : p.Waits e s) (k : s.Keyed) (hloaded : p.loaded? = some t)
    (ht' : t' ∈ s.transactions) (hid : t'.id = t.id)
    (hstale : t'.status ≠ t.status ∨ t'.refunded ≠ t.refunded) : p.IsRefused t' s := by
  obtain ⟨s₀, admitted, hearlier, -, hmade⟩ := h
  have hcurrent : ∀ {actor id}, Engine.transaction actor id s₀ = .ok t →
      s.transaction? t.store t.id = some t' := by
    intro actor id found
    have ht := (Store.transaction?_eq_some (Engine.transaction_eq_ok.1 found)).1
    have hstore : t'.store = t.store := by rw [(hearlier.transaction k ht ht' hid).same]
    rw [← hid, ← hstore]
    exact Store.transaction?_of_mem k ht'
  cases hmade with
  | @void ids now actor sh₀ id reason t₀ voided admits elevated found voids =>
    obtain rfl := Option.some.inj hloaded
    obtain ⟨⟨hcompleted, hunrefunded, -⟩, -⟩ := Transaction.void_eq_ok voids
    rw [hcompleted, hunrefunded] at hstale
    obtain ⟨reason, hcommit, hreason⟩ := Store.commitVoid_of_stale
      (u := Engine.voidUnit ids now actor sh₀ reason t₀) (hcurrent found) hstale
    refine ⟨reason, Engine.book_of_rejected hcommit, ?_⟩
    rw [hid]
    exact hreason
  | @refund ids now actor sh₀ id reason amount t₀ u admits elevated found plan =>
    obtain rfl := Option.some.inj hloaded
    obtain ⟨refunded, units, hrefund, rfl⟩ := Engine.planRefund_of_found plan found
    rw [hrefund.completed] at hstale
    have hcommit := Store.commitRefund_of_stale
      (u := Engine.refundUnit ids now actor sh₀.id amount reason t₀ refunded units)
      (hcurrent found) hstale
    refine ⟨_, Engine.book_of_rejected hcommit, ?_⟩
    rw [hid]
    rfl
  | sale | close | entry => cases hloaded

/-- What was loaded for a plan was completed then. -/
theorem Waits.loaded (h : p.Waits e s) (hloaded : p.loaded? = some t) :
    t.status = .completed ∧ ∃ s₀ : Store, s₀.Precedes s ∧ t ∈ s₀.transactions := by
  obtain ⟨s₀, admitted, hearlier, -, hmade⟩ := h
  cases hmade with
  | void admits elevated found voids =>
    obtain rfl := Option.some.inj hloaded
    obtain ⟨⟨hcompleted, -, -⟩, -⟩ := Transaction.void_eq_ok voids
    exact ⟨hcompleted, s₀, hearlier,
      (Store.transaction?_eq_some (Engine.transaction_eq_ok.1 found)).1⟩
  | refund admits elevated found plan =>
    obtain rfl := Option.some.inj hloaded
    obtain ⟨refunded, units, hrefund, -⟩ := Engine.planRefund_of_found plan found
    exact ⟨hrefund.completed, s₀, hearlier,
      (Store.transaction?_eq_some (Engine.transaction_eq_ok.1 found)).1⟩
  | sale | close | entry => cases hloaded

/-- **What a booked plan has left behind.** -/
def Done (p : Plan) (s : Store) : Prop :=
  ∀ t, p.loaded? = some t → ∃ t' ∈ s.transactions, t'.id = t.id ∧
    if p.isVoid then t'.status = .voided else 0 < t'.refunded

/-- **Plans that exclude each other** are for one transaction, and one of them is to void it. -/
def Excludes (p q : Plan) : Prop :=
  ∃ t t', p.loaded? = some t ∧ q.loaded? = some t' ∧ t.id = t'.id ∧
    (p.isVoid = true ∨ q.isVoid = true)

theorem Done.mono (h : p.Done s) (hprecedes : s.Precedes after) : p.Done after := by
  intro t hloaded
  obtain ⟨t', ht', hid, hdone⟩ := h t hloaded
  obtain ⟨last, hlast, hlater⟩ := hprecedes.transactions t' ht'
  have hsame : last.id = t'.id := by rw [hlater.same]
  refine ⟨last, hlast, hsame.trans hid, ?_⟩
  by_cases hvoid : p.isVoid = true
  · -- A voided transaction stays as it is.
    rw [if_pos hvoid] at hdone ⊢
    rw [hlater.final (by rw [hdone]; nofun)]
    exact hdone
  · rw [if_neg hvoid] at hdone ⊢
    exact Int.lt_of_lt_of_le hdone hlater.refunded

end Plan

namespace Store

variable {s : Store} {t : Transaction}

/-- **The refunds and voids of a transaction fit together.** -/
structure Settled (s : Store) (t : Transaction) : Prop where
  /-- What was refunded is the sum of the refunds. -/
  refunds : ((s.refundsFor t.id).map (·.amount)).sum = t.refunded
  /-- It is at most the total. -/
  bounds : 0 ≤ t.refunded ∧ t.refunded ≤ t.grand
  /-- The sale was reversed once if the transaction is voided, and never otherwise. -/
  voids : (s.eventsFor .voidReversal t.id).length = if t.status = .voided then 1 else 0
  /-- If it was reversed, nothing was refunded. -/
  exclusive : s.eventsFor .voidReversal t.id ≠ [] → s.refundsFor t.id = []
  /-- What refunds have put back of every line is what the amount refunded covers. -/
  covered : t.coveredUnits t.refunded = .ok (t.lines.map fun l => s.restocked t.id l.product)
  /-- It is a part of the line. -/
  bounded : ∀ l ∈ t.lines,
    0 ≤ s.restocked t.id l.product ∧ s.restocked t.id l.product ≤ l.quantity

theorem Restocked.settled (h : s.Restocked) (sound : s.Sound) (ht : t ∈ s.transactions) :
    s.Settled t := by
  have haccounted := sound.balanced.accounted t ht
  obtain ⟨hcovered, hbounded⟩ := h.coveredUnits_eq sound ht
  refine ⟨haccounted.refunds, haccounted.bounds, haccounted.reversal, ?_, hcovered, hbounded⟩
  intro hreversed
  have hvoided : t.status = .voided := by
    by_contra hne
    have hlength := haccounted.reversal
    rw [if_neg hne] at hlength
    exact hreversed (List.length_eq_zero_iff.1 hlength)
  -- Refunds are positive, so there are none where nothing was refunded.
  have hsum := haccounted.refunds
  rw [haccounted.voided hvoided] at hsum
  cases hrefunds : s.refundsFor t.id with
  | nil => rfl
  | cons q rest =>
    have hpositive : ∀ q ∈ s.refundsFor t.id, 0 < q.amount := fun q hq =>
      h.positive q (List.mem_of_mem_filter hq)
    rw [hrefunds] at hpositive hsum
    obtain ⟨hq, hrest⟩ := List.forall_mem_cons.1 hpositive
    have hothers : 0 ≤ (rest.map (·.amount)).sum := by
      refine List.sum_nonneg ?_
      intro a ha
      obtain ⟨q', hq', rfl⟩ := List.mem_map.1 ha
      exact Int.le_of_lt (hrest q' hq')
    rw [List.map_cons, List.sum_cons] at hsum
    omega

end Store

namespace Race

variable {κ : Type} {e : Engine} {c : CacheAccess κ} {r r' : Race κ}

/-- **What was booked does not exclude each other.** -/
structure Exclusive (r : Race κ) : Prop where
  done : ∀ p ∈ r.booked, p.Done r.store
  pairwise : r.booked.Pairwise fun p q => ¬p.Excludes q

theorem Exclusive.move (h : r.Exclusive) (orderly : r.Orderly e) (hmove : Move e c r r') :
    r'.Exclusive := by
  have hprecedes := orderly.precedes hmove
  have hdone : ∀ p ∈ r.booked, p.Done r'.store := fun p hp => (h.done p hp).mono hprecedes
  cases hmove with
  | whole | admission | plan => exact ⟨hdone, h.pairwise⟩
  | @book p after waits done =>
    have hsettles := fun t hloaded => (orderly.waiting p waits).current (t := t) orderly.sound
      hloaded (Engine.book_eq_ok.1 done)
    refine ⟨?_, ?_⟩
    · intro q hq
      rcases List.mem_append.1 hq with hq | hq
      · exact hdone q hq
      · rw [List.mem_singleton.1 hq]
        exact fun t hloaded => (hsettles t hloaded).2.2.2
    · refine List.pairwise_append.2 ⟨h.pairwise, List.pairwise_singleton _ _, ?_⟩
      rintro q hq p' hp' ⟨t, t', hloaded, hloaded', hid, hvoid⟩
      rw [List.mem_singleton.1 hp'] at hloaded' hvoid
      -- The transaction is completed and, for a void, without refunds.
      obtain ⟨ht', hcompleted, hunrefunded, -⟩ := hsettles t' hloaded'
      obtain ⟨t'', ht'', hid'', hleft⟩ := h.done q hq t hloaded
      obtain rfl : t'' = t' :=
        List.inj_on_of_nodup_map orderly.sound.keyed.transactions ht'' ht' (hid''.trans hid)
      by_cases hfirst : q.isVoid = true
      · rw [if_pos hfirst, hcompleted] at hleft
        cases hleft
      · rw [if_neg hfirst, hunrefunded (hvoid.resolve_left hfirst)] at hleft
        exact Int.lt_irrefl 0 hleft

/-- **Every state that can be reached** has booked nothing that excludes each other. -/
theorem Reachable.exclusive (h : Reachable e c r) : r.Exclusive := by
  obtain ⟨now, cache, hlater⟩ := h
  induction hlater with
  | refl => exact ⟨fun _ h => absurd h List.not_mem_nil, .nil⟩
  | tail hlater hmove ih => exact ih.move (Reachable.orderly ⟨now, cache, hlater⟩) hmove

end Race

/-! ### A race with late requests -/

namespace LateRequests

open DoubleSale

/-- The plan of the sale. -/
def sale (lifetime : Int) (start : Instant) : Plan :=
  .sale (Engine.saleUnit (ids "6") (claim lifetime start) (sold "6" start))

def refundUnit (id : String) (amount : Int) (start : Instant) : RefundUnit :=
  Engine.refundUnit (ids id) start manager "5" amount "wilted" (sold "6" start)
    { sold "6" start with refunded := amount } []

/-- The plan to pay back an amount, which covers no unit. -/
def refund (id : String) (amount : Int) (start : Instant) : Plan :=
  .refund (sold "6" start) (refundUnit id amount start)

/-- The shift of the sale. -/
def shift (start : Instant) : Shift :=
  ⟨"5", "manager", "store", start, none, 0, none, none,
    [⟨"6", "5", 1, .sale, 5, some .cash, some "6", start⟩]⟩

/-- The shift as it would be closed with the cash of the sale. -/
def closed (start : Instant) : Shift :=
  ⟨"5", "manager", "store", start, some start, 0, some 5, some 0,
    (shift start).events ++ [(shift start).closing "9" 5 start]⟩

/-- The plan to end the shift. -/
def lateEnd (start : Instant) : Plan := .close (shift start) (closed start)

/-- The store after two cents were paid back. -/
def paid (lifetime : Int) (start : Instant) : Store :=
  { soldOnce lifetime start with
    transactions := [{ sold "6" start with refunded := 2 }]
    refunds := [(refundUnit "7" 2 start).refund]
    shifts := [{ shift start with events := (shift start).events ++
      [⟨"7", "5", 2, .refund, 2, some .cash, some "6", start⟩] }] }

/-- **A race with late requests**: two refunds and the end of the shift were planned after a sale,
and one of the refunds is booked. -/
def race (lifetime : Int) (start : Instant) : Race Cache where
  world := world (paid lifetime start) start
  admitted := [(manager, shift start)]
  waiting := [sale lifetime start, refund "7" 2 start, refund "8" 3 start, lateEnd start]
  booked := [sale lifetime start, refund "7" 2 start]

/-- A state of the race. -/
def state (start : Instant) (s : Store) (admitted : List (Actor × Shift))
    (waiting booked : List Plan) : Race Cache := ⟨world s start, admitted, waiting, booked⟩

theorem reachable_race (lifetime : Int) (start : Instant) :
    Race.Reachable (till lifetime) Cache.access (race lifetime start) := by
  have hplan := planSale_eq lifetime start "6" (s := stocked start) rfl rfl
  have hsale : (sale lifetime start).unit (stocked start) = .ok (soldOnce lifetime start) :=
    Engine.commitSale_of_sale hplan first_sale
  have hrefund : (refund "7" 2 start).unit (soldOnce lifetime start) = .ok (paid lifetime start) :=
    rfl
  have hfound : (soldOnce lifetime start).shift? "5" = some (shift start) := rfl
  have hend : Engine.planClose (ids "9") start manager "5" 5 (soldOnce lifetime start) =
      .ok (closed start, ⟨5, 5, 0⟩) := rfl
  have hclose : (lateEnd start).MadeIn (till lifetime)
      [(manager, shift start)] (soldOnce lifetime start) :=
    .close hfound hend
  have hopen : Engine.currentShift manager (soldOnce lifetime start) = .ok (shift start) := rfl
  have hfirst : Engine.planRefund (ids "7") start manager "5" "6" 2 "wilted"
      (soldOnce lifetime start) = .ok (refundUnit "7" 2 start) := rfl
  have hsecond : Engine.planRefund (ids "8") start manager "5" "6" 3 "wilted"
      (soldOnce lifetime start) = .ok (refundUnit "8" 3 start) := rfl
  have hstocked : Race.Later (till lifetime) Cache.access (Race.start start .absent)
      (state start (stocked start) [] [] []) := by
    have hrun := Race.later_run (till lifetime) Cache.access (Race.start start .absent) stocking
    rw [Race.start, run_stocking] at hrun
    exact hrun
  have hsold : Race.Later (till lifetime) Cache.access (Race.start start .absent)
      (state start (soldOnce lifetime start) [] [sale lifetime start] [sale lifetime start]) :=
    .tail (.tail hstocked (.plan (.sale hplan)))
      (.book List.mem_cons_self (Engine.book_eq_ok.2 hsale))
  have hplanned : Race.Later (till lifetime) Cache.access (Race.start start .absent)
      (state start (soldOnce lifetime start) [(manager, shift start)]
        [sale lifetime start, refund "7" 2 start, refund "8" 3 start, lateEnd start]
        [sale lifetime start]) :=
    .tail (.tail (.tail (.tail hsold (.admission hopen))
      (.plan (.refund List.mem_cons_self rfl rfl hfirst)))
      (.plan (.refund List.mem_cons_self rfl rfl hsecond))) (.plan hclose)
  exact ⟨start, .absent, .tail hplanned
    (.book (List.mem_cons_of_mem _ List.mem_cons_self) (Engine.book_eq_ok.2 hrefund))⟩

end LateRequests

/-! ### Refunds and voids in a race -/

namespace Race

variable {κ : Type} {e : Engine} {c : CacheAccess κ} {r r' : Race κ}

/-- **Refunds and voids settle** in a race. -/
structure Settles (e : Engine) (c : CacheAccess κ) (r : Race κ) : Prop where
  /-- What was refunded, voided and put back fits together. -/
  settled : ∀ t ∈ r.store.transactions, r.store.Settled t
  /-- Nothing else was booked for a transaction for which a void was. -/
  exclusive : r.booked.Pairwise fun p q => ¬p.Excludes q
  /-- A plan for a transaction that has changed since it was loaded is refused from then on. -/
  stale : ∀ p ∈ r.waiting, ∀ t, p.loaded? = some t → ∀ t' ∈ r.store.transactions, t'.id = t.id →
    t'.status ≠ t.status ∨ t'.refunded ≠ t.refunded → ∀ r', Later e c r r' →
      ∃ t'' ∈ r'.store.transactions, t''.id = t.id ∧ p.IsRefused t'' r'.store

/-- **Refunds and voids of one transaction settle**, however they were interleaved with each other
and with everything else. -/
theorem settles (h : Reachable e c r) : r.Settles e c := by
  have horderly := h.orderly
  refine ⟨fun t ht => horderly.restocked.settled horderly.sound ht, h.exclusive.pairwise, ?_⟩
  intro p hp t hloaded t' ht' hid hstale r' hlater
  obtain ⟨horderly', hprecedes⟩ := horderly.later hlater
  obtain ⟨hcompleted, s₀, hearlier, ht⟩ := (horderly.waiting p hp).loaded hloaded
  have hfirst := hearlier.transaction horderly.sound.keyed ht ht' hid
  obtain ⟨t'', ht'', hsecond⟩ := hprecedes.transactions t' ht'
  have hid'' : t''.id = t.id := by
    rw [hsecond.same]
    exact hid
  -- A transaction that has changed never becomes again what it was.
  have hstale'' : t''.status ≠ t.status ∨ t''.refunded ≠ t.refunded := by
    rcases hstale with hstatus | hrefunded
    · rw [hsecond.final (by rwa [hcompleted] at hstatus)]
      exact .inl hstatus
    · have hgrown := hfirst.refunded
      have hgrows := hsecond.refunded
      exact .inr (by omega)
  exact ⟨t'', ht'', hid'', (horderly'.waiting p (waiting_later hlater hp)).refused
    horderly'.sound.keyed hloaded ht'' hid'' hstale''⟩

/-- Two refunds were planned and one of them is booked: the other one is refused. -/
theorem settles_lateRefund :
    Reachable (DoubleSale.till 86400000000000) Cache.access (LateRequests.race 86400000000000 ⟨0⟩) ∧
      (LateRequests.race 86400000000000 ⟨0⟩).Settles (DoubleSale.till 86400000000000) Cache.access ∧
      (LateRequests.refund "8" 3 ⟨0⟩).IsRefused { DoubleSale.sold "6" ⟨0⟩ with refunded := 2 }
        (LateRequests.paid 86400000000000 ⟨0⟩) := by
  have hreachable := LateRequests.reachable_race 86400000000000 ⟨0⟩
  have hsettles := settles hreachable
  refine ⟨hreachable, hsettles, ?_⟩
  have hwaits : LateRequests.refund "8" 3 ⟨0⟩ ∈ (LateRequests.race 86400000000000 ⟨0⟩).waiting :=
    List.mem_cons_of_mem _ (List.mem_cons_of_mem _ List.mem_cons_self)
  obtain ⟨t, ht, -, hrefused⟩ := hsettles.stale _ hwaits (DoubleSale.sold "6" ⟨0⟩) rfl
    { DoubleSale.sold "6" ⟨0⟩ with refunded := 2 } List.mem_cons_self rfl (.inr (by decide)) _ .refl
  obtain rfl := List.mem_singleton.1 ht
  exact hrefused

end Race

/-! ### Ends of shifts -/

/-- **The end of a shift comes too late** if the shift was closed meanwhile, or if its log has grown
since it was loaded: it is refused, and nothing is written. -/
theorem Plan.Waits.tooLate {e : Engine} {s : Store} {sh closed : Shift}
    (h : (Plan.close sh closed).Waits e s) (k : s.Keyed) :
    ∃ sh' ∈ s.shifts, sh.Precedes sh' ∧
      (sh'.isOpen = false → Engine.book (Plan.close sh closed).unit s =
        (.error (.rejected (.shiftClosed sh.id)), s)) ∧
      (sh'.isOpen = true → sh.events.length < sh'.events.length →
        Engine.book (Plan.close sh closed).unit s =
          (.error (.rejected (.modifiedConcurrently "Shift" sh.id)), s)) := by
  obtain ⟨s₀, admitted, hearlier, -, hmade⟩ := h
  cases hmade with
  | @close ids now actor id cash sh closed closure found plan =>
    obtain ⟨sh', hsh', hprecedes⟩ := hearlier.shifts sh (Store.shift?_eq_some found).1
    obtain ⟨-, hclose⟩ := Engine.planClose_of_found plan found
    have hfound : s.shift? sh.id = some sh' := by
      rw [← hprecedes.same.1]
      exact Store.shift?_of_mem k hsh'
    obtain ⟨hclosed, hgrown⟩ := Store.closeShift_of_stale hclose hfound
    refine ⟨sh', hsh', hprecedes, ?_, ?_⟩
    · intro hended
      exact Engine.book_of_rejected (hclosed hended)
    · intro hopen hlonger
      exact Engine.book_of_rejected (hgrown hopen (by omega))

namespace Race

variable {κ : Type} {e : Engine} {c : CacheAccess κ} {r : Race κ}

/-- **Shifts close** in a race. -/
structure Closes (e : Engine) (c : CacheAccess κ) (r : Race κ) : Prop where
  /-- The logs of all shifts are in order, and the variances of closed ones account for all
  events. -/
  inOrder : ∀ sh ∈ r.store.shifts, sh.InOrder
  /-- A log only grows. -/
  grows : ∀ sh ∈ r.store.shifts, ∀ r', Later e c r r' → ∃ sh' ∈ r'.store.shifts, sh.Precedes sh'
  /-- A closed shift stays as it is. -/
  stays : ∀ sh ∈ r.store.shifts, sh.isOpen = false → ∀ r', Later e c r r' → sh ∈ r'.store.shifts
  /-- The end of a shift whose log has grown since it was loaded is refused, and so is that of a
  shift that was closed meanwhile. -/
  tooLate : ∀ sh closed, Plan.close sh closed ∈ r.waiting → ∃ sh' ∈ r.store.shifts,
    sh.Precedes sh' ∧
      (sh'.isOpen = false → Engine.book (Plan.close sh closed).unit r.store =
        (.error (.rejected (.shiftClosed sh.id)), r.store)) ∧
      (sh'.isOpen = true → sh.events.length < sh'.events.length →
        Engine.book (Plan.close sh closed).unit r.store =
          (.error (.rejected (.modifiedConcurrently "Shift" sh.id)), r.store))

/-- **The logs of shifts stay in order**, however ends of shifts were interleaved with each other
and with everything that adds events. -/
theorem closes (h : Reachable e c r) : r.Closes e c := by
  have horderly := h.orderly
  refine ⟨horderly.logs.inOrder, ?_, ?_, ?_⟩
  · intro sh hsh r' hlater
    exact (horderly.later hlater).2.shifts sh hsh
  · intro sh hsh hclosed r' hlater
    obtain ⟨sh', hsh', hprecedes⟩ := (horderly.later hlater).2.shifts sh hsh
    exact hprecedes.closed hclosed ▸ hsh'
  · intro sh closed hwaits
    exact (horderly.waiting _ hwaits).tooLate horderly.sound.keyed

/-- A refund is booked after the end of the shift was planned: the end of the shift is refused. -/
theorem closes_lateEnd :
    Reachable (DoubleSale.till 86400000000000) Cache.access (LateRequests.race 86400000000000 ⟨0⟩) ∧
      (LateRequests.race 86400000000000 ⟨0⟩).Closes (DoubleSale.till 86400000000000) Cache.access ∧
      Engine.book (LateRequests.lateEnd ⟨0⟩).unit (LateRequests.paid 86400000000000 ⟨0⟩) =
        (.error (.rejected (.modifiedConcurrently "Shift" "5")),
          LateRequests.paid 86400000000000 ⟨0⟩) := by
  have hreachable := LateRequests.reachable_race 86400000000000 ⟨0⟩
  have hcloses := closes hreachable
  refine ⟨hreachable, hcloses, ?_⟩
  have hwaits : LateRequests.lateEnd ⟨0⟩ ∈ (LateRequests.race 86400000000000 ⟨0⟩).waiting :=
    List.mem_cons_of_mem _ (List.mem_cons_of_mem _ (List.mem_cons_of_mem _ List.mem_cons_self))
  obtain ⟨sh, hsh, -, -, hgrown⟩ := hcloses.tooLate _ _ hwaits
  obtain rfl := List.mem_singleton.1 hsh
  exact hgrown rfl (by decide)

end Race

end Till
