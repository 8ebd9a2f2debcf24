import Mathlib.Logic.Relation
import Till.Proofs.Ledger
import Till.Proofs.Logs

/-!
# Requests that race

Several processes may work on one store.  Then a request looks at the store at one moment, computes
from what it has found what is to be booked, and books it at a later moment, when others may have
booked as well.  `Race` is the state of a till with requests under way, and `Race.Move` what can
happen next:

* an operation takes place from its beginning to its end;
* an actor is admitted to the shift that is open for the actor now;
* a unit of work is planned from the store as it is now (`Plan.MadeIn`);
* a unit of work that was planned at any time before is booked, or booked again.

A plan is thus booked on a store that is not the one it was made from.  What makes this safe is that
a store only moves on (`Store.Precedes`) and that booking tests what the plan has assumed: a plan
that is booked is one that could have been made now (`Plan.Waits.effect`).  So every reachable state
has all that runs of single operations have (`Race.Orderly`).

An operation of the engine that succeeds is such phases, one right after the other
(`Engine.void_phases` and what follows it).
-/

namespace Till

/-! ### Earlier states of a store -/

namespace Store

/-- **A store is an earlier state** of another one, as far as shifts and transactions go. -/
structure Precedes (s later : Store) : Prop where
  shifts : ∀ sh ∈ s.shifts, ∃ sh' ∈ later.shifts, sh.Precedes sh'
  transactions : ∀ t ∈ s.transactions, ∃ t' ∈ later.transactions, t.Precedes t'

/-- **A shift was seen** to be the open one of an actor. -/
def HasSeen (s : Store) (actor : Actor) (sh : Shift) : Prop :=
  ∃ s₀ : Store, s₀.Precedes s ∧ s₀.openShift? actor.cashier actor.store = some sh

variable {s later : Store} {actor : Actor} {sh sh' : Shift} {t t' : Transaction}

theorem Precedes.refl (s : Store) : s.Precedes s :=
  ⟨fun sh h => ⟨sh, h, .refl sh⟩, fun t h => ⟨t, h, .refl t⟩⟩

theorem Precedes.trans {last : Store} (h : s.Precedes later) (h' : later.Precedes last) :
    s.Precedes last where
  shifts sh hsh := by
    obtain ⟨mid, hmid, hprecedes⟩ := h.shifts sh hsh
    obtain ⟨sh', hsh', hprecedes'⟩ := h'.shifts mid hmid
    exact ⟨sh', hsh', hprecedes.trans hprecedes'⟩
  transactions t ht := by
    obtain ⟨mid, hmid, hprecedes⟩ := h.transactions t ht
    obtain ⟨t', ht', hprecedes'⟩ := h'.transactions mid hmid
    exact ⟨t', ht', hprecedes.trans hprecedes'⟩

/-- What a shift has become is the shift with its identifier. -/
theorem Precedes.shift (h : s.Precedes later) (k : later.Keyed) (hsh : sh ∈ s.shifts)
    (hsh' : sh' ∈ later.shifts) (hid : sh'.id = sh.id) : sh.Precedes sh' := by
  obtain ⟨last, hlast, hprecedes⟩ := h.shifts sh hsh
  obtain rfl := List.inj_on_of_nodup_map k.shifts hlast hsh' (hprecedes.same.1.trans hid.symm)
  exact hprecedes

/-- What a transaction has become is the transaction with its identifier. -/
theorem Precedes.transaction (h : s.Precedes later) (k : later.Keyed) (ht : t ∈ s.transactions)
    (ht' : t' ∈ later.transactions) (hid : t'.id = t.id) : t.Precedes t' := by
  obtain ⟨last, hlast, hprecedes⟩ := h.transactions t ht
  have hsame : last.id = t.id := by rw [hprecedes.same]
  obtain rfl := List.inj_on_of_nodup_map k.transactions hlast ht' (hsame.trans hid.symm)
  exact hprecedes

/-- **A void that fits** was planned for the transaction as it is. -/
theorem Precedes.eq_of_voidFits (h : s.Precedes later) (k : later.Keyed) (ht : t ∈ s.transactions)
    {u : VoidUnit} (hid : u.transaction = t.id) (hrefunded : t.refunded = 0) {ev : DrawerEvent}
    (fits : later.VoidFits u t' sh ev) : t' = t := by
  obtain ⟨ht', hid', -⟩ := transaction?_eq_some fits.found
  have hprecedes := h.transaction k ht ht' (hid'.trans hid)
  exact hprecedes.eq_of_refunded fits.completed (fits.unrefunded.trans hrefunded.symm)

/-- **A refund that fits** was planned for the transaction as it is. -/
theorem Precedes.eq_of_refundFits (h : s.Precedes later) (k : later.Keyed)
    (ht : t ∈ s.transactions) {u : RefundUnit} {ids : Ids} {now : Instant} {shift reason : String}
    {amount : Int} {refunded : Transaction} {units : List RestockLine}
    (hunit : u = Engine.refundUnit ids now actor shift amount reason t refunded units)
    {ev : DrawerEvent} (fits : later.RefundFits u t' sh ev) : t' = t := by
  obtain ⟨ht', hid', -⟩ := transaction?_eq_some fits.found
  have hid : u.refund.transaction = t.id := by rw [hunit]; rfl
  have hbefore : u.refundedBefore = t.refunded := by rw [hunit]; rfl
  have hprecedes := h.transaction k ht ht' (hid'.trans hid)
  exact hprecedes.eq_of_refunded fits.completed (fits.before.trans hbefore)

/-- **The end of a shift that fits** was planned for the shift as it is. -/
theorem Precedes.eq_of_closeFits (h : s.Precedes later) (k : later.Keyed) (hsh : sh ∈ s.shifts)
    {id : String} {cash : Int} {now : Instant} {closed : Shift} {closure : ShiftClosure}
    (close : sh.IsClose id cash now closed closure) {ev : DrawerEvent}
    (fits : later.CloseFits closed sh' ev) : sh' = sh := by
  obtain ⟨hsh', hid'⟩ := shift?_eq_some fits.found
  have hid : closed.id = sh.id := by rw [close.closed]; rfl
  have hlength := fits.length
  rw [close.events, List.length_append, List.length_singleton] at hlength
  exact (h.shift k hsh hsh' (hid'.trans hid)).eq_of_length fits.isOpen (by omega)

theorem HasSeen.mono (h : s.HasSeen actor sh) (hlater : s.Precedes later) :
    later.HasSeen actor sh := by
  obtain ⟨s₀, hearlier, hopen⟩ := h
  exact ⟨s₀, hearlier.trans hlater, hopen⟩

/-- **A shift that was seen and gets an event** is still the open one of the actor. -/
theorem HasSeen.appends (h : s.HasSeen actor sh) (k : s.Keyed) (logs : s.Logs) {ev : DrawerEvent}
    (appends : s.Appends sh' ev) (hid : ev.shift = sh.id) :
    s.openShift? actor.cashier actor.store = some sh' ∧ sh'.id = sh.id := by
  obtain ⟨s₀, hearlier, hseen⟩ := h
  obtain ⟨hsh, hcashier, hstore, -⟩ := openShift?_eq_some hseen
  obtain ⟨hsh', hid'⟩ := shift?_eq_some appends.found
  have hsame := hid'.trans hid
  obtain ⟨-, hcashier', hstore', -⟩ := (hearlier.shift k hsh hsh' hsame).same
  refine ⟨?_, hsame⟩
  rw [← hcashier, ← hstore, ← hcashier', ← hstore']
  exact logs.openShift?_eq hsh' appends.isOpen

end Store

/-! ### Plans -/

/-- **A unit of work that was planned**, with what was loaded for it. -/
inductive Plan where
  /-- A sale. -/
  | sale (unit : SaleUnit)
  /-- The void of a transaction. -/
  | void (loaded : Transaction) (unit : VoidUnit)
  /-- The refund of a part of a transaction. -/
  | refund (loaded : Transaction) (unit : RefundUnit)
  /-- The end of a shift. -/
  | close (loaded closed : Shift)
  /-- An entry made by hand in the log of a shift. -/
  | entry (loaded : Shift) (id : String) (made : DrawerEntry) (now : Instant)

namespace Plan

/-- What is booked. -/
def unit : Plan → Store → Stored Store
  | .sale u, s => s.commitSale u
  | .void _ u, s => s.commitVoid u
  | .refund _ u, s => s.commitRefund u
  | .close _ closed, s => s.closeShift closed
  | .entry sh id made now, s => do
    let (after, _) ← s.appendEntry sh.id id made now
    pure after

/-- Whether a sale is booked. -/
def isSale : Plan → Bool
  | .sale _ => true
  | _ => false

/-- **A plan is made** from a store by an engine, for actors that were admitted to their shifts. -/
inductive MadeIn (e : Engine) (admitted : List (Actor × Shift)) (s : Store) : Plan → Prop
  /-- A cart is priced in the open shift of the actor. -/
  | sale {ids : Ids} {now : Instant} {actor : Actor} {cart : Cart} {claim : Claim} {u : SaleUnit}
      (plan : e.planSale ids now actor cart claim s = .ok u) : MadeIn e admitted s (.sale u)
  /-- A transaction is loaded and found to be one that can be voided. -/
  | void {ids : Ids} {now : Instant} {actor : Actor} {sh : Shift} {id reason : String}
      {t voided : Transaction}
      (admits : (actor, sh) ∈ admitted) (elevated : actor.isElevated = true)
      (found : Engine.transaction actor id s = .ok t)
      (voids : t.void reason actor.approver now e.voidWindow = .ok voided) :
      MadeIn e admitted s (.void t (Engine.voidUnit ids now actor sh reason t))
  /-- A transaction is loaded and a part of it refunded. -/
  | refund {ids : Ids} {now : Instant} {actor : Actor} {sh : Shift} {id reason : String}
      {amount : Int} {t : Transaction} {u : RefundUnit}
      (admits : (actor, sh) ∈ admitted) (elevated : actor.isElevated = true)
      (found : Engine.transaction actor id s = .ok t)
      (plan : Engine.planRefund ids now actor sh.id id amount reason s = .ok u) :
      MadeIn e admitted s (.refund t u)
  /-- A shift is loaded and closed. -/
  | close {ids : Ids} {now : Instant} {actor : Actor} {id : String} {cash : Int}
      {sh closed : Shift} {closure : ShiftClosure} (found : s.shift? id = some sh)
      (plan : Engine.planClose ids now actor id cash s = .ok (closed, closure)) :
      MadeIn e admitted s (.close sh closed)
  /-- A shift is loaded and found to be open. -/
  | entry {ids : Ids} {now : Instant} {actor : Actor} {id action : String} {sh : Shift}
      {entry : DrawerEntry} (check : Engine.checkManualEntry entry = .ok ())
      (owned : Engine.ownedShift actor id action s = .ok sh) (isOpen : sh.isOpen = true) :
      MadeIn e admitted s (.entry sh ids.event entry now)

/-- **A plan waits** if it was made from an earlier state of the store. -/
def Waits (e : Engine) (s : Store) (p : Plan) : Prop :=
  ∃ s₀ admitted, s₀.Precedes s ∧ (∀ a ∈ admitted, s₀.HasSeen a.1 a.2) ∧ p.MadeIn e admitted s₀

end Plan

/-! ### What a plan does when it is booked -/

/-- **What an engine with requests under way does to a store**: what it does with one request at a
time, a sale under a claim of any time, or a change of stored outcomes. -/
inductive Effect (e : Engine) (s : Store) : Store → Prop
  /-- A change as in a single operation. -/
  | change {now : Instant} {after : Store} (change : Change e now s after) : Effect e s after
  /-- A cart is sold, whenever its key was looked up. -/
  | sold {ids : Ids} {now : Instant} {actor : Actor} {cart : Cart} {claim : Claim} {u : SaleUnit}
      {sh : Shift} {ev : DrawerEvent}
      (plan : e.planSale ids now actor cart claim s = .ok u)
      (fits : s.SaleFits u sh ev) : Effect e s (s.afterSale u ev)
  /-- Only stored outcomes come and go. -/
  | outcomes (kept : List OutcomeRecord) : Effect e s { s with outcomes := kept }

namespace Effect

variable {e : Engine} {s after : Store}

theorem logs (h : Effect e s after) : LogChange s after := by
  cases h with
  | change change => exact change.logs
  | sold plan fits => exact Engine.planSale_logs plan fits
  | outcomes => exact .none rfl

theorem ledger (h : Effect e s after) : LedgerChange s after := by
  cases h with
  | change change => exact change.ledger
  | sold plan fits => exact Engine.planSale_ledger plan fits
  | outcomes => exact .none rfl rfl rfl

theorem sound (h : Effect e s after) (sound : s.Sound) : after.Sound := by
  cases h with
  | change change => exact sound.change change
  | sold plan fits =>
    have keyed := sound.keyed
    refine ⟨⟨Store.nodup_logged keyed.shifts _, ?_, keyed.orders⟩,
      sound.balanced.afterSale keyed plan fits, sound.stocked.afterSale plan fits⟩
    exact Rows.nodup_concat keyed.transactions (Store.hasTransaction_eq_false.1 fits.fresh)
  | outcomes =>
    have keyed := sound.keyed
    exact ⟨⟨keyed.shifts, keyed.transactions, keyed.orders⟩, sound.balanced.of_same rfl rfl rfl,
      sound.stocked.of_same rfl rfl rfl⟩

theorem precedes (h : Effect e s after) (k : s.Keyed) (logs : s.Logs) : s.Precedes after :=
  ⟨logs.precedes k h.logs, h.ledger.precedes k⟩

end Effect

namespace Engine

variable {e : Engine} {ids : Ids} {now : Instant} {actor : Actor} {s s' : Store}

/-- What a sale looks at is which shift of the actor is open. -/
theorem planSale_of_openShift? {cart : Cart} {claim : Claim} {u : SaleUnit} {sh sh' : Shift}
    (h : e.planSale ids now actor cart claim s = .ok u)
    (hopen : s.openShift? actor.cashier actor.store = some sh)
    (hopen' : s'.openShift? actor.cashier actor.store = some sh') (hid : sh'.id = sh.id) :
    e.planSale ids now actor cart claim s' = .ok u := by
  rw [← currentShift_eq_ok] at hopen hopen'
  simp only [planSale, hopen, hopen', hid, bind, Except.bind] at h ⊢
  exact h

/-- The refund of a transaction that was found. -/
theorem planRefund_of_found {shift id reason : String} {amount : Int} {t : Transaction}
    {u : RefundUnit} (h : planRefund ids now actor shift id amount reason s = .ok u)
    (found : transaction actor id s = .ok t) :
    ∃ refunded units, t.IsRefund amount refunded units ∧
      u = refundUnit ids now actor shift amount reason t refunded units := by
  obtain ⟨t', refunded, units, -, hfound, hrefund, hunit⟩ := planRefund_eq_ok h
  obtain rfl : t' = t := Option.some.inj (hfound.symm.trans (transaction_eq_ok.1 found))
  exact ⟨refunded, units, hrefund, hunit⟩

/-- The end of a shift that was found. -/
theorem planClose_of_found {id : String} {cash : Int} {sh closed : Shift} {closure : ShiftClosure}
    (h : planClose ids now actor id cash s = .ok (closed, closure))
    (found : s.shift? id = some sh) :
    sh.store = actor.store ∧ sh.IsClose ids.event cash now closed closure := by
  obtain ⟨sh', hfound, -, hhandles, hclose⟩ := planClose_eq_ok h
  obtain rfl : sh' = sh := Option.some.inj (hfound.symm.trans found)
  exact ⟨hhandles.store, hclose⟩

/-- A sale under a claim books its plan. -/
theorem commitSale_of_sale {cart : Cart} {claim : Claim} {u : SaleUnit} {t : Transaction}
    {after : Store} (plan : e.planSale ids now actor cart claim s = .ok u)
    (h : e.sale ids now actor cart claim s = .ok (t, after)) : s.commitSale u = .ok after := by
  simp only [sale, Outcome.bind_eq_ok, Stored.result_eq_ok, Outcome.pure_eq_ok,
    Prod.mk.injEq] at h
  obtain ⟨u', hplan, _, hcommit, -, rfl⟩ := h
  rw [plan] at hplan
  cases hplan
  exact hcommit

theorem book_eq_ok {unit : Store → Stored Store} {after : Store} :
    book unit s = (.ok (), after) ↔ unit s = .ok after := by
  simp [book, Action.transact_eq_ok]

end Engine

namespace Plan

variable {e : Engine} {p : Plan} {s later after : Store}

theorem Waits.mono (h : p.Waits e s) (hlater : s.Precedes later) : p.Waits e later := by
  obtain ⟨s₀, admitted, hearlier, hadmitted, hmade⟩ := h
  exact ⟨s₀, admitted, hearlier.trans hlater, hadmitted, hmade⟩

/-- **A plan that is booked is one that could have been made now**: what it has assumed is tested
when it is booked. -/
theorem Waits.effect (h : p.Waits e s) (k : s.Keyed) (logs : s.Logs)
    (hbook : p.unit s = .ok after) : Effect e s after := by
  obtain ⟨s₀, admitted, hearlier, hadmitted, hmade⟩ := h
  cases hmade with
  | @sale ids now actor cart claim u plan =>
    obtain ⟨sh, ev, fits, rfl⟩ := Store.commitSale_eq_ok hbook
    obtain ⟨sh₀, pricing, totals, hopen, -, hunit⟩ := Engine.planSale_eq_ok plan
    have hseen : s.HasSeen actor sh₀ := ⟨s₀, hearlier, hopen⟩
    obtain ⟨hstill, hsame⟩ := hseen.appends k logs fits.appends (by rw [fits.entry, hunit]; rfl)
    exact .sold (Engine.planSale_of_openShift? plan hopen hstill hsame) fits
  | @void ids now actor sh₀ id reason t voided admits elevated found voids =>
    obtain ⟨t', sh, ev, fits, rfl⟩ := Store.commitVoid_eq_ok hbook
    obtain ⟨hvoidable, -⟩ := Transaction.void_eq_ok voids
    obtain ⟨ht, -, hstore⟩ := Store.transaction?_eq_some (Engine.transaction_eq_ok.1 found)
    obtain rfl := hearlier.eq_of_voidFits k ht rfl hvoidable.2.1 fits
    have hseen := (hadmitted _ admits).mono hearlier
    obtain ⟨hstill, hsame⟩ := hseen.appends k logs fits.appends (by rw [fits.entry]; rfl)
    have hunit : Engine.voidUnit ids now actor sh₀ reason t' =
        Engine.voidUnit ids now actor sh reason t' := by
      simp only [Engine.voidUnit, hsame]
    exact .change (.voided ⟨elevated, hstill, hstore ▸ fits.found, hvoidable, hunit⟩ fits)
  | @refund ids now actor sh₀ id reason amount t u admits elevated found plan =>
    obtain ⟨t', sh, ev, fits, rfl⟩ := Store.commitRefund_eq_ok hbook
    obtain ⟨refunded, units, hrefund, hunit⟩ := Engine.planRefund_of_found plan found
    obtain ⟨ht, -, hstore⟩ := Store.transaction?_eq_some (Engine.transaction_eq_ok.1 found)
    obtain rfl := hearlier.eq_of_refundFits k ht hunit fits
    have hseen := (hadmitted _ admits).mono hearlier
    obtain ⟨hstill, hsame⟩ := hseen.appends k logs fits.appends (by rw [fits.entry, hunit]; rfl)
    rw [← hsame] at hunit
    exact .change (.refunded elevated hstill hstore hrefund hunit fits)
  | @close ids now actor id cash sh closed closure found plan =>
    obtain ⟨sh', ev, fits, rfl⟩ := Store.closeShift_eq_ok hbook
    obtain ⟨hstore, hclose⟩ := Engine.planClose_of_found plan found
    obtain rfl := hearlier.eq_of_closeFits k (Store.shift?_eq_some found).1 hclose fits
    exact .change (.shiftClosed hstore hclose fits)
  | @entry ids now actor id action sh entry check owned isOpen =>
    simp only [unit, Outcome.bind_eq_ok, Outcome.pure_eq_ok] at hbook
    obtain ⟨⟨_, ev⟩, happend, rfl⟩ := hbook
    obtain ⟨sh', hplace, happends, rfl⟩ := Store.appendEntry_eq_ok happend
    obtain ⟨hfound, -, hhandles⟩ := Engine.ownedShift_eq_ok owned
    have hid : ev.shift = sh.id := by rw [hplace]; rfl
    obtain ⟨hsh', hid'⟩ := Store.shift?_eq_some happends.found
    have hprecedes := hearlier.shift k (Store.shift?_eq_some hfound).1 hsh' (hid'.trans hid)
    obtain ⟨-, -, hstore', -⟩ := hprecedes.same
    rw [← hid'.trans hid] at hplace
    exact .change (.entryRecorded check (hstore'.trans hhandles.store) hplace happends)

end Plan

/-! ### Operations in one piece -/

namespace Engine

variable {e : Engine} {ids : Ids} {now : Instant} {actor : Actor} {s after : Store}

/-- A void is an admission, a plan and its booking, one right after the other. -/
theorem void_phases {id reason : String} {voided : Transaction}
    (h : e.void ids now actor id reason s = (.ok voided, after)) :
    ∃ sh t u, currentShift actor s = .ok sh ∧ (Plan.void t u).MadeIn e [(actor, sh)] s ∧
      book (Plan.void t u).unit s = (.ok (), after) := by
  simp only [void, planVoid, Actor.requireElevated, Action.transact_eq_ok, Outcome.bind_eq_ok,
    Outcome.require_eq_ok, Stored.result_eq_ok, Outcome.pure_eq_ok, Prod.mk.injEq] at h
  obtain ⟨⟨_, u⟩, ⟨_, helevated, sh, hshift, t, hfound, _, hvoid, -, rfl⟩, _, hcommit, -, rfl⟩ := h
  exact ⟨sh, t, _, hshift, .void List.mem_cons_self helevated hfound hvoid, book_eq_ok.2 hcommit⟩

/-- So is a refund. -/
theorem refund_phases {id reason : String} {amount : Int} {r : Refund}
    (h : e.refund ids now actor id amount reason s = (.ok r, after)) :
    ∃ sh t u, currentShift actor s = .ok sh ∧ (Plan.refund t u).MadeIn e [(actor, sh)] s ∧
      book (Plan.refund t u).unit s = (.ok (), after) := by
  rw [refund_eq] at h
  simp only [Action.transact_eq_ok, Outcome.bind_eq_ok, Stored.result_eq_ok, Outcome.pure_eq_ok,
    Prod.mk.injEq] at h
  obtain ⟨sh, hshift, u, hplan, _, hcommit, -, rfl⟩ := h
  obtain ⟨helevated, hopen⟩ := refundShift_eq_ok hshift
  obtain ⟨t, -, -, -, hfound, -, -⟩ := planRefund_eq_ok hplan
  exact ⟨sh, t, u, currentShift_eq_ok.2 hopen,
    .refund List.mem_cons_self helevated (transaction_eq_ok.2 hfound) hplan,
    book_eq_ok.2 hcommit⟩

/-- The end of a shift is a plan and its booking, one right after the other. -/
theorem closeShift_phases {id : String} {cash : Int} {closure : ShiftClosure}
    (h : e.closeShift ids now actor id cash s = (.ok closure, after)) :
    ∃ sh closed, (Plan.close sh closed).MadeIn e [] s ∧
      book (Plan.close sh closed).unit s = (.ok (), after) := by
  simp only [closeShift, RetryPolicy.runWhen, RetryPolicy.attempt_transact, Action.transact_eq_ok,
    Outcome.bind_eq_ok, Stored.result_eq_ok, Outcome.pure_eq_ok, Prod.mk.injEq] at h
  obtain ⟨⟨closed, _⟩, hplan, _, hcommit, -, rfl⟩ := h
  obtain ⟨sh, hfound, -, -, -⟩ := planClose_eq_ok hplan
  exact ⟨sh, closed, .close hfound hplan, book_eq_ok.2 hcommit⟩

/-- So is an entry made by hand. -/
theorem recordEntry_phases {id : String} {entry : DrawerEntry} {ev : DrawerEvent}
    (h : recordEntry ids now actor id entry s = (.ok ev, after)) :
    ∃ sh, (Plan.entry sh ids.event entry now).MadeIn e [] s ∧
      book (Plan.entry sh ids.event entry now).unit s = (.ok (), after) := by
  simp only [recordEntry, Shift.checkOpen, Action.transact_eq_ok, Outcome.bind_eq_ok,
    Field.Check.run_eq_ok, Outcome.require_eq_ok, Stored.result_eq_ok, Outcome.pure_eq_ok,
    Prod.mk.injEq] at h
  obtain ⟨_, hcheck, sh, howned, _, hopen, ⟨_, _⟩, happend, -, rfl⟩ := h
  refine ⟨sh, .entry hcheck howned hopen, book_eq_ok.2 ?_⟩
  simp only [Plan.unit, happend, Outcome.bind_eq_ok, Outcome.pure_eq_ok]
  exact ⟨_, rfl, rfl⟩

/-- A sale under a claim is a plan and its booking, one right after the other. -/
theorem sell_phases {cart : Cart} {claim : Claim} {t : Transaction}
    (h : e.sell ids now actor cart claim s = (.ok t, after)) :
    ∃ u, u.transaction = t ∧ (Plan.sale u).MadeIn e [] s ∧
      book (Plan.sale u).unit s = (.ok (), after) := by
  rw [sell_eq] at h
  simp only [sale, Action.transact_eq_ok, Outcome.bind_eq_ok, Stored.result_eq_ok,
    Outcome.pure_eq_ok, Prod.mk.injEq] at h
  obtain ⟨u, hplan, _, hcommit, ht, rfl⟩ := h
  exact ⟨u, ht, .sale hplan, book_eq_ok.2 hcommit⟩

end Engine

/-! ### Races -/

/-- **A till with requests under way.** -/
structure Race (κ : Type) where
  /-- The world. -/
  world : World κ
  /-- The shifts that actors were admitted to. -/
  admitted : List (Actor × Shift) := []
  /-- The plans that were made.  A plan may be booked more than once, as a request whose answer was
  lost is sent again. -/
  waiting : List Plan := []
  /-- The plans that were booked, in order. -/
  booked : List Plan := []

namespace Race

variable {κ : Type}

/-- The store. -/
def store (r : Race κ) : Store := r.world.store

/-- Nothing is stored and nothing under way. -/
def start (now : Instant) (cache : κ) : Race κ := { world := World.empty now cache }

/-- **What can happen next.** -/
inductive Move (e : Engine) (c : CacheAccess κ) (r : Race κ) : Race κ → Prop
  /-- A step of a till from its beginning to its end. -/
  | whole (step : Step κ) : Move e c r { r with world := e.apply c r.world step }
  /-- An actor is admitted to the open shift. -/
  | admission {actor : Actor} {sh : Shift} (shift : Engine.currentShift actor r.store = .ok sh) :
      Move e c r { r with admitted := r.admitted ++ [(actor, sh)] }
  /-- A unit of work is planned. -/
  | plan {p : Plan} (made : p.MadeIn e r.admitted r.store) :
      Move e c r { r with waiting := r.waiting ++ [p] }
  /-- A plan is booked. -/
  | book {p : Plan} {after : Store} (waits : p ∈ r.waiting)
      (done : Engine.book p.unit r.store = (.ok (), after)) :
      Move e c r { r with world := { r.world with store := after }, booked := r.booked ++ [p] }

/-- **A state comes later** than another one: moves lead from one to the other. -/
def Later (e : Engine) (c : CacheAccess κ) : Race κ → Race κ → Prop :=
  Relation.ReflTransGen (Move e c)

/-- **A state can be reached.** -/
def Reachable (e : Engine) (c : CacheAccess κ) (r : Race κ) : Prop :=
  ∃ now cache, Later e c (start now cache) r

/-- **A race is in order**: the tables are, and what was planned was planned from earlier states of
the store. -/
structure Orderly (e : Engine) (r : Race κ) : Prop where
  sound : r.store.Sound
  logs : r.store.Logs
  restocked : r.store.Restocked
  admitted : ∀ a ∈ r.admitted, r.store.HasSeen a.1 a.2
  waiting : ∀ p ∈ r.waiting, p.Waits e r.store

variable {e : Engine} {c : CacheAccess κ} {r r' : Race κ}

theorem orderly_start (e : Engine) (now : Instant) (cache : κ) : (start now cache).Orderly e :=
  ⟨Store.sound_empty, Store.logs_empty, Store.restocked_empty,
    fun _ h => absurd h List.not_mem_nil, fun _ h => absurd h List.not_mem_nil⟩

/-- **A move leaves the store alone or has one of the effects listed.** -/
theorem Orderly.effect (h : r.Orderly e) (hmove : Move e c r r') :
    r'.store = r.store ∨ Effect e r.store r'.store := by
  cases hmove with
  | whole step => exact (e.apply_change c r.world step).imp id .change
  | admission => exact .inl rfl
  | plan => exact .inl rfl
  | @book p after waits done =>
    exact .inr ((h.waiting p waits).effect h.sound.keyed h.logs (Engine.book_eq_ok.1 done))

/-- A store that was left alone or has changed in one of the ways listed is a later one. -/
theorem Orderly.precedes_of (h : r.Orderly e) {after : Store}
    (hstep : after = r.store ∨ Effect e r.store after) : r.store.Precedes after := by
  rcases hstep with rfl | heffect
  · exact .refl _
  · exact heffect.precedes h.sound.keyed h.logs

theorem Orderly.precedes (h : r.Orderly e) (hmove : Move e c r r') : r.store.Precedes r'.store :=
  h.precedes_of (h.effect hmove)

/-- **A world whose store has changed in one of the ways listed** keeps a race in order. -/
theorem Orderly.of_world (h : r.Orderly e) {w : World κ}
    (hstep : w.store = r.store ∨ Effect e r.store w.store) :
    Orderly e { r with world := w } := by
  have hprecedes := h.precedes_of hstep
  have htables : w.store.Sound ∧ w.store.Logs ∧ w.store.Restocked := by
    rcases hstep with hsame | heffect
    · rw [hsame]
      exact ⟨h.sound, h.logs, h.restocked⟩
    · exact ⟨heffect.sound h.sound, h.logs.change h.sound.keyed heffect.logs,
        h.restocked.change h.sound heffect.ledger⟩
  obtain ⟨sound, logs, restocked⟩ := htables
  refine ⟨sound, logs, restocked, ?_, ?_⟩
  · intro a ha
    exact (h.admitted a ha).mono hprecedes
  · intro p hp
    exact (h.waiting p hp).mono hprecedes

/-- **Every move keeps a race in order.** -/
theorem Orderly.move (h : r.Orderly e) (hmove : Move e c r r') : r'.Orderly e := by
  have heffect := h.effect hmove
  cases hmove with
  | whole step => exact h.of_world heffect
  | @admission actor sh shift =>
    refine ⟨h.sound, h.logs, h.restocked, ?_, h.waiting⟩
    intro a ha
    rcases List.mem_append.1 ha with ha | ha
    · exact h.admitted a ha
    · rw [List.mem_singleton.1 ha]
      exact ⟨r.store, .refl _, Engine.currentShift_eq_ok.1 shift⟩
  | @plan p made =>
    refine ⟨h.sound, h.logs, h.restocked, h.admitted, ?_⟩
    intro q hq
    rcases List.mem_append.1 hq with hq | hq
    · exact h.waiting q hq
    · rw [List.mem_singleton.1 hq]
      exact ⟨r.store, r.admitted, .refl _, h.admitted, made⟩
  | @book p after waits done =>
    have horderly := h.of_world (w := { r.world with store := after }) heffect
    exact ⟨horderly.sound, horderly.logs, horderly.restocked, horderly.admitted, horderly.waiting⟩

theorem Orderly.later (h : r.Orderly e) (hlater : Later e c r r') :
    r'.Orderly e ∧ r.store.Precedes r'.store := by
  induction hlater with
  | refl => exact ⟨h, .refl _⟩
  | tail _ hmove ih => exact ⟨ih.1.move hmove, ih.2.trans (ih.1.precedes hmove)⟩

/-- A race in which only whole steps are taken is a run. -/
theorem later_run (e : Engine) (c : CacheAccess κ) (r : Race κ) (steps : List (Step κ)) :
    Later e c r { r with world := e.run c r.world steps } := by
  induction steps generalizing r with
  | nil => exact .refl
  | cons step steps ih => exact .head (.whole step) (ih { r with world := e.apply c r.world step })

/-- **Every state that can be reached is in order.** -/
theorem Reachable.orderly (h : Reachable e c r) : r.Orderly e := by
  obtain ⟨now, cache, hlater⟩ := h
  exact ((orderly_start e now cache).later hlater).1

/-- What waits, waits on. -/
theorem waiting_later (hlater : Later e c r r') : r.waiting ⊆ r'.waiting := by
  induction hlater with
  | refl => exact List.Subset.refl _
  | tail _ hmove ih =>
    cases hmove with
    | plan => exact List.Subset.trans ih (List.subset_append_left _ _)
    | whole | admission | book => exact ih

end Race

end Till
