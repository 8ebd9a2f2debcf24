import Till.Proofs.AtMostOnce
import Till.Proofs.Race

/-!
# Requests to sell, phase by phase

A request to sell under a key looks for an outcome under the key, is planned, is booked and, if it
has failed, settled.  Between two phases others may work on the store.

* `Checkout.advance` : the next phase of a request; the phases of a request that is alone are
  `Engine.sellOnce` (`Checkout.advance_alone`);
* `KeyEvent` : what a phase, or anything else, does to stored outcomes and to the list of sales;
* `Store.KeyState.event` : as long as records are live at all instants shown, the outcome that was
  entered first stays the one outcome under its key, and a sale the one sale;
* `Checkout.advances` : what a phase does to the store, and where its answer comes from.
-/

namespace Till

open Engine (KeyUse)

/-- A request to sell a cart under a key. -/
structure Checkout where
  /-- The identifiers for what it creates. -/
  ids : Ids
  /-- The actor. -/
  actor : Actor
  /-- The cart. -/
  cart : Cart
  /-- The key. -/
  key : String

/-- The use of a key that a claim was made for. -/
def Claim.use (claim : Claim) : KeyUse :=
  ⟨claim.store, claim.cashier, claim.key, claim.createdAt⟩

namespace Checkout

/-! ### Phases -/

/-- **What has become of a request to sell.** -/
inductive Phase where
  /-- It has arrived. -/
  | arrived
  /-- Nothing was found under its key. -/
  | claimed (claim : Claim)
  /-- It was planned. -/
  | planned (claim : Claim) (unit : SaleUnit)
  /-- It was booked. -/
  | sold (t : Transaction)
  /-- It could not be planned or booked. -/
  | stopped (claim : Claim) (fault : Fault Rejection)
  /-- It was answered after it could not be planned or booked. -/
  | settled (fault : Fault Rejection) (result : Result Transaction)
  /-- It was answered at once. -/
  | answered (result : Result Transaction)

namespace Phase

/-- The answer. -/
def answer? : Phase → Option (Result Transaction)
  | sold t => some (.ok t)
  | settled _ result => some result
  | answered result => some result
  | _ => none

/-- Whether the key was found taken when the request was to be booked. -/
def isLost : Phase → Bool
  | stopped _ (.rejected (.inFlight _)) => true
  | settled (.rejected (.inFlight _)) _ => true
  | _ => false

end Phase

/-- The use of the key at an instant. -/
def use (q : Checkout) (now : Instant) : KeyUse := ⟨q.actor.store, q.actor.cashier, q.key, now⟩

/-- **The next phase of a request**, and the store afterwards.  The key is used at the time of the
first phase, in the last phase too.  A booking that is tried again is one that takes place later. -/
def advance (e : Engine) (q : Checkout) (now : Instant) : Phase × Store → Phase × Store
  | (.arrived, s) =>
    match (Field.key q.key).run with
    | .error fault => (.answered (.error fault), s)
    | .ok () =>
      match (q.use now).record? s with
      | some r => (.answered (r.outcome.replay Transaction.ofJson?), s)
      | none =>
        match Claim.make q.actor.store q.actor.cashier q.key now e.keyLifetime with
        | .error fault => (.answered (.error fault), s)
        | .ok claim => (.claimed claim, s)
  | (.claimed claim, s) =>
    match e.planSale q.ids now q.actor q.cart claim s with
    | .error fault => (.stopped claim fault, s)
    | .ok u => (.planned claim u, s)
  | (.planned claim u, s) =>
    match Engine.book (fun s => s.commitSale u) s with
    | (.error fault, after) => (.stopped claim fault, after)
    | (.ok (), after) => (.sold u.transaction, after)
  | (.stopped claim fault, s) =>
    let (result, after) := Engine.settle claim.use claim Transaction.ofJson? (.error fault, s)
    (.settled fault result, after)
  | (p, s) => (p, s)

/-- **The phases of a request that is alone** are a sale at most once under the key. -/
theorem advance_alone (e : Engine) (q : Checkout) (now : Instant) (s : Store) :
    ∃ p, (q.advance e now)^[4] (.arrived, s) =
        (p, (e.sellOnce q.ids now q.actor q.cart q.key s).2) ∧
      p.answer? = some (e.sellOnce q.ids now q.actor q.cart q.key s).1 := by
  have hiterate : ∀ x, (q.advance e now)^[4] x =
      q.advance e now (q.advance e now (q.advance e now (q.advance e now x))) := fun _ => rfl
  rw [hiterate]
  unfold Engine.sellOnce Engine.once
  cases hkey : (Field.key q.key).run with
  | error fault =>
    simp only [advance, hkey]
    exact ⟨_, rfl, rfl⟩
  | ok _ =>
    cases hfound : (q.use now).record? s with
    | some r =>
      have hrecord := hfound
      rw [use] at hrecord
      simp only [advance, hkey, hfound, hrecord]
      exact ⟨_, rfl, rfl⟩
    | none =>
      have hfree := hfound
      rw [use] at hfree
      cases hmade : Claim.make q.actor.store q.actor.cashier q.key now e.keyLifetime with
      | error fault =>
        simp only [advance, hkey, hfound, hfree, hmade]
        exact ⟨_, rfl, rfl⟩
      | ok claim =>
        obtain ⟨-, hclaim⟩ := Claim.make_eq_ok.1 hmade
        have huse : claim.use = ⟨q.actor.store, q.actor.cashier, q.key, now⟩ := by
          rw [hclaim]
          rfl
        simp only [advance, hkey, hfound, hfree, hmade, Engine.sell_eq, Action.transact,
          Engine.sale]
        cases hplan : e.planSale q.ids now q.actor q.cart claim s with
        | error fault =>
          simp only [bind, Except.bind, huse]
          exact ⟨_, rfl, rfl⟩
        | ok u =>
          simp only [bind, Except.bind, Engine.book, Action.transact]
          cases hcommit : (s.commitSale u).result with
          | error fault =>
            simp only [huse]
            exact ⟨_, rfl, rfl⟩
          | ok after => exact ⟨_, rfl, rfl⟩

end Checkout

/-! ### What happens under keys -/

namespace Transaction

/-- The transaction as it was when it was sold. -/
def asSold (t : Transaction) : Transaction :=
  { t with
    status := .completed
    refunded := 0
    voidedAt := none
    voidReason := none
    voidedBy := none }

variable {t later : Transaction}

theorem Precedes.asSold (h : t.Precedes later) : later.asSold = t.asSold := by
  rw [h.same]
  rfl

/-- **A transaction is new under a key** since the store was an older one. -/
def IsNew (k : KeyUse) (old : Store) (t : Transaction) : Prop :=
  t.use.Same k ∧ t.id ∉ old.transactions.map (·.id)

theorem Precedes.isNew {k : KeyUse} {old : Store} (h : t.Precedes later) (hnew : t.IsNew k old) :
    later.IsNew k old := by
  rw [h.same]
  exact hnew

end Transaction

namespace Store

/-- The sales, with the uses of keys that they were made under. -/
def sales (s : Store) : List (String × KeyUse) := s.transactions.map fun t => (t.id, t.use)

/-- **A record is entered** under a key when no live record stands there. -/
structure Enters (lifetime : Int) (shown : Instant → Prop) (s after : Store) (k : KeyUse)
    (r : OutcomeRecord) : Prop where
  /-- It is entered at an instant that was shown. -/
  time : shown k.now
  free : k.record? s = none
  owned : k.owns r = true
  /-- Its lifetime began at an instant that was shown. -/
  expiry : ∃ start, shown start ∧ r.expiresAt = start.shift lifetime
  outcomes : after.outcomes = (s.outcomes.filter fun o => !k.owns o) ++ [r]

variable {lifetime : Int} {shown : Instant → Prop} {s after : Store} {k k' : KeyUse}
  {r : OutcomeRecord} {now : Instant}

theorem outcome?_of_unclaimed
    (h : (s.forgetExpired r now).hasOutcome r.store r.cashier r.key = false) :
    s.outcome? r.store r.cashier r.key now = none := by
  refine List.find?_eq_none.2 ?_
  intro o ho hfound
  obtain ⟨hbelongs, hlive⟩ := Bool.and_eq_true_iff.1 hfound
  -- The record is not forgotten, as it has not expired.
  have hkept : o ∈ (s.forgetExpired r now).outcomes :=
    List.mem_filter.2 ⟨ho, by rw [hbelongs, hlive]; rfl⟩
  exact absurd hbelongs (Bool.not_eq_true _ ▸ List.any_eq_false.1 h o hkept)

theorem enters_remembered {start : Instant} (hnow : shown now) (hstart : shown start)
    (hexpiry : r.expiresAt = start.shift lifetime)
    (h : (s.forgetExpired r now).hasOutcome r.store r.cashier r.key = false) :
    s.Enters lifetime shown (s.remembered r now) ⟨r.store, r.cashier, r.key, now⟩ r.kept := by
  have hfree := outcome?_of_unclaimed h
  refine ⟨hnow, hfree, by simp [KeyUse.owns, belongs, OutcomeRecord.kept],
    ⟨start, hstart, hexpiry⟩, ?_⟩
  rw [remembered_of_free hfree]
  rfl

/-- The records of other keys stay. -/
theorem Enters.filter_owns (h : s.Enters lifetime shown after k' r) (hother : ¬k'.Same k) :
    after.outcomes.filter k.owns = s.outcomes.filter k.owns := by
  rw [h.outcomes, KeyUse.filter_owns_entered hother h.owned]

end Store

/-- **What happens to stored outcomes and to the list of sales**, with the key under which an
outcome is entered, if one is. -/
inductive KeyEvent (lifetime : Int) (shown : Instant → Prop) (s after : Store) :
    Option (KeyUse × Result Transaction) → Prop
  /-- At most, expired outcomes are forgotten. -/
  | quiet {now : Instant} {keep : OutcomeRecord → Bool} (time : shown now)
      (live : ∀ o, Store.isLive now o = true → keep o = true)
      (outcomes : after.outcomes = s.outcomes.filter keep) (sales : after.sales = s.sales) :
      KeyEvent lifetime shown s after none
  /-- A refusal is entered. -/
  | refused {k : KeyUse} {r : OutcomeRecord} {fault : Fault Rejection}
      (enters : s.Enters lifetime shown after k r)
      (outcome : r.outcome.replay Transaction.ofJson? = .error fault)
      (sales : after.sales = s.sales) : KeyEvent lifetime shown s after (some (k, .error fault))
  /-- A sale is entered, together with its transaction. -/
  | sold {k : KeyUse} {r : OutcomeRecord} {t : Transaction}
      (enters : s.Enters lifetime shown after k r)
      (outcome : r.outcome.replay Transaction.ofJson? = .ok t)
      (own : t.use.Same k) (asSold : t.asSold = t) (fresh : s.hasTransaction t.id = false)
      (transactions : after.transactions = s.transactions ++ [t]) :
      KeyEvent lifetime shown s after (some (k, .ok t))

namespace KeyEvent

variable {lifetime : Int} {shown : Instant → Prop} {s after : Store} {now : Instant}

theorem of_same (time : shown now) (outcomes : after.outcomes = s.outcomes)
    (sales : after.sales = s.sales) : KeyEvent lifetime shown s after none :=
  .quiet time (fun _ _ => rfl) (outcomes.trans (List.filter_true _).symm) sales

end KeyEvent

namespace Store

variable {lifetime : Int} {shown : Instant → Prop} {k k' : KeyUse} {old s after : Store}
  {outcome? : Option (Result Transaction)} {entry : Option (KeyUse × Result Transaction)}
  {r : OutcomeRecord} {result : Result Transaction}

/-- **What is recorded under a key**: nothing, or one outcome with a lifetime that began at an
instant that was shown. -/
def Recalls (s : Store) (lifetime : Int) (shown : Instant → Prop) (k : KeyUse) :
    Option (Result Transaction) → Prop
  | none => s.outcomes.filter k.owns = []
  | some result => ∃ r, s.Holds k r ∧ (∃ start, shown start ∧ r.expiresAt = start.shift lifetime) ∧
      r.outcome.replay Transaction.ofJson? = result

/-- **All instants shown are kept before the end** of every lifetime that begins at one of them. -/
def KeepsAll (lifetime : Int) (shown : Instant → Prop) : Prop :=
  ∀ now start, shown now → shown start → Instant.keptBefore now (start.shift lifetime) = true

theorem Recalls.forget (h : s.Recalls lifetime shown k outcome?) (kept : KeepsAll lifetime shown)
    {now : Instant} {keep : OutcomeRecord → Bool} (time : shown now)
    (live : ∀ o, isLive now o = true → keep o = true)
    (outcomes : after.outcomes = s.outcomes.filter keep) :
    after.Recalls lifetime shown k outcome? := by
  cases outcome? with
  | none => rw [Recalls, outcomes, List.filter_comm, h, List.filter_nil]
  | some result =>
    obtain ⟨r, hholds, ⟨start, hstart, hexpiry⟩, houtcome⟩ := h
    have hlive : isLive now r = true := by
      rw [isLive, hexpiry]
      exact kept now start time hstart
    refine ⟨r, ?_, ⟨start, hstart, hexpiry⟩, houtcome⟩
    rw [Holds, outcomes, List.filter_comm, hholds, List.filter_cons_of_pos (live r hlive),
      List.filter_nil]

theorem Recalls.other (h : s.Recalls lifetime shown k outcome?)
    (enters : s.Enters lifetime shown after k' r) (hother : ¬k'.Same k) :
    after.Recalls lifetime shown k outcome? := by
  have hfilter := enters.filter_owns hother
  cases outcome? with
  | none => exact hfilter.trans h
  | some result =>
    obtain ⟨r', hholds, hrest⟩ := h
    exact ⟨r', hfilter.trans hholds, hrest⟩

/-- Nothing is entered under a key that has an outcome. -/
theorem Recalls.eq_none (h : s.Recalls lifetime shown k outcome?) (kept : KeepsAll lifetime shown)
    (enters : s.Enters lifetime shown after k' r) (hsame : k'.Same k) : outcome? = none := by
  cases outcome? with
  | none => rfl
  | some result =>
    obtain ⟨r', hholds, ⟨start, hstart, hexpiry⟩, -⟩ := h
    obtain ⟨hr', howned⟩ := hholds.mem
    have hexpired := KeyUse.expired_of_free enters.free hr' (hsame.owns_eq ▸ howned)
    rw [isLive, hexpiry, kept _ _ enters.time hstart] at hexpired
    cases hexpired

theorem Enters.recalls (enters : s.Enters lifetime shown after k' r) (hsame : k'.Same k)
    (outcome : r.outcome.replay Transaction.ofJson? = result) :
    after.Recalls lifetime shown k (some result) := by
  have howned := enters.owned
  have houtcomes := enters.outcomes
  rw [hsame.owns_eq] at howned houtcomes
  exact ⟨r, .of_outcomes howned houtcomes, enters.expiry, outcome⟩

/-- A record that is found is that of the outcome. -/
theorem Recalls.replay (h : s.Recalls lifetime shown k outcome?) (hsame : k'.Same k)
    (found : k'.record? s = some r) : outcome? = some (r.outcome.replay Transaction.ofJson?) := by
  have hr : r ∈ s.outcomes.filter k.owns := by
    have hmatch := List.find?_some found
    have howned : k'.owns r = true := (Bool.and_eq_true_iff.1 hmatch).1
    exact List.mem_filter.2 ⟨List.mem_of_find?_eq_some found, hsame.owns_eq ▸ howned⟩
  cases outcome? with
  | none =>
    rw [h] at hr
    cases hr
  | some result =>
    obtain ⟨r', hholds, -, houtcome⟩ := h
    rw [hholds] at hr
    rw [List.mem_singleton.1 hr, houtcome]

/-- **What has come of requests under a key** since the store was an older one: their one outcome,
if there is one already. -/
structure KeyState (s : Store) (lifetime : Int) (shown : Instant → Prop) (k : KeyUse) (old : Store)
    (outcome? : Option (Result Transaction)) : Prop where
  recalls : s.Recalls lifetime shown k outcome?
  /-- A sale has a transaction. -/
  sold : ∀ t, outcome? = some (.ok t) →
    t.asSold = t ∧ t.IsNew k old ∧ ∃ t' ∈ s.transactions, t.Precedes t'
  /-- No other transaction is new under the key. -/
  sales : ∀ t' ∈ s.transactions, t'.IsNew k old → ∃ t, outcome? = some (.ok t) ∧ t'.id = t.id

namespace KeyState

/-- Sales that were not added were there before. -/
theorem sales_of_same (h : s.KeyState lifetime shown k old outcome?)
    (hsales : after.sales = s.sales) :
    ∀ t' ∈ after.transactions, t'.IsNew k old → ∃ t, outcome? = some (.ok t) ∧ t'.id = t.id := by
  intro t' ht' hnew
  have hmem : (t'.id, t'.use) ∈ s.sales := hsales ▸ List.mem_map_of_mem ht'
  obtain ⟨t'', ht'', heq⟩ := List.mem_map.1 hmem
  obtain ⟨hid, huse⟩ := Prod.mk.inj heq
  have hnew'' : t''.IsNew k old := ⟨huse ▸ hnew.1, hid ▸ hnew.2⟩
  obtain ⟨t, hsold, hsame⟩ := h.sales t'' ht'' hnew''
  exact ⟨t, hsold, hid.symm.trans hsame⟩

/-- A sale keeps its transaction. -/
theorem sold_of_precedes (h : s.KeyState lifetime shown k old outcome?)
    (forward : s.Precedes after) :
    ∀ t, outcome? = some (.ok t) →
      t.asSold = t ∧ t.IsNew k old ∧ ∃ t' ∈ after.transactions, t.Precedes t' := by
  intro t hdone
  obtain ⟨hasSold, hnew, mid, hmid, hprecedes⟩ := h.sold t hdone
  obtain ⟨t', ht', hprecedes'⟩ := forward.transactions mid hmid
  exact ⟨hasSold, hnew, t', ht', hprecedes.trans hprecedes'⟩

/-- **A sale is the first outcome** under its key. -/
theorem of_sold (h : s.KeyState lifetime shown k old none) (grown : old.Precedes s)
    {t : Transaction} (enters : s.Enters lifetime shown after k' r) (hsame : k'.Same k)
    (outcome : r.outcome.replay Transaction.ofJson? = .ok t) (own : t.use.Same k')
    (asSold : t.asSold = t) (fresh : s.hasTransaction t.id = false)
    (transactions : after.transactions = s.transactions ++ [t]) :
    after.KeyState lifetime shown k old (some (.ok t)) := by
  refine ⟨enters.recalls hsame outcome, ?_, ?_⟩
  · rintro _ ⟨⟩
    refine ⟨asSold, ⟨own.trans hsame, ?_⟩, t, ?_, .refl t⟩
    · intro hid
      obtain ⟨t₀, ht₀, hid₀⟩ := List.mem_map.1 hid
      obtain ⟨t₁, ht₁, hprecedes⟩ := grown.transactions t₀ ht₀
      have hid₁ : t₁.id = t.id := by
        rw [hprecedes.same]
        exact hid₀
      exact hasTransaction_eq_false.1 fresh (hid₁ ▸ List.mem_map_of_mem ht₁)
    · rw [transactions]
      exact List.mem_append_right _ List.mem_cons_self
  · intro t' ht' hnew
    rw [transactions] at ht'
    rcases List.mem_append.1 ht' with ht' | ht'
    · obtain ⟨t₀, hdone, -⟩ := h.sales t' ht' hnew
      cases hdone
    · exact ⟨t, rfl, by rw [List.mem_singleton.1 ht']⟩

/-- **The outcome that was entered first stays the one outcome under the key**, whatever happens, as
long as it is live at all instants that are shown. -/
theorem event (h : s.KeyState lifetime shown k old outcome?) (kept : KeepsAll lifetime shown)
    (grown : old.Precedes s) (forward : s.Precedes after)
    (event : KeyEvent lifetime shown s after entry) :
    ∃ later?, after.KeyState lifetime shown k old later? ∧
      (∀ result, outcome? = some result → later? = some result) ∧
      ∀ k' result, entry = some (k', result) → k'.Same k → later? = some result := by
  have hsold := h.sold_of_precedes forward
  cases event with
  | quiet time live outcomes sales =>
    refine ⟨outcome?, ⟨h.recalls.forget kept time live outcomes, hsold, h.sales_of_same sales⟩,
      fun _ hdone => hdone, ?_⟩
    rintro _ _ ⟨⟩
  | @refused k' r fault enters outcome sales =>
    by_cases hsame : k'.Same k
    · obtain rfl := h.recalls.eq_none kept enters hsame
      refine ⟨some (.error fault), ⟨enters.recalls hsame outcome, ?_, ?_⟩, ?_, ?_⟩
      · rintro _ ⟨⟩
      · intro t' ht' hnew
        obtain ⟨t, hdone, -⟩ := h.sales_of_same sales t' ht' hnew
        cases hdone
      · rintro _ ⟨⟩
      · rintro _ _ ⟨⟩ -
        rfl
    · refine ⟨outcome?, ⟨h.recalls.other enters hsame, hsold, h.sales_of_same sales⟩,
        fun _ hdone => hdone, ?_⟩
      rintro _ _ ⟨⟩ hsame'
      exact absurd hsame' hsame
  | @sold k' r t enters outcome own asSold fresh transactions =>
    by_cases hsame : k'.Same k
    · obtain rfl := h.recalls.eq_none kept enters hsame
      have hstate := h.of_sold grown enters hsame outcome own asSold fresh transactions
      refine ⟨some (.ok t), hstate, ?_, ?_⟩
      · rintro _ ⟨⟩
      · rintro _ _ ⟨⟩ -
        rfl
    · refine ⟨outcome?, ⟨h.recalls.other enters hsame, hsold, ?_⟩, fun _ hdone => hdone, ?_⟩
      · intro t' ht' hnew
        rw [transactions] at ht'
        rcases List.mem_append.1 ht' with ht' | ht'
        · exact h.sales t' ht' hnew
        · rw [List.mem_singleton.1 ht'] at hnew
          exact absurd (own.symm.trans hnew.1) hsame
      · rintro _ _ ⟨⟩ hsame'
        exact absurd hsame' hsame

end KeyState

end Store

/-! ### What changes do under keys -/

section Events

variable {e : Engine} {shown : Instant → Prop} {s s₀ after : Store} {now start : Instant}
  {actor : Actor}

/-- **A sale that was booked** is entered under its key, whenever the key was claimed and the sale
planned. -/
theorem Store.SaleFits.event {ids : Ids} {cart : Cart} {key : String} {u : SaleUnit} {sh : Shift}
    {ev : DrawerEvent} (fits : s.SaleFits u sh ev) (hnow : shown now) (hstart : shown start)
    (representable : now.IsRepresentable)
    (plan : e.planSale ids now actor cart
      ⟨actor.store, actor.cashier, key, start, start.shift e.keyLifetime⟩ s₀ = .ok u) :
    KeyEvent e.keyLifetime shown s (s.afterSale u ev)
      (some (⟨actor.store, actor.cashier, key, now⟩, .ok u.transaction)) := by
  obtain ⟨sh', pricing, totals, -, hsold, rfl⟩ := Engine.planSale_eq_ok plan
  have henters := Store.enters_remembered (r := (Engine.saleUnit ids
    ⟨actor.store, actor.cashier, key, start, start.shift e.keyLifetime⟩ (Transaction.sold cart
      ⟨ids.subject, actor, sh'.id, key, e.rate, now⟩ pricing totals)).record) (s := s)
    hnow hstart rfl fits.unclaimed
  refine .sold ⟨hnow, henters.free, henters.owned, henters.expiry, henters.outcomes⟩
    (Engine.replay_saleUnit hsold representable ids _) ⟨rfl, rfl, rfl⟩ rfl fits.fresh ?_
  simp only [Store.afterSale, Engine.saleUnit, Store.unvoided_sold]

/-- **A refusal that was remembered** is entered under its key. -/
theorem KeyEvent.of_refusal {store cashier key : String} {reason : Rejection} (hnow : shown now)
    (h : (s.forgetExpired ((Claim.mk store cashier key now (now.shift e.keyLifetime)).record none
      (.ofRejection reason)) now).hasOutcome store cashier key = false) :
    KeyEvent e.keyLifetime shown s
      (s.remembered ((Claim.mk store cashier key now (now.shift e.keyLifetime)).record none
        (.ofRejection reason)) now)
      (some (⟨store, cashier, key, now⟩,
        .error (.rejected (.replayed reason.kind reason.message)))) :=
  .refused (Store.enters_remembered hnow hnow rfl h) rfl rfl

/-- **Every change** does one of these things under keys. -/
theorem Change.event (h : Change e now s after) (hnow : shown now)
    (representable : now.IsRepresentable) :
    ∃ entry, KeyEvent e.keyLifetime shown s after entry := by
  cases h with
  | shiftOpened start added =>
    obtain ⟨-, -, -, rfl⟩ := Store.addShift_eq_ok.1 added
    exact ⟨_, .of_same hnow rfl rfl⟩
  | shiftClosed => exact ⟨_, .of_same hnow rfl rfl⟩
  | entryRecorded => exact ⟨_, .of_same hnow rfl rfl⟩
  | sold claims plan fits =>
    obtain ⟨-, rfl⟩ := Claim.make_eq_ok.1 claims.made
    exact ⟨_, fits.event hnow hnow representable plan⟩
  | refused claims kind =>
    obtain ⟨-, rfl⟩ := Claim.make_eq_ok.1 claims.made
    exact ⟨_, .of_refusal hnow (Store.hasOutcome_forgetExpired claims.free)⟩
  | voided => exact ⟨_, .of_same hnow rfl (Rows.map_update fun _ => rfl)⟩
  | refunded => exact ⟨_, .of_same hnow rfl (Rows.map_update fun _ => rfl)⟩
  | productAdded check added =>
    obtain ⟨-, -, -, rfl⟩ := Store.addProduct_eq_ok.1 added
    exact ⟨_, .of_same hnow rfl rfl⟩
  | supplierAdded check added =>
    obtain ⟨-, rfl⟩ := Store.addSupplier_eq_ok.1 added
    exact ⟨_, .of_same hnow rfl rfl⟩
  | orderAdded elevated check products added =>
    obtain ⟨-, -, -, -, rfl⟩ := Store.addOrder_eq_ok.1 added
    exact ⟨_, .of_same hnow rfl rfl⟩
  | received => exact ⟨_, .of_same hnow rfl rfl⟩
  | purged => exact ⟨_, .quiet hnow (fun _ hlive => hlive) rfl rfl⟩

/-- A plan that is not one of a sale leaves stored outcomes and the list of sales alone. -/
theorem Plan.event {p : Plan} (hsale : p.isSale = false) (h : p.unit s = .ok after)
    (hnow : shown now) : KeyEvent e.keyLifetime shown s after none := by
  cases p with
  | sale u => cases hsale
  | void t u =>
    obtain ⟨t', sh, ev, -, rfl⟩ := Store.commitVoid_eq_ok h
    exact .of_same hnow rfl (Rows.map_update fun _ => rfl)
  | refund t u =>
    obtain ⟨t', sh, ev, -, rfl⟩ := Store.commitRefund_eq_ok h
    exact .of_same hnow rfl (Rows.map_update fun _ => rfl)
  | close sh closed =>
    obtain ⟨sh', ev, -, rfl⟩ := Store.closeShift_eq_ok h
    exact .of_same hnow rfl rfl
  | entry sh id made at' =>
    simp only [Plan.unit, Outcome.bind_eq_ok, Outcome.pure_eq_ok] at h
    obtain ⟨⟨_, ev⟩, happend, rfl⟩ := h
    obtain ⟨sh', -, -, rfl⟩ := Store.appendEntry_eq_ok happend
    exact .of_same hnow rfl rfl

end Events

/-! ### What a phase does -/

namespace Checkout

variable {e : Engine} {q : Checkout} {shown : Instant → Prop} {p p' : Phase} {s later after : Store}
  {now : Instant} {claim : Claim} {fault : Fault Rejection}

/-- A claim that a request has made at an instant that was shown. -/
def HasClaim (e : Engine) (q : Checkout) (shown : Instant → Prop) (claim : Claim) : Prop :=
  ∃ start, shown start ∧
    claim = ⟨q.actor.store, q.actor.cashier, q.key, start, start.shift e.keyLifetime⟩

/-- **A phase can be reached** by a request to a till with the given store. -/
def Phase.Fits (e : Engine) (q : Checkout) (shown : Instant → Prop) (s : Store) : Phase → Prop
  | claimed claim => q.HasClaim e shown claim
  | planned claim u => q.HasClaim e shown claim ∧ ∃ now s₀, shown now ∧ s₀.Precedes s ∧
      e.planSale q.ids now q.actor q.cart claim s₀ = .ok u
  | stopped claim _ => q.HasClaim e shown claim
  | _ => True

theorem Phase.Fits.mono (h : p.Fits e q shown s) (hlater : s.Precedes later) :
    p.Fits e q shown later := by
  cases p with
  | planned claim u =>
    obtain ⟨hclaim, now, s₀, hnow, hearlier, hplan⟩ := h
    exact ⟨hclaim, now, s₀, hnow, hearlier.trans hlater, hplan⟩
  | arrived | claimed | sold | stopped | settled | answered => exact h

/-- **A request finds a transaction** under its key. -/
def Finds (q : Checkout) (s : Store) (t : Transaction) : Prop :=
  ∃ (k : KeyUse) (r : OutcomeRecord), k.Same (q.use k.now) ∧ k.record? s = some r ∧
    r.outcome.replay Transaction.ofJson? = .ok t

/-- **What a phase of a request does**, from one phase and store to the next. -/
structure Advances (e : Engine) (q : Checkout) (shown : Instant → Prop) (p : Phase) (s : Store)
    (p' : Phase) (after : Store) (entry : Option (KeyUse × Result Transaction)) : Prop where
  effect : after = s ∨ Effect e s after
  event : KeyEvent e.keyLifetime shown s after entry
  fits : p'.Fits e q shown after
  /-- A transaction is returned because it was returned before, or is found, or is entered. -/
  answer : ∀ t, p'.answer? = some (.ok t) → p.answer? = some (.ok t) ∨ q.Finds s t ∨
    ∃ k : KeyUse, k.Same (q.use k.now) ∧ entry = some (k, .ok t)
  /-- What writes is the last phase, and not one of a request whose key was found taken. -/
  writes : after = s ∨ p'.answer?.isSome = true ∧ p'.isLost = false

theorem Advances.of_same (hnow : shown now) (fits : p'.Fits e q shown s)
    (answer : ∀ t, p'.answer? = some (.ok t) → p.answer? = some (.ok t) ∨ q.Finds s t) :
    Advances e q shown p s p' s none :=
  ⟨.inl rfl, .of_same hnow rfl rfl, fits, fun t h => (answer t h).imp_right .inl, .inl rfl⟩

theorem advances_arrived (hnow : shown now) :
    Advances e q shown .arrived s (q.advance e now (.arrived, s)).1
      (q.advance e now (.arrived, s)).2 none := by
  simp only [advance]
  cases hkey : (Field.key q.key).run with
  | error fault => exact .of_same hnow trivial (by rintro _ ⟨⟩)
  | ok _ =>
    cases hfound : (q.use now).record? s with
    | some r =>
      refine .of_same hnow trivial ?_
      intro t hanswer
      exact .inr ⟨_, r, ⟨rfl, rfl, rfl⟩, hfound, Option.some.inj hanswer⟩
    | none =>
      cases hmade : Claim.make q.actor.store q.actor.cashier q.key now e.keyLifetime with
      | error fault => exact .of_same hnow trivial (by rintro _ ⟨⟩)
      | ok claim =>
        exact .of_same hnow ⟨now, hnow, (Claim.make_eq_ok.1 hmade).2⟩ (by rintro _ ⟨⟩)

theorem advances_claimed (hnow : shown now) (hclaim : q.HasClaim e shown claim) :
    Advances e q shown (.claimed claim) s (q.advance e now (.claimed claim, s)).1
      (q.advance e now (.claimed claim, s)).2 none := by
  simp only [advance]
  cases hplan : e.planSale q.ids now q.actor q.cart claim s with
  | error fault => exact .of_same hnow hclaim (by rintro _ ⟨⟩)
  | ok u => exact .of_same hnow ⟨hclaim, now, s, hnow, .refl s, hplan⟩ (by rintro _ ⟨⟩)

theorem advances_planned {u : SaleUnit} (hnow : shown now) (k : s.Keyed) (logs : s.Logs)
    (representable : ∀ t, shown t → t.IsRepresentable)
    (fits : (Phase.planned claim u).Fits e q shown s) :
    ∃ entry, Advances e q shown (.planned claim u) s (q.advance e now (.planned claim u, s)).1
      (q.advance e now (.planned claim u, s)).2 entry := by
  obtain ⟨⟨start, hstart, rfl⟩, planned, s₀, hplanned, hearlier, hplan⟩ := fits
  simp only [advance]
  cases hcommit : (s.commitSale u).result with
  | error fault =>
    simp only [Engine.book, Action.transact, hcommit, bind, Except.bind]
    exact ⟨none, .of_same hnow ⟨start, hstart, rfl⟩ (by rintro _ ⟨⟩)⟩
  | ok after =>
    rw [Stored.result_eq_ok] at hcommit
    rw [Engine.book_eq_ok.2 hcommit]
    have hwaits : (Plan.sale u).Waits e s :=
      ⟨s₀, [], hearlier, fun _ h => absurd h List.not_mem_nil, .sale hplan⟩
    have heffect := hwaits.effect k logs hcommit
    obtain ⟨sh, ev, hfits, rfl⟩ := Store.commitSale_eq_ok hcommit
    have hevent := hfits.event hplanned hstart (representable _ hplanned) hplan
    refine ⟨_, .inr heffect, hevent, trivial, ?_, .inr ⟨rfl, rfl⟩⟩
    intro t hanswer
    obtain rfl := Except.ok.inj (Option.some.inj hanswer)
    exact .inr (.inr ⟨_, ⟨rfl, rfl, rfl⟩, rfl⟩)

/-- A refusal that cannot be remembered changes nothing but expired outcomes. -/
theorem advances_stopped (hnow : shown now) (hclaim : q.HasClaim e shown claim) :
    ∃ entry, Advances e q shown (.stopped claim fault) s
      (q.advance e now (.stopped claim fault, s)).1
      (q.advance e now (.stopped claim fault, s)).2 entry := by
  obtain ⟨start, hstart, rfl⟩ := hclaim
  simp only [advance]
  cases fault with
  | overflow => exact ⟨none, .of_same hnow trivial (by rintro _ ⟨⟩)⟩
  | rejected reason =>
    by_cases hflight : ∃ key, reason = .inFlight key
    · obtain ⟨key, rfl⟩ := hflight
      cases hfound : (Claim.use ⟨q.actor.store, q.actor.cashier, q.key, start,
          start.shift e.keyLifetime⟩).record? s with
      | none =>
        simp only [Engine.settle, hfound]
        exact ⟨none, .of_same hnow trivial (by rintro _ ⟨⟩)⟩
      | some r =>
        simp only [Engine.settle, hfound]
        refine ⟨none, .of_same hnow trivial ?_⟩
        intro t hanswer
        exact .inr ⟨_, r, ⟨rfl, rfl, rfl⟩, hfound, Option.some.inj hanswer⟩
    · rw [Engine.settle_rejected fun key hkey => hflight ⟨key, hkey⟩]
      have hlost : ∀ result, (Phase.settled (.rejected reason) result).isLost = false := by
        intro result
        cases reason with
        | inFlight key => exact absurd ⟨key, rfl⟩ hflight
        | _ => rfl
      by_cases hkind : reason.kind = .validation
      · rw [if_pos hkind]
        cases hheld : (s.forgetExpired ((Claim.mk q.actor.store q.actor.cashier q.key start
            (start.shift e.keyLifetime)).record none (.ofRejection reason)) start).hasOutcome
              q.actor.store q.actor.cashier q.key with
        | true =>
          -- The key is held, and at most its expired records are forgotten.
          simp only [Store.addOutcome, Claim.use, Claim.record] at hheld ⊢
          simp only [hheld, if_true]
          refine ⟨none, .inr (.outcomes _), .quiet hstart ?_ rfl rfl, trivial, (by rintro _ ⟨⟩),
            .inr ⟨rfl, hlost _⟩⟩
          intro o hlive
          rw [hlive]
          simp
        | false =>
          have hentered := KeyEvent.of_refusal (e := e) hstart hheld
          simp only [Store.addOutcome, Claim.use, Claim.record] at hheld ⊢
          simp only [hheld, Bool.false_eq_true, if_false]
          exact ⟨_, .inr (.outcomes _), hentered, trivial, (by rintro _ ⟨⟩), .inr ⟨rfl, hlost _⟩⟩
      · rw [if_neg hkind]
        exact ⟨none, .of_same hnow trivial (by rintro _ ⟨⟩)⟩

/-- **The next phase of a request** does one of these things to the store. -/
theorem advances (hnow : shown now) (k : s.Keyed) (logs : s.Logs)
    (representable : ∀ t, shown t → t.IsRepresentable) (fits : p.Fits e q shown s) :
    ∃ entry, Advances e q shown p s (q.advance e now (p, s)).1 (q.advance e now (p, s)).2
      entry := by
  cases p with
  | arrived => exact ⟨none, advances_arrived hnow⟩
  | claimed claim => exact ⟨none, advances_claimed hnow fits⟩
  | planned claim u => exact advances_planned hnow k logs representable fits
  | stopped claim fault => exact advances_stopped hnow fits
  | sold | settled | answered => exact ⟨none, .of_same hnow trivial fun _ h => .inl h⟩

/-- A request that has been answered does nothing more. -/
theorem advance_of_answered (h : p.answer?.isSome = true) : q.advance e now (p, s) = (p, s) := by
  cases p with
  | sold | settled | answered => rfl
  | arrived | claimed | planned | stopped => cases h

end Checkout

end Till
