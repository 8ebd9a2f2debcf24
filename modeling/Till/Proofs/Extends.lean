import Till.Proofs.Catalog
import Till.Proofs.History
import Till.Proofs.Race

/-!
# Nothing that was committed is lost

Whatever is asked of a till, its store afterwards extends the store before (`Store.Extends`): rows
are added, a few columns of a row move on, and all the rest stays.  Only stored outcomes are ever
removed, and only those that the store takes to have expired.

Whether an outcome has expired is a matter of instants, but a store compares instants as it keeps
them.  So outcomes are kept until they have expired (`Store.KeepsUnexpired`) exactly where the two
orders agree (`Store.TellsExpiry`):

* `Change.extends`, `KeyChange.keepsUnexpired` : what every change extends and keeps;
* `Engine.run_extends` : both, for every step after every run;
* `Engine.run_tellsExpiry` : the orders agree in the years 0 to 9999.
-/

namespace Till

namespace Store

/-- **A store extends** another one: nothing is lost, and what was committed stays. -/
structure Extends (s after : Store) : Prop where
  /-- The movements of a product are added at the end. -/
  movements : ∀ store product, s.movementsOf store product <+: after.movementsOf store product
  /-- So are the refunds of a transaction, -/
  refunds : ∀ transaction, s.refundsFor transaction <+: after.refundsFor transaction
  /-- the products -/
  products : s.products <+: after.products
  /-- and the suppliers. -/
  suppliers : s.suppliers <+: after.suppliers
  /-- Of an order only units arrive. -/
  orders : ∀ o ∈ s.orders, ∃ later, after.order? o.store o.id = some later ∧ o.Precedes later
  /-- The log of a shift grows at its end, and a closed shift stays as it is. -/
  shifts : ∀ sh ∈ s.shifts, ∃ later, after.shift? sh.id = some later ∧ sh.Precedes later
  /-- What was sold, by whom and for how much stays. -/
  transactions : ∀ t ∈ s.transactions,
    ∃ later, after.transaction? t.store t.id = some later ∧ t.Precedes later

/-- **Outcomes are kept until they have expired**, as they are and in their order. -/
def KeepsUnexpired (now : Instant) (s after : Store) : Prop :=
  (s.outcomes.filter fun r => !r.isExpired now).Sublist after.outcomes

/-- **A store tells expiry** at an instant: the outcomes that it does not find any more have
expired. -/
def TellsExpiry (now : Instant) (s : Store) : Prop :=
  ∀ r ∈ s.outcomes, isLive now r = false → r.isExpired now = true

variable {s after : Store} {now : Instant}

/-- What has not expired passes every test that only fails for what has. -/
theorem filter_unexpired_sublist {test : OutcomeRecord → Bool}
    (h : ∀ r ∈ s.outcomes, test r = false → r.isExpired now = true) :
    (s.outcomes.filter fun r => !r.isExpired now).Sublist (s.outcomes.filter test) := by
  have hboth : (s.outcomes.filter fun r => !r.isExpired now) =
      (s.outcomes.filter test).filter fun r => !r.isExpired now := by
    rw [List.filter_filter]
    refine List.filter_congr ?_
    intro r hr
    cases htest : test r with
    | true => rw [Bool.and_true]
    | false => rw [h r hr htest, Bool.and_false, Bool.not_true]
  rw [hboth]
  exact List.filter_sublist

theorem KeepsUnexpired.of_outcomes (h : after.outcomes = s.outcomes) :
    s.KeepsUnexpired now after := by
  rw [KeepsUnexpired, h]
  exact List.filter_sublist

end Store

/-! ### Every change -/

theorem LedgerChange.refunds_prefix {s after : Store} (h : LedgerChange s after) :
    s.refunds <+: after.refunds := by
  cases h with
  | none _ refunds | sold _ _ _ _ refunds | voided _ _ _ refunds =>
    exact refunds ▸ List.prefix_refl _
  | refunded _ _ _ _ refunds => exact refunds ▸ List.prefix_append _ _

/-- **Every change extends the store.** -/
theorem Change.extends {e : Engine} {now : Instant} {s after : Store} (h : Change e now s after)
    (sound : s.Sound) (logs : s.Logs) : s.Extends after := by
  have k := sound.keyed
  have kafter := k.change h
  have hcatalog := h.catalog
  obtain ⟨ms, hmovements, -⟩ := sound.stocked.movements_change sound.balanced h
  have hrefunds := h.ledger.refunds_prefix
  refine { movements := ?_, refunds := ?_, products := hcatalog.products_prefix,
           suppliers := hcatalog.suppliers_prefix, orders := ?_, shifts := ?_, transactions := ?_ }
  · intro store product
    rw [Store.movementsOf, Store.movementsOf, hmovements]
    exact (List.prefix_append _ _).filter _
  · intro transaction
    exact hrefunds.filter _
  · intro o ho
    obtain ⟨later, hlater, hprecedes⟩ := hcatalog.precedes k o ho
    have hsame := hprecedes.same
    have hfound := Store.order?_of_mem kafter hlater
    rw [show later.store = o.store by rw [hsame], show later.id = o.id by rw [hsame]] at hfound
    exact ⟨later, hfound, hprecedes⟩
  · intro sh hsh
    obtain ⟨later, hlater, hprecedes⟩ := logs.precedes k h.logs sh hsh
    exact ⟨later, hprecedes.same.1 ▸ Store.shift?_of_mem kafter hlater, hprecedes⟩
  · intro t ht
    obtain ⟨later, hlater, hprecedes⟩ := h.ledger.precedes k t ht
    have hsame := hprecedes.same
    have hfound := Store.transaction?_of_mem kafter hlater
    rw [show later.store = t.store by rw [hsame], show later.id = t.id by rw [hsame]] at hfound
    exact ⟨later, hfound, hprecedes⟩

/-- **Every change keeps outcomes until they have expired**, if the store tells expiry. -/
theorem KeyChange.keepsUnexpired {lifetime : Int} {now : Instant} {s after : Store}
    (h : KeyChange lifetime now s after) (tells : s.TellsExpiry now) :
    s.KeepsUnexpired now after := by
  cases h with
  | none uses outcomes => exact .of_outcomes outcomes
  | purged uses outcomes =>
    rw [Store.KeepsUnexpired, outcomes]
    exact Store.filter_unexpired_sublist tells
  | @used k r time free uses record outcomes =>
    -- What gives way to the new record stands under its key, and is not live.
    have hgone : ∀ r ∈ s.outcomes, (!k.owns r) = false → r.isExpired now = true := by
      intro r hr howned
      rw [Bool.not_eq_false'] at howned
      have hexpired := Engine.KeyUse.expired_of_free free hr howned
      exact tells r hr (time ▸ hexpired)
    rw [Store.KeepsUnexpired, outcomes]
    exact (Store.filter_unexpired_sublist hgone).trans (List.sublist_append_left _ _)

theorem Store.Extends.refl {s : Store} (k : s.Keyed) : s.Extends s where
  movements _ _ := List.prefix_refl _
  refunds _ := List.prefix_refl _
  products := List.prefix_refl _
  suppliers := List.prefix_refl _
  orders o ho := ⟨o, Store.order?_of_mem k ho, .refl o⟩
  shifts sh hsh := ⟨sh, Store.shift?_of_mem k hsh, .refl sh⟩
  transactions t ht := ⟨t, Store.transaction?_of_mem k ht, .refl t⟩

/-! ### Every step -/

namespace Engine

variable {κ : Type} {e : Engine} {c : CacheAccess κ} {w : World κ}

/-- **Every step extends the store.** -/
theorem apply_extends (sound : w.store.Sound) (logs : w.store.Logs) (step : Step κ) :
    w.store.Extends (e.apply c w step).store := by
  rcases e.apply_change c w step with hsame | hchange
  · rw [hsame]
    exact .refl sound.keyed
  · exact hchange.extends sound logs

/-- **Every step keeps outcomes until they have expired** exactly if the store tells expiry, as one
of the steps is to forget what the store takes to have expired. -/
theorem apply_keepsUnexpired_iff :
    (∀ step, w.store.KeepsUnexpired w.now (e.apply c w step).store) ↔
      w.store.TellsExpiry w.now := by
  constructor
  · intro h r hr hlost
    cases hexpired : r.isExpired w.now with
    | true => rfl
    | false =>
      have hkept : r ∈ (e.apply c w .purge).store.outcomes :=
        (h .purge).subset (List.mem_filter.2 ⟨hr, by rw [hexpired, Bool.not_false]⟩)
      rw [(List.mem_filter.1 hkept).2] at hlost
      cases hlost
  · intro tells step
    rcases e.apply_change c w step with hsame | hchange
    · exact .of_outcomes (congrArg Store.outcomes hsame)
    · exact hchange.keys.keepsUnexpired tells

/-- **Nothing that was committed is lost**: after every run, every step extends the store.  Stored
outcomes are all that is ever removed, and they are kept until they have expired exactly if the
store tells expiry. -/
theorem run_extends (e : Engine) (c : CacheAccess κ) (now : Instant) (cache : κ)
    (steps : List (Step κ)) :
    let w := e.run c (World.empty now cache) steps
    (∀ step, w.store.Extends (e.apply c w step).store) ∧
      ((∀ step, w.store.KeepsUnexpired w.now (e.apply c w step).store) ↔
        w.store.TellsExpiry w.now) :=
  ⟨apply_extends (e.run_sound c now cache steps) (e.run_logs c now cache steps),
    apply_keepsUnexpired_iff⟩

/-! ### Where a store tells expiry -/

/-- A time of the years 0 to 9999 at which lifetimes end in these years as well. -/
def IsPlain (lifetime : Int) (t : Instant) : Prop :=
  t.hasPlainYear = true ∧ (t.shift lifetime).hasPlainYear = true

/-- Where all outcomes expire in the years 0 to 9999, their order is that of instants. -/
theorem tellsExpiry_of_plainYears {s : Store} {now : Instant} (hnow : now.hasPlainYear = true)
    (h : ∀ r ∈ s.outcomes, r.expiresAt.hasPlainYear = true) : s.TellsExpiry now := by
  intro r hr hlost
  rw [Store.isLive, Instant.keptBefore, hnow, h r hr] at hlost
  exact decide_eq_true (Int.not_lt.1 (of_decide_eq_false hlost))

/-- Every change stores outcomes that expire in the years 0 to 9999, at a time when they do. -/
theorem expiries_change {lifetime : Int} {now : Instant} {s after : Store}
    (hchange : KeyChange lifetime now s after) (hnow : IsPlain lifetime now)
    (h : ∀ r ∈ s.outcomes, r.expiresAt.hasPlainYear = true) :
    ∀ r ∈ after.outcomes, r.expiresAt.hasPlainYear = true := by
  cases hchange with
  | none uses outcomes => exact outcomes ▸ h
  | purged uses outcomes =>
    rw [outcomes]
    exact fun r hr => h r (List.mem_of_mem_filter hr)
  | @used k r time free uses record outcomes =>
    rw [outcomes]
    intro r' hr'
    rcases List.mem_append.1 hr' with hr' | hr'
    · exact h r' (List.mem_of_mem_filter hr')
    · rw [List.mem_singleton.1 hr', record.expiry, time]
      exact hnow.2

/-- **In the years 0 to 9999** a store tells expiry after every run. -/
theorem run_tellsExpiry (c : CacheAccess κ) {start : Instant} (cache : κ) {steps : List (Step κ)}
    (hstart : IsPlain e.keyLifetime start)
    (hshows : ∀ step ∈ steps, step.Shows (IsPlain e.keyLifetime)) :
    (e.run c (World.empty start cache) steps).store.TellsExpiry
      (e.run c (World.empty start cache) steps).now := by
  have hrun : ∀ (steps : List (Step κ)) (w : World κ), IsPlain e.keyLifetime w.now →
      (∀ r ∈ w.store.outcomes, r.expiresAt.hasPlainYear = true) →
      (∀ step ∈ steps, step.Shows (IsPlain e.keyLifetime)) →
      IsPlain e.keyLifetime (e.run c w steps).now ∧
        ∀ r ∈ (e.run c w steps).store.outcomes, r.expiresAt.hasPlainYear = true := by
    intro steps
    induction steps with
    | nil => exact fun w hnow hexpiries _ => ⟨hnow, hexpiries⟩
    | cons step steps ih =>
      intro w hnow hexpiries hshows
      obtain ⟨hstep, hsteps⟩ := List.forall_mem_cons.1 hshows
      refine ih (e.apply c w step) (apply_shows hnow hstep) ?_ hsteps
      rcases e.apply_change c w step with hsame | hchange
      · rw [hsame]
        exact hexpiries
      · exact expiries_change hchange.keys hnow hexpiries
  obtain ⟨hnow, hexpiries⟩ := hrun steps (World.empty start cache) hstart
    (fun r hr => absurd hr List.not_mem_nil) hshows
  exact tellsExpiry_of_plainYears hnow.1 hexpiries

end Engine

/-! ### An outcome that is forgotten too early -/

/-- At noon of 9999-12-31, a till whose keys last for a day forgets an outcome that has not
expired. -/
theorem DoubleSale.not_keepsUnexpired_lastNoon :
    let noon := Instant.ofMinute (Calendar.yearStart 10000 * 1440 - 720) 0
    let w := (till 86400000000000).run Cache.access (World.empty noon .absent)
      (stocking ++ [checkout "6"])
    ¬∀ step, w.store.KeepsUnexpired w.now
      ((till 86400000000000).apply Cache.access w step).store := by
  intro noon w h
  have hrepresentable : (noon.shift 86400000000000).IsRepresentable := by decide +kernel
  have hstore : w.store = soldOnce 86400000000000 noon := by
    rw [show w = _ from Engine.run_append .., run_stocking]
    exact store_checkout "6" (w := world (stocked noon) noon) hrepresentable rfl first_sale
  have hnow : w.now = noon := by
    rw [show w = _ from Engine.run_append .., run_stocking]
    exact Engine.handle_now ..
  -- The end of the day is written with a sign, which comes before all digits.
  have hlost : Instant.keptBefore noon (noon.shift 86400000000000) = false := by decide +kernel
  have hlater : ¬noon.shift 86400000000000 ≤ noon := by decide +kernel
  have hrecord : ∃ r ∈ w.store.outcomes, r.expiresAt = noon.shift 86400000000000 := by
    rw [hstore]
    exact ⟨_, List.mem_singleton_self _, rfl⟩
  obtain ⟨r, hr, hexpiry⟩ := hrecord
  have htells := Engine.apply_keepsUnexpired_iff.1 h r hr
  rw [Store.isLive, OutcomeRecord.isExpired, hexpiry, hnow] at htells
  exact hlater (of_decide_eq_true (htells hlost))

end Till
