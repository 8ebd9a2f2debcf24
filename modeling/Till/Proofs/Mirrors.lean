import Mathlib.Data.List.Induction
import Till.Proofs.Attempts
import Till.Proofs.Extends
import Till.Proofs.History

/-!
# Stored outcomes mirror sales

A sale is stored twice, as a transaction that voids and refunds change, and as an outcome under its
key that nothing changes and that is forgotten later.  In every run the two belong together.

* `OutcomeRecord.Mirrors` : an outcome is that of a transaction, as it was when it was sold;
* `Change.outcomes` : what a change does to stored outcomes and to transactions as they were sold;
* `Engine.run_mirrored` : every outcome is that of a transaction or of a refusal, one under a key and
  one of a transaction;
* `Engine.run_mirrors_iff` : a transaction loses its outcome only after the clock has come to its
  expiry exactly if instants before an expiry are also kept before it.
-/

namespace Till

open Engine (KeyUse)

/-! ### Outcomes of sales and of refusals -/

namespace OutcomeRecord

/-- The key that a record stands under. -/
def keyOf (r : OutcomeRecord) : String × String × String := (r.store, r.cashier, r.key)

/-- **A record is the outcome of a transaction**: it was written when the transaction was sold, under
its key, names it, and gives it as it was then. -/
structure Mirrors (lifetime : Int) (r : OutcomeRecord) (t : Transaction) : Prop where
  names : r.transaction = some t.id
  store : r.store = t.store
  cashier : r.cashier = t.cashier
  key : r.key = t.key
  created : r.createdAt = t.createdAt
  expiry : r.expiresAt = t.createdAt.shift lifetime
  lasts : (t.createdAt.shift lifetime).IsRepresentable
  payload : ∃ payload, r.outcome = .success payload ∧
    Transaction.ofJson? payload = some t.asSold

/-- **A record is the outcome of a refusal** of a cart that is wrong in itself. -/
structure IsRefusal (r : OutcomeRecord) : Prop where
  names : r.transaction = none
  failure : ∃ message, r.outcome = .failure .validation message

variable {lifetime : Int} {r : OutcomeRecord} {t : Transaction}

theorem mirrors_asSold : r.Mirrors lifetime t.asSold ↔ r.Mirrors lifetime t :=
  ⟨fun h => ⟨h.names, h.store, h.cashier, h.key, h.created, h.expiry, h.lasts, h.payload⟩,
    fun h => ⟨h.names, h.store, h.cashier, h.key, h.created, h.expiry, h.lasts, h.payload⟩⟩

theorem Mirrors.keyOf_eq (h : r.Mirrors lifetime t) : r.keyOf = (t.store, t.cashier, t.key) := by
  rw [keyOf, h.store, h.cashier, h.key]

theorem owns_iff {k : KeyUse} : k.owns r = true ↔ r.keyOf = (k.store, k.cashier, k.key) := by
  simp [KeyUse.owns, Store.belongs, keyOf, and_assoc]

end OutcomeRecord

/-- The transactions of a store as they were when they were sold. -/
def Store.asSold (s : Store) : List Transaction := s.transactions.map Transaction.asSold

theorem Store.asSold_of_mem {s : Store} {t : Transaction} (ht : t ∈ s.asSold) : t.asSold = t := by
  obtain ⟨t', -, rfl⟩ := List.mem_map.1 ht
  rfl

/-! ### What a change does -/

/-- **What a change does to stored outcomes** and to transactions as they were sold. -/
inductive OutcomeChange (lifetime : Int) (now : Instant) (s after : Store) : Prop
  /-- Nothing. -/
  | none (sales : after.asSold = s.asSold) (outcomes : after.outcomes = s.outcomes)
  /-- A transaction is sold, and gets an outcome. -/
  | sold {t : Transaction} {r : OutcomeRecord} (time : t.createdAt = now) (asSold : t.asSold = t)
      (free : t.use.record? s = .none) (mirrors : r.Mirrors lifetime t)
      (sales : after.asSold = s.asSold ++ [t])
      (outcomes : after.outcomes = (s.outcomes.filter fun o => !t.use.owns o) ++ [r])
  /-- A refusal gets an outcome. -/
  | refused {k : KeyUse} {r : OutcomeRecord} (time : k.now = now) (free : k.record? s = .none)
      (owned : k.owns r = true) (refusal : r.IsRefusal) (sales : after.asSold = s.asSold)
      (outcomes : after.outcomes = (s.outcomes.filter fun o => !k.owns o) ++ [r])
  /-- Expired outcomes are forgotten. -/
  | purged (sales : after.asSold = s.asSold)
      (outcomes : after.outcomes = s.outcomes.filter (Store.isLive now))

/-- **Every change does one of these things to outcomes.** -/
theorem Change.outcomes {e : Engine} {now : Instant} {s after : Store} (hnow : now.IsRepresentable)
    (h : Change e now s after) : OutcomeChange e.keyLifetime now s after := by
  cases h with
  | shiftOpened start added =>
    obtain ⟨-, -, -, rfl⟩ := Store.addShift_eq_ok.1 added
    exact .none rfl rfl
  | shiftClosed => exact .none rfl rfl
  | entryRecorded => exact .none rfl rfl
  | @sold ids actor cart key claim u sh ev claims plan fits =>
    obtain ⟨sh', pricing, totals, -, hsold, rfl⟩ := Engine.planSale_eq_ok plan
    obtain ⟨hlasts, rfl⟩ := Claim.make_eq_ok.1 claims.made
    obtain ⟨-, houtcomes⟩ := claims.remembered _ _
    refine .sold (t := Transaction.sold cart ⟨ids.subject, actor, sh'.id, key, e.rate, now⟩ pricing
      totals) rfl rfl claims.free ?_ ?_ houtcomes
    · refine ⟨rfl, rfl, rfl, rfl, rfl, rfl, hlasts, _, rfl, ?_⟩
      rw [Transaction.kept_toJson]
      exact Transaction.ofJson?_toJson hsold.priced (by decide : Cents.Fits 0) hnow
        (by rintro _ ⟨⟩)
    · simp only [Store.asSold, Store.afterSale, Engine.saleUnit, Store.unvoided_sold,
        List.map_append, List.map_cons, List.map_nil]
      rfl
  | @refused actor key claim reason claims kind =>
    obtain ⟨-, hclaim⟩ := Claim.make_eq_ok.1 claims.made
    obtain ⟨hrecord, houtcomes⟩ := claims.remembered none (.ofRejection reason)
    refine .refused rfl claims.free hrecord.owned ⟨rfl, reason.message, ?_⟩ rfl houtcomes
    rw [← kind]
    rfl
  | voided => exact .none (Rows.map_update fun _ => rfl) rfl
  | refunded => exact .none (Rows.map_update fun _ => rfl) rfl
  | productAdded check added =>
    obtain ⟨-, -, -, rfl⟩ := Store.addProduct_eq_ok.1 added
    exact .none rfl rfl
  | supplierAdded check added =>
    obtain ⟨-, rfl⟩ := Store.addSupplier_eq_ok.1 added
    exact .none rfl rfl
  | orderAdded elevated check products added =>
    obtain ⟨-, -, -, -, rfl⟩ := Store.addOrder_eq_ok.1 added
    exact .none rfl rfl
  | received => exact .none rfl rfl
  | purged => exact .purged rfl rfl

/-! ### The records of a store -/

/-- **Stored outcomes mirror transactions**: there is one under a key, and each is that of a
transaction or of a refusal. -/
structure Store.Mirrored (lifetime : Int) (s : Store) : Prop where
  unique : (s.outcomes.map OutcomeRecord.keyOf).Nodup
  records : ∀ r ∈ s.outcomes, (∃ t ∈ s.asSold, r.Mirrors lifetime t) ∨ r.IsRefusal

namespace Store

variable {lifetime : Int} {now : Instant} {s after : Store}

theorem mirrored_empty : ({} : Store).Mirrored lifetime := ⟨.nil, fun _ h => absurd h List.not_mem_nil⟩

/-- A record that takes the place of those under its key is the only one there. -/
theorem nodup_entered {k : KeyUse} {r : OutcomeRecord} (howned : k.owns r = true)
    (h : (s.outcomes.map OutcomeRecord.keyOf).Nodup) :
    (((s.outcomes.filter fun o => !k.owns o) ++ [r]).map OutcomeRecord.keyOf).Nodup := by
  have hrest : ((s.outcomes.filter fun o => !k.owns o).map OutcomeRecord.keyOf).Nodup :=
    h.sublist (List.filter_sublist.map _)
  rw [List.map_append, List.map_singleton, ← List.concat_eq_append, List.nodup_concat]
  refine ⟨?_, hrest⟩
  intro hmem
  obtain ⟨o, ho, hkey⟩ := List.mem_map.1 hmem
  have hfree := (List.mem_filter.1 ho).2
  rw [OutcomeRecord.owns_iff.2 (hkey.trans (OutcomeRecord.owns_iff.1 howned))] at hfree
  cases hfree

theorem Mirrored.change (h : OutcomeChange lifetime now s after) (mirrored : s.Mirrored lifetime) :
    after.Mirrored lifetime := by
  -- What was a transaction when it was sold still is one.
  have hkept : ∀ {r sales}, after.asSold = s.asSold ++ sales → r ∈ s.outcomes →
      (∃ t ∈ after.asSold, r.Mirrors lifetime t) ∨ r.IsRefusal := by
    intro r sales hsales hr
    refine (mirrored.records r hr).imp_left ?_
    rintro ⟨t, ht, hmirrors⟩
    exact ⟨t, hsales ▸ List.mem_append_left _ ht, hmirrors⟩
  cases h with
  | none sales outcomes =>
    refine ⟨outcomes ▸ mirrored.unique, ?_⟩
    rw [outcomes]
    exact fun r hr => hkept (sales.trans (List.append_nil _).symm) hr
  | purged sales outcomes =>
    refine ⟨?_, ?_⟩ <;> rw [outcomes]
    · exact mirrored.unique.sublist (List.filter_sublist.map _)
    · exact fun r hr => hkept (sales.trans (List.append_nil _).symm) (List.mem_of_mem_filter hr)
  | @sold t r time asSold free mirrors sales outcomes =>
    refine ⟨?_, ?_⟩ <;> rw [outcomes]
    · exact nodup_entered (OutcomeRecord.owns_iff.2 mirrors.keyOf_eq) mirrored.unique
    · intro r' hr'
      rcases List.mem_append.1 hr' with hold | hnew
      · exact hkept sales (List.mem_of_mem_filter hold)
      · obtain rfl := List.mem_singleton.1 hnew
        exact .inl ⟨t, sales ▸ List.mem_append_right _ List.mem_cons_self, mirrors⟩
  | @refused k r time free owned refusal sales outcomes =>
    refine ⟨?_, ?_⟩ <;> rw [outcomes]
    · exact nodup_entered owned mirrored.unique
    · intro r' hr'
      rcases List.mem_append.1 hr' with hold | hnew
      · exact hkept (sales.trans (List.append_nil _).symm) (List.mem_of_mem_filter hold)
      · obtain rfl := List.mem_singleton.1 hnew
        exact .inr refusal

/-- Transactions have identifiers of their own, so no two records name the same one. -/
theorem Mirrored.nodup_names (mirrored : s.Mirrored lifetime) (k : s.Keyed) :
    (s.outcomes.filterMap (·.transaction)).Nodup := by
  have hids : (s.asSold.map (·.id)).Nodup := by
    rw [asSold, List.map_map]
    exact k.transactions
  rw [List.Nodup, List.pairwise_filterMap]
  refine (List.pairwise_map.1 mirrored.unique).imp_of_mem ?_
  rintro r r' hr hr' hkeys id hid id' hid' rfl
  rcases mirrored.records r hr with ⟨t, ht, hmirrors⟩ | hrefusal
  · rcases mirrored.records r' hr' with ⟨t', ht', hmirrors'⟩ | hrefusal'
    · have hsame : t.id = t'.id := by
        refine Option.some.inj ?_
        rw [← hmirrors.names, ← hmirrors'.names, hid, hid']
      obtain rfl := List.inj_on_of_nodup_map hids ht ht' hsame
      exact hkeys (hmirrors.keyOf_eq.trans hmirrors'.keyOf_eq.symm)
    · rw [hrefusal'.names] at hid'
      cases hid'
  · rw [hrefusal.names] at hid
    cases hid

end Store

namespace Engine

variable {κ : Type} {e : Engine} {c : CacheAccess κ} {start : World κ} {steps : List (Step κ)}

/-- **Stored outcomes mirror sales** after a run: there is one under a key and one of a transaction,
and each is that of a transaction, as it was when it was first given, or of a refusal. -/
structure MirrorsSales (e : Engine) (c : CacheAccess κ) (start : World κ) (steps : List (Step κ)) :
    Prop where
  unique : ((e.run c start steps).store.outcomes.map OutcomeRecord.keyOf).Nodup
  records : ∀ r ∈ (e.run c start steps).store.outcomes,
    (∃ t ∈ (e.run c start steps).store.transactions,
      r.Mirrors e.keyLifetime t ∧ t.asSold ∈ e.soldIn c start steps) ∨ r.IsRefusal
  distinct : ((e.run c start steps).store.outcomes.filterMap (·.transaction)).Nodup

theorem run_mirrored {w : World κ} (hnow : w.now.IsRepresentable)
    (hshows : ∀ step ∈ steps, step.Shows Instant.IsRepresentable)
    (h : w.store.Mirrored e.keyLifetime) : (e.run c w steps).store.Mirrored e.keyLifetime :=
  run_keeps_shown (fun hnow hchange h => h.change (hchange.outcomes hnow)) hnow hshows h

/-- **Stored outcomes mirror sales** after every run. -/
theorem run_mirrorsSales {now : Instant} (hnow : now.IsRepresentable) (cache : κ)
    (hshows : ∀ step ∈ steps, step.Shows Instant.IsRepresentable) :
    e.MirrorsSales c (World.empty now cache) steps := by
  have mirrored := run_mirrored (w := World.empty now cache) (e := e) (c := c) hnow hshows
    Store.mirrored_empty
  have history : Recorded ([] ++ e.soldIn c (World.empty now cache) steps) _ _ :=
    (Recorded.empty hnow cache).run (e := e) (c := c) hshows
  refine ⟨mirrored.unique, ?_, mirrored.nodup_names history.keyed⟩
  intro r hr
  refine (mirrored.records r hr).imp_left ?_
  rintro ⟨t', ht', hmirrors⟩
  obtain ⟨t, ht, rfl⟩ := List.mem_map.1 ht'
  refine ⟨t, ht, OutcomeRecord.mirrors_asSold.1 hmirrors, ?_⟩
  -- What the payload gives was given before.
  obtain ⟨payload, houtcome, hpayload⟩ := hmirrors.payload
  refine history.replays r hr t.asSold ?_
  rw [houtcome, StoredOutcome.replay, hpayload]
  rfl

end Engine

/-! ### Outcomes that are lost -/

namespace OutcomeChange

variable {lifetime : Int} {now : Instant} {s after : Store}

/-- A record is lost only if it is not live. -/
theorem lost (h : OutcomeChange lifetime now s after) {r : OutcomeRecord} (hr : r ∈ s.outcomes) :
    r ∈ after.outcomes ∨ Store.isLive now r = false := by
  -- A record gives way to another one under its key.
  have hused : ∀ {k : KeyUse} {r' : OutcomeRecord}, k.now = now → k.record? s = Option.none →
      after.outcomes = (s.outcomes.filter fun o => !k.owns o) ++ [r'] →
      r ∈ after.outcomes ∨ Store.isLive now r = false := by
    intro k r' time free outcomes
    cases howned : k.owns r with
    | true => exact .inr (time ▸ KeyUse.expired_of_free free hr howned)
    | false =>
      rw [outcomes]
      refine .inl (List.mem_append_left _ (List.mem_filter.2 ⟨hr, ?_⟩))
      rw [howned, Bool.not_false]
  cases h with
  | none sales outcomes => exact .inl (outcomes ▸ hr)
  | sold time asSold free mirrors sales outcomes => exact hused time free outcomes
  | refused time free owned refusal sales outcomes => exact hused time free outcomes
  | purged sales outcomes =>
    cases hlive : Store.isLive now r with
    | false => exact .inr rfl
    | true => exact .inl (outcomes ▸ List.mem_filter.2 ⟨hr, hlive⟩)

/-- A transaction was there, or it is sold now and has its outcome. -/
theorem sale_origin (h : OutcomeChange lifetime now s after) {t : Transaction}
    (ht : t ∈ after.asSold) :
    t ∈ s.asSold ∨ t.createdAt = now ∧ ∃ r ∈ after.outcomes, r.Mirrors lifetime t := by
  cases h with
  | none sales | purged sales | refused _ _ _ _ sales => exact .inl (sales ▸ ht)
  | @sold t' r time asSold free mirrors sales outcomes =>
    rcases List.mem_append.1 (sales ▸ ht) with hold | hnew
    · exact .inl hold
    · obtain rfl := List.mem_singleton.1 hnew
      exact .inr ⟨time, r, outcomes ▸ List.mem_append_right _ List.mem_cons_self, mirrors⟩

end OutcomeChange

/-- **Expiries are kept** by a clock that shows only the given instants: what comes before the end
of a lifetime that is represented is also kept before it. -/
def KeepsExpiries (lifetime : Int) (shown : Instant → Prop) : Prop :=
  ∀ start now, shown start → shown now → (start.shift lifetime).IsRepresentable →
    start < start.shift lifetime → now < start.shift lifetime →
      Instant.keptBefore now (start.shift lifetime) = true

namespace Engine

variable {κ : Type} {e : Engine} {c : CacheAccess κ} {start : World κ} {steps : List (Step κ)}
  {t : Transaction} {p : Instant → Prop}

/-- **At some time of a run**, after a transaction was sold, the clock has shown such an instant. -/
def Reached (e : Engine) (c : CacheAccess κ) (start : World κ) (steps : List (Step κ))
    (t : Transaction) (p : Instant → Prop) : Prop :=
  ∃ front back, steps = front ++ back ∧ t.asSold ∈ (e.run c start front).store.asSold ∧
    p (e.run c start front).now

theorem Reached.concat (h : e.Reached c start steps t p) (step : Step κ) :
    e.Reached c start (steps ++ [step]) t p := by
  obtain ⟨front, back, rfl, ht, hp⟩ := h
  exact ⟨front, back ++ [step], by simp, ht, hp⟩

/-- **Transactions lose only expired outcomes** in a run: a transaction has its outcome, or the
clock has come to the expiry. -/
def LosesOnlyExpired (e : Engine) (c : CacheAccess κ) (start : World κ) (steps : List (Step κ)) :
    Prop :=
  ∀ t ∈ (e.run c start steps).store.transactions,
    (∃ r ∈ (e.run c start steps).store.outcomes, r.Mirrors e.keyLifetime t) ∨
      e.Reached c start steps t (t.createdAt.shift e.keyLifetime ≤ ·)

/-- A step that changes the store takes no time. -/
theorem apply_change_now (e : Engine) (c : CacheAccess κ) (w : World κ) (step : Step κ) :
    (e.apply c w step).store = w.store ∨
      Change e w.now w.store (e.apply c w step).store ∧ (e.apply c w step).now = w.now := by
  cases step with
  | request ids actor r =>
    exact (e.handle_change c ids actor r w).imp_right fun h => ⟨h, e.handle_now c ids actor r w⟩
  | purge => exact .inr ⟨e.purge_change w, rfl⟩
  | time now => exact .inl rfl
  | caching uptime cache => exact .inl rfl

theorem run_shows {w : World κ} (hnow : p w.now) (hshows : ∀ step ∈ steps, step.Shows p) :
    p (e.run c w steps).now := by
  induction steps generalizing w with
  | nil => exact hnow
  | cons step steps ih =>
    obtain ⟨hstep, hsteps⟩ := List.forall_mem_cons.1 hshows
    exact ih (apply_shows hnow hstep) hsteps

/-- **What becomes of a transaction** as it was sold in a run: the clock has shown when, and it has
its outcome or the clock has come to the expiry. -/
structure Traces (e : Engine) (c : CacheAccess κ) (start : World κ) (steps : List (Step κ))
    (t : Transaction) : Prop where
  sold : e.Reached c start steps t (· = t.createdAt)
  kept : (∃ r ∈ (e.run c start steps).store.outcomes, r.Mirrors e.keyLifetime t) ∨
    e.Reached c start steps t (t.createdAt.shift e.keyLifetime ≤ ·)

/-- An outcome that is lost has expired, if expiries are kept, or its lifetime was over before it
began. -/
theorem Traces.reached_of_lost {shown : Instant → Prop} (h : e.Traces c start steps t)
    (keeps : KeepsExpiries e.keyLifetime shown) (hnow : shown (e.run c start steps).now)
    (hcreated : shown t.createdAt) (hlasts : (t.createdAt.shift e.keyLifetime).IsRepresentable)
    (ht : t.asSold ∈ (e.run c start steps).store.asSold)
    (hlost : Instant.keptBefore (e.run c start steps).now (t.createdAt.shift e.keyLifetime) =
      false) : e.Reached c start steps t (t.createdAt.shift e.keyLifetime ≤ ·) := by
  by_cases hbegun : t.createdAt < t.createdAt.shift e.keyLifetime
  · refine ⟨steps, [], (List.append_nil _).symm, ht, Int.not_lt.1 ?_⟩
    intro hbefore
    rw [keeps _ _ hcreated hnow hlasts hbegun hbefore] at hlost
    cases hlost
  · obtain ⟨front, back, hsteps, hfront, htime⟩ := h.sold
    refine ⟨front, back, hsteps, hfront, ?_⟩
    rw [htime]
    exact Int.not_lt.1 hbegun

/-- **What becomes of a transaction in a step.** -/
theorem Traces.concat {shown : Instant → Prop} (h : e.Traces c start steps t)
    (keeps : KeepsExpiries e.keyLifetime shown) (hshown : ∀ t, shown t → t.IsRepresentable)
    (hstart : shown start.now) (hshows : ∀ step ∈ steps, step.Shows shown)
    (ht : t.asSold ∈ (e.run c start steps).store.asSold) (step : Step κ) :
    e.Traces c start (steps ++ [step]) t := by
  refine ⟨h.sold.concat step, ?_⟩
  rcases h.kept with ⟨r, hr, hmirrors⟩ | hreached
  · have hnow : shown (e.run c start steps).now := run_shows hstart hshows
    have hcreated : shown t.createdAt := by
      obtain ⟨front, back, rfl, -, htime⟩ := h.sold
      rw [← htime]
      exact run_shows hstart fun step hstep => hshows step (List.mem_append_left _ hstep)
    have hfate : r ∈ (e.run c start (steps ++ [step])).store.outcomes ∨
        Store.isLive (e.run c start steps).now r = false := by
      rw [run_append, run_cons, run_nil]
      rcases e.apply_change c (e.run c start steps) step with hsame | hchange
      · exact .inl (hsame ▸ hr)
      · exact (hchange.outcomes (hshown _ hnow)).lost hr
    rcases hfate with hstays | hlost
    · exact .inl ⟨r, hstays, hmirrors⟩
    · rw [Store.isLive, hmirrors.expiry] at hlost
      exact .inr ((h.reached_of_lost keeps hnow hcreated hmirrors.lasts ht hlost).concat step)
  · exact .inr (hreached.concat step)

/-- **What becomes of all transactions in a step**: those that are sold in it have their outcome. -/
theorem traces_concat {shown : Instant → Prop} (keeps : KeepsExpiries e.keyLifetime shown)
    (hshown : ∀ t, shown t → t.IsRepresentable) (hstart : shown start.now)
    (hshows : ∀ step ∈ steps, step.Shows shown)
    (h : ∀ t ∈ (e.run c start steps).store.asSold, e.Traces c start steps t) (step : Step κ) :
    ∀ t ∈ (e.run c start (steps ++ [step])).store.asSold, e.Traces c start (steps ++ [step]) t := by
  intro t ht
  have hsold := Store.asSold_of_mem ht
  have hold : t ∈ (e.run c start steps).store.asSold → e.Traces c start (steps ++ [step]) t := by
    intro hmem
    exact (h t hmem).concat keeps hshown hstart hshows (hsold.symm ▸ hmem) step
  have hsplit : e.run c start (steps ++ [step]) = e.apply c (e.run c start steps) step :=
    run_append ..
  rcases e.apply_change_now c (e.run c start steps) step with hsame | ⟨hchange, htime⟩
  · refine hold ?_
    rw [← hsame, ← hsplit]
    exact ht
  · have hnow := hshown _ (run_shows (e := e) (c := c) hstart hshows)
    rcases (hchange.outcomes hnow).sale_origin (hsplit ▸ ht) with hmem | ⟨hcreated, hown⟩
    · exact hold hmem
    · refine ⟨⟨steps ++ [step], [], (List.append_nil _).symm, hsold.symm ▸ ht, ?_⟩, .inl ?_⟩
      · rw [hsplit, htime, hcreated]
      · rw [hsplit]
        exact hown

/-- **What becomes of all transactions** of a run. -/
theorem run_traces {shown : Instant → Prop} (keeps : KeepsExpiries e.keyLifetime shown)
    (hshown : ∀ t, shown t → t.IsRepresentable) {now : Instant} (hnow : shown now) (cache : κ)
    (hshows : ∀ step ∈ steps, step.Shows shown) :
    ∀ t ∈ (e.run c (World.empty now cache) steps).store.asSold,
      e.Traces c (World.empty now cache) steps t := by
  induction steps using List.reverseRecOn with
  | nil => exact fun _ ht => absurd ht List.not_mem_nil
  | append_singleton steps step ih =>
    obtain ⟨hbefore, -⟩ := List.forall_mem_append.1 hshows
    exact traces_concat keeps hshown hnow hbefore (ih hbefore) step

/-- **Transactions lose only expired outcomes** if expiries are kept. -/
theorem run_losesOnlyExpired {shown : Instant → Prop} (keeps : KeepsExpiries e.keyLifetime shown)
    (hshown : ∀ t, shown t → t.IsRepresentable) {now : Instant} (hnow : shown now) (cache : κ)
    (hshows : ∀ step ∈ steps, step.Shows shown) :
    e.LosesOnlyExpired c (World.empty now cache) steps := by
  intro t ht
  have ht' : t.asSold ∈ (e.run c (World.empty now cache) steps).store.asSold :=
    List.mem_map_of_mem ht
  refine (run_traces keeps hshown hnow cache hshows t.asSold ht').kept.imp_left ?_
  rintro ⟨r, hr, hmirrors⟩
  exact ⟨r, hr, OutcomeRecord.mirrors_asSold.1 hmirrors⟩

end Engine

/-! ### An outcome that is forgotten too early -/

namespace DoubleSale

/-- The steps of a till that sells at one instant and forgets expired outcomes at another. -/
def forgetting (now : Instant) : List (Step Cache) :=
  stocking ++ [checkout "6", .time now, .purge]

variable {lifetime : Int} {opening now : Instant}

theorem run_forgetting (hrepresentable : (opening.shift lifetime).IsRepresentable)
    (hlost : Instant.keptBefore now (opening.shift lifetime) = false) :
    ((till lifetime).run Cache.access (World.empty opening .absent) (forgetting now)).store =
      { soldOnce lifetime opening with outcomes := [] } := by
  obtain ⟨w, hsale, -, hrun⟩ := run_checkout hrepresentable [.time now, .purge]
  rw [forgetting, hrun]
  simp only [Engine.run_cons, Engine.run_nil]
  change (w.store.purge now).1 = _
  rw [hsale, Store.purge]
  simp only [soldOnce, OutcomeRecord.kept, Claim.record, claim, List.filter_cons, Store.isLive,
    hlost, List.filter_nil]
  rfl

/-- **A till that forgets an outcome too early** has a transaction without one, although the clock
has not come to the expiry. -/
theorem not_losesOnlyExpired (hrepresentable : (opening.shift lifetime).IsRepresentable)
    (hbegun : opening < opening.shift lifetime) (hbefore : now < opening.shift lifetime)
    (hlost : Instant.keptBefore now (opening.shift lifetime) = false) :
    ¬(till lifetime).LosesOnlyExpired Cache.access (World.empty opening .absent)
      (forgetting now) := by
  intro h
  have hstore := run_forgetting hrepresentable hlost
  have hmem : sold "6" opening ∈ ((till lifetime).run Cache.access (World.empty opening .absent)
      (forgetting now)).store.transactions := by
    rw [hstore]
    exact List.mem_singleton_self _
  have hshows : ∀ step ∈ forgetting now, step.Shows fun t => t = opening ∨ t = now := by
    simp [forgetting, stocking, checkout, Step.Shows]
  rcases h _ hmem with ⟨r, hr, -⟩ | ⟨front, back, hsteps, -, hreached⟩
  · rw [hstore] at hr
    cases hr
  · have hfront : ∀ step ∈ front, step.Shows fun t => t = opening ∨ t = now :=
      fun step hstep => hshows step (hsteps ▸ List.mem_append_left _ hstep)
    have hexpiry : opening.shift lifetime ≤
        ((till lifetime).run Cache.access (World.empty opening .absent) front).now := hreached
    rcases Engine.run_shows (e := till lifetime) (c := Cache.access)
      (w := World.empty opening .absent) (.inl rfl) hfront with htime | htime <;>
      rw [htime] at hexpiry
    · exact absurd hbegun (Int.not_lt.2 hexpiry)
    · exact absurd hbefore (Int.not_lt.2 hexpiry)

end DoubleSale

/-! ### Which clocks will do -/

namespace Engine

/-- A property of the runs of all tills whose keys have a lifetime and whose clock shows only the
given instants. -/
def InRuns (lifetime : Int) (shown : Instant → Prop)
    (p : ∀ {κ : Type}, Engine → CacheAccess κ → World κ → List (Step κ) → Prop) : Prop :=
  ∀ (κ : Type) (e : Engine) (c : CacheAccess κ) (now : Instant) (cache : κ) (steps : List (Step κ)),
    e.keyLifetime = lifetime → shown now → (∀ step ∈ steps, step.Shows shown) →
      p e c (World.empty now cache) steps

/-- **Stored outcomes mirror sales**: each is that of a transaction or of a refusal, one under a key
and one of a transaction.  A transaction loses its outcome only after the clock has come to the
expiry exactly if expiries are kept. -/
theorem run_mirrors_iff {lifetime : Int} {shown : Instant → Prop}
    (hshown : ∀ t, shown t → t.IsRepresentable) :
    InRuns lifetime shown MirrorsSales ∧
      (InRuns lifetime shown LosesOnlyExpired ↔ KeepsExpiries lifetime shown) := by
  have hstep : ∀ {κ : Type} (step : Step κ), step.Shows shown →
      step.Shows Instant.IsRepresentable := by
    intro κ step h
    cases step with
    | time now => exact hshown now h
    | _ => trivial
  refine ⟨?_, ?_, ?_⟩
  · intro κ e c now cache steps _ hnow hshows
    exact run_mirrorsSales (hshown now hnow) cache fun step hmem => hstep step (hshows step hmem)
  · intro h opening now hopening hnow hlasts hbegun hbefore
    cases hkept : Instant.keptBefore now (opening.shift lifetime) with
    | true => rfl
    | false =>
      -- The till sells at the one instant and forgets the outcome at the other.
      have hshows : ∀ step ∈ DoubleSale.forgetting now, step.Shows shown := by
        simp [DoubleSale.forgetting, DoubleSale.stocking, DoubleSale.checkout, Step.Shows, hnow]
      exact absurd (h Cache (DoubleSale.till lifetime) Cache.access opening .absent _ rfl hopening
        hshows) (DoubleSale.not_losesOnlyExpired hlasts hbegun hbefore hkept)
  · rintro keeps κ e c now cache steps rfl hnow hshows
    exact run_losesOnlyExpired keeps hshown hnow cache hshows

/-- Under keys that last for a day, a clock in the years 0 to 9999 keeps expiries. -/
theorem run_mirrors_day :
    let shown : Instant → Prop := IsPlain 86400000000000
    (∀ t, shown t → t.IsRepresentable) ∧ InRuns 86400000000000 shown MirrorsSales ∧
      InRuns 86400000000000 shown LosesOnlyExpired := by
  intro shown
  have hshown : ∀ t, shown t → t.IsRepresentable :=
    fun t ht => isRepresentable_of_hasPlainYear ht.1
  have keeps : KeepsExpiries 86400000000000 shown := by
    rintro start now ⟨-, hend⟩ ⟨hnow, -⟩ - - hbefore
    rw [Instant.keptBefore, hnow, hend]
    exact decide_eq_true hbefore
  obtain ⟨hmirrors, hloses⟩ := run_mirrors_iff hshown
  exact ⟨hshown, hmirrors, hloses.2 keeps⟩

end Engine

/-- At noon of 9999-12-31, a till whose keys last for a day forgets the outcome of a transaction at
once. -/
theorem DoubleSale.not_losesOnlyExpired_lastNoon :
    let noon := Instant.ofMinute (Calendar.yearStart 10000 * 1440 - 720) 0
    (noon.IsRepresentable ∧ (noon.shift 86400000000000).IsRepresentable) ∧
      ¬(till 86400000000000).LosesOnlyExpired Cache.access (World.empty noon .absent)
        (forgetting noon) := by
  intro noon
  have hrepresentable : noon.IsRepresentable ∧ (noon.shift 86400000000000).IsRepresentable := by
    decide +kernel
  have hbegun : noon < noon.shift 86400000000000 := by decide +kernel
  -- The end of the day is written with a sign, which comes before all digits.
  have hlost : Instant.keptBefore noon (noon.shift 86400000000000) = false := by decide +kernel
  exact ⟨hrepresentable, not_losesOnlyExpired hrepresentable.2 hbegun hbegun hlost⟩

end Till
