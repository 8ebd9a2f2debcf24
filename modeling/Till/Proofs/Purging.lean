import Till.Proofs.AtMostOnce
import Till.Proofs.Expiry
import Till.Proofs.Unread

/-!
# Purging is not observed

A purge removes records that are not live, and nobody but a purge ever sees those.  So a till that is
purged now and then gives the same answers as one that is never purged, and keeps the same rows but
for stored outcomes, as long as its clock does not go back (`Engine.purging_unobserved`).

Two stores are alike at an instant if they differ in records that are not live, and in nothing else
(`Store.AlikeAt`).  They stay alike when time passes, and everything that reads or writes stored
outcomes does the same to both:

* `Store.AlikeAt.addOutcome`, `Store.commitSale_alike` : single writes;
* `Engine.once_alike`, `Engine.handle_alike` : sales, and with them all requests;
* `Engine.run_alike` : a run and the one without its purges.
-/

namespace Till

open Engine (KeyUse)

/-! ### Stores that are alike -/

namespace Store

variable {s s' : Store} {now : Instant}

/-- **Stores are alike** at an instant: they have the same rows but for stored outcomes, and the same
live records. -/
structure AlikeAt (now : Instant) (s s' : Store) : Prop where
  rows : s' = s.withOutcomes s'.outcomes
  live : s'.outcomes.filter (isLive now) = s.outcomes.filter (isLive now)

/-- **What is live stays so when the clock goes back**, in the years 0 to 9999. -/
theorem isLive_of_later {now' : Instant} {r : OutcomeRecord} (hnow : now.hasPlainYear = true)
    (hnow' : now'.hasPlainYear = true) (hle : now ≤ now') (hlive : isLive now' r = true) :
    isLive now r = true := by
  cases hexpiry : r.expiresAt.hasPlainYear with
  | false =>
    rw [isLive, Instant.keptBefore_of_signed hnow' hexpiry] at hlive
    cases hlive
  | true =>
    simp only [isLive, Instant.keptBefore, hnow, hnow', hexpiry, Bool.and_self, if_true,
      decide_eq_true_eq] at hlive ⊢
    exact Int.lt_of_le_of_lt hle hlive

namespace AlikeAt

theorem refl (now : Instant) (s : Store) : AlikeAt now s s := ⟨rfl, rfl⟩

/-- A purge does not matter. -/
theorem purge_left (h : AlikeAt now s s') : AlikeAt now (s.purge now).1 s' where
  rows := h.rows
  live := by simp only [purge, List.filter_filter, Bool.and_self, h.live]

/-- Neither does it matter what is not live any more. -/
theorem later {now' : Instant} (hnow : now.hasPlainYear = true) (hnow' : now'.hasPlainYear = true)
    (hle : now ≤ now') (h : AlikeAt now s s') : AlikeAt now' s s' where
  rows := h.rows
  live := by
    have hlive : ∀ rs : List OutcomeRecord,
        (rs.filter (isLive now)).filter (isLive now') = rs.filter (isLive now') := fun rs =>
      Rows.filter_filter_of_imp fun _ _ => isLive_of_later hnow hnow' hle
    rw [← hlive, h.live, hlive]

/-- What is found is the same. -/
theorem outcome?_eq (h : AlikeAt now s s') (store cashier key : String) :
    s'.outcome? store cashier key now = s.outcome? store cashier key now := by
  have hfind : ∀ s : Store, s.outcome? store cashier key now =
      (s.outcomes.filter (isLive now)).find? (belongs store cashier key) := by
    intro s
    simp only [List.find?_filter, Bool.decide_and, Bool.decide_eq_true, Bool.and_comm]
    rfl
  rw [hfind, hfind, h.live]

/-- What is forgotten does not matter. -/
theorem forgetExpired (h : AlikeAt now s s') (r : OutcomeRecord) :
    AlikeAt now (s.forgetExpired r now) (s'.forgetExpired r now) where
  rows := by
    rw [h.rows]
    rfl
  live := by
    have hkept : ∀ s : Store, (s.forgetExpired r now).outcomes.filter (isLive now) =
        s.outcomes.filter (isLive now) := by
      intro s
      refine Rows.filter_filter_of_imp fun o _ hlive => ?_
      rw [hlive, Bool.not_true, Bool.and_false]
      rfl
    rw [hkept, hkept, h.live]

/-- A record is remembered in both. -/
theorem remembered (h : AlikeAt now s s') (r : OutcomeRecord) :
    AlikeAt now (s.remembered r now) (s'.remembered r now) where
  rows := by
    rw [h.rows]
    rfl
  live := by
    simp only [Store.remembered, List.filter_append, (h.forgetExpired r).live]

/-- A record is added to both or refused by both. -/
theorem addOutcome (h : AlikeAt now s s') (r : OutcomeRecord) :
    AlikeAt now (s.addOutcome r now).1 (s'.addOutcome r now).1 := by
  have hfound := h.outcome?_eq r.store r.cashier r.key
  cases htaken : s.outcome? r.store r.cashier r.key now with
  | none =>
    rw [addOutcome_of_free htaken, addOutcome_of_free (hfound.trans htaken)]
    exact h.remembered r
  | some o =>
    rw [addOutcome_of_taken htaken, addOutcome_of_taken (hfound.trans htaken)]
    exact h.forgetExpired r

end AlikeAt

/-- **A sale is booked alike**, if its key is free. -/
theorem commitSale_alike {u : SaleUnit} (htime : u.transaction.createdAt = now)
    (hfree : s.outcome? u.record.store u.record.cashier u.record.key now = none)
    (h : AlikeAt now s s') :
    ∃ rs, s'.commitSale u = (·.withOutcomes rs) <$> s.commitSale u ∧
      ∀ after, s.commitSale u = .ok after → AlikeAt now after (after.withOutcomes rs) := by
  have hclaimed := h.remembered u.record
  have hfree' := (h.outcome?_eq ..).trans hfree
  rw [commitSale_eq, commitSale_eq, htime, claimKey_of_free hfree, claimKey_of_free hfree']
  generalize s.remembered u.record now = claimed at hclaimed
  generalize s'.remembered u.record now = claimed' at hclaimed
  refine ⟨claimed'.outcomes, ?_, ?_⟩
  · rw [hclaimed.rows]
    exact commitClaimed_withOutcomes u
  · intro after hafter
    -- The rest of the sale leaves the records alone.
    have hsame : (·.withOutcomes claimed.outcomes) <$> claimed.commitClaimed u = .ok after :=
      (commitClaimed_withOutcomes u).symm.trans hafter
    obtain ⟨_, -, rfl⟩ := Outcome.map_eq_ok.1 hsame
    exact ⟨rfl, hclaimed.live⟩

end Store

/-! ### Sales -/

/-- **Steps end alike** at an instant: with the same result, and in stores that are alike. -/
structure EndAlike {α : Type} (now : Instant) (done done' : Result α × Store) : Prop where
  result : done'.1 = done.1
  stores : done.2.AlikeAt now done'.2

theorem EndAlike.transact {α : Type} {now : Instant} {s s' : Store}
    {unit : Store → Result (α × Store)} (rs : List OutcomeRecord)
    (hunit : unit s' = Prod.map id (·.withOutcomes rs) <$> unit s)
    (hafter : ∀ a after, unit s = .ok (a, after) → after.AlikeAt now (after.withOutcomes rs))
    (h : s.AlikeAt now s') : EndAlike now (Action.transact unit s) (Action.transact unit s') := by
  simp only [Action.transact, hunit]
  rcases hdone : unit s with fault | ⟨a, after⟩
  · exact ⟨rfl, h⟩
  · exact ⟨rfl, hafter a after hdone⟩

namespace Engine

variable {e : Engine} {ids : Ids} {now : Instant} {actor : Actor} {cart : Cart} {key : String}
  {s s' : Store}

/-- The unit of a sale under a claim is of the time of the claim, and its key is free. -/
theorem free_of_planSale {claim : Claim} {u : SaleUnit}
    (claims : Claims e.keyLifetime ⟨actor.store, actor.cashier, key, now⟩ s claim)
    (hplan : e.planSale ids now actor cart claim s = .ok u) :
    u.transaction.createdAt = now ∧
      s.outcome? u.record.store u.record.cashier u.record.key now = none := by
  obtain ⟨sh, pricing, totals, -, -, rfl⟩ := planSale_eq_ok hplan
  obtain ⟨-, rfl⟩ := Claim.make_eq_ok.1 claims.made
  exact ⟨rfl, claims.free⟩

/-- A sale under a claim is made alike. -/
theorem sell_alike {claim : Claim}
    (claims : Claims e.keyLifetime ⟨actor.store, actor.cashier, key, now⟩ s claim)
    (h : s.AlikeAt now s') :
    EndAlike now (e.sell ids now actor cart claim s) (e.sell ids now actor cart claim s') := by
  have hplan : e.planSale ids now actor cart claim s' = e.planSale ids now actor cart claim s := by
    rw [h.rows]
    rfl
  rw [sell_eq]
  cases hunit : e.planSale ids now actor cart claim s with
  | error fault =>
    rw [hunit] at hplan
    refine .transact [] ?_ ?_ h
    · simp only [sale, hplan, hunit]
      rfl
    · intro t after hafter
      simp [sale, hunit, bind, Except.bind] at hafter
  | ok u =>
    obtain ⟨htime, hfree⟩ := free_of_planSale claims hunit
    obtain ⟨rs, hcommit, hafter⟩ := Store.commitSale_alike htime hfree h
    refine .transact rs ?_ ?_ h
    · refine Outcome.bind_eq_map_of_eq hplan fun u' hu' => ?_
      obtain rfl := Except.ok.inj (hunit.symm.trans hu')
      exact Outcome.bind_eq_map (Stored.result_eq_map hcommit) fun _ _ => rfl
    · intro t after hsold
      simp only [sale, Outcome.bind_eq_ok, Stored.result_eq_ok, Outcome.pure_eq_ok] at hsold
      obtain ⟨u', hu', after', hcommitted, hdone⟩ := hsold
      obtain rfl := Except.ok.inj (hunit.symm.trans hu')
      obtain ⟨-, rfl⟩ := Prod.mk.inj hdone
      exact hafter _ hcommitted

/-- What came of a body is dealt with alike. -/
theorem settle_alike {α : Type} {k : KeyUse} (claim : Claim) (read : Json → Option α)
    {done done' : Result α × Store} (h : EndAlike k.now done done') :
    EndAlike k.now (settle k claim read done) (settle k claim read done') := by
  obtain ⟨result, after⟩ := done
  obtain ⟨result', after'⟩ := done'
  have hstores : after.AlikeAt k.now after' := h.stores
  obtain rfl : result = result' := h.result.symm
  match result with
  | .ok a => exact h
  | .error .overflow => exact h
  | .error (.rejected reason) =>
    by_cases hflight : ∃ key, reason = .inFlight key
    · obtain ⟨key, rfl⟩ := hflight
      have hfound : k.record? after' = k.record? after := hstores.outcome?_eq ..
      simp only [settle, hfound]
      split <;> exact ⟨rfl, hstores⟩
    · have hreason : ∀ key, reason ≠ .inFlight key := fun key hkey => hflight ⟨key, hkey⟩
      rw [settle_rejected hreason, settle_rejected hreason]
      split
      · exact ⟨rfl, hstores.addOutcome _⟩
      · exact h

/-- **A request under a key ends alike**, if its body does under a claim. -/
theorem once_alike {α : Type} {lifetime : Int} {k : KeyUse} (read : Json → Option α)
    {body : Claim → Action Store α} (h : s.AlikeAt k.now s')
    (hbody : ∀ claim, Claims lifetime k s claim → EndAlike k.now (body claim s) (body claim s')) :
    EndAlike k.now (once lifetime k read body s) (once lifetime k read body s') := by
  have hsame : k.record? s' = k.record? s := h.outcome?_eq ..
  unfold once
  cases hkey : Field.key k.key with
  | error problem => exact ⟨rfl, h⟩
  | ok _ =>
    simp only [Field.Check.run, Outcome.ofCheck, hsame]
    cases hfound : k.record? s with
    | some r => exact ⟨rfl, h⟩
    | none =>
      cases hmade : Claim.make k.store k.cashier k.key k.now lifetime with
      | error fault => exact ⟨rfl, h⟩
      | ok claim => exact settle_alike claim read (hbody claim ⟨hkey, hfound, hmade⟩)

theorem sellOnce_alike (e : Engine) (ids : Ids) (actor : Actor) (cart : Cart) (key : String)
    (h : s.AlikeAt now s') :
    EndAlike now (e.sellOnce ids now actor cart key s) (e.sellOnce ids now actor cart key s') :=
  once_alike (k := ⟨actor.store, actor.cashier, key, now⟩) Transaction.ofJson? h
    fun _ claims => sell_alike claims h

end Engine

/-! ### Requests -/

namespace World

variable {κ : Type}

/-- **Worlds are alike**: they differ in nothing but stored outcomes, and have the same live ones. -/
structure Alike (w w' : World κ) : Prop where
  rest : w' = w.withOutcomes w'.store.outcomes
  live : w'.store.outcomes.filter (Store.isLive w.now) =
    w.store.outcomes.filter (Store.isLive w.now)

variable {w w' : World κ}

theorem Alike.refl (w : World κ) : w.Alike w := ⟨rfl, rfl⟩

theorem Alike.stores (h : w.Alike w') : w.store.AlikeAt w.now w'.store where
  rows := congrArg World.store h.rest
  live := h.live

/-- Two worlds that are like a third one are alike. -/
theorem Alike.of_common {w₁ w₂ : World κ} (h₁ : w₁.Alike w) (h₂ : w₂.Alike w) : w₁.Alike w₂ where
  rest := by
    have hrest : w₂.withOutcomes w.store.outcomes = w₁.withOutcomes w.store.outcomes :=
      h₂.rest.symm.trans h₁.rest
    have hboth := congrArg (World.withOutcomes · w₂.store.outcomes) hrest
    exact hboth
  live := by
    have hnow : w₁.now = w₂.now := by
      have hboth := congrArg World.now (h₁.rest.symm.trans h₂.rest)
      exact hboth
    rw [hnow, ← h₂.live, ← hnow, h₁.live]

theorem Alike.eq_store (h : w.Alike w') : w' = { w with store := w'.store } := by
  rw [h.rest]
  rfl

theorem Alike.of_stores {s s' : Store} (h : s.AlikeAt w.now s') :
    Alike { w with store := s } { w with store := s' } where
  rest := congrArg (fun s => { w with store := s }) h.rows
  live := h.live

/-- Steps that do not read stored outcomes keep worlds alike. -/
theorem Alike.of_unread {α : Type} {step : Action (World κ) α}
    (hunread : ∀ rs, step.CommutesAt (·.withOutcomes rs) w) (hnow : (step w).2.now = w.now)
    (h : w.Alike w') : (step w').1 = (step w).1 ∧ (step w).2.Alike (step w').2 := by
  have hkept : step w = Prod.map id (·.withOutcomes w.store.outcomes) (step w) := hunread _
  have hother : step w' = Prod.map id (·.withOutcomes w'.store.outcomes) (step w) := by
    rw [h.rest]
    exact hunread _
  have houtcomes : (step w).2.store.outcomes = w.store.outcomes :=
    congrArg (·.2.store.outcomes) hkept
  rw [hother]
  refine ⟨rfl, rfl, ?_⟩
  rw [hnow, houtcomes]
  exact h.live

end World

namespace Engine

variable {κ : Type} {e : Engine} {c : CacheAccess κ} {w w' : World κ}

theorem checkout_alike (e : Engine) (c : CacheAccess κ) (ids : Ids) (actor : Actor) (cart : Cart)
    (key : String) (h : w.Alike w') :
    (e.checkout c ids actor cart key w').1 = (e.checkout c ids actor cart key w).1 ∧
      (e.checkout c ids actor cart key w).2.Alike (e.checkout c ids actor cart key w').2 := by
  have hsold := sellOnce_alike e ids actor cart key h.stores
  rw [h.eq_store]
  rcases hsell : e.sellOnce ids w.now actor cart key w.store with ⟨result, after⟩
  rcases hsell' : e.sellOnce ids w.now actor cart key w'.store with ⟨result', after'⟩
  rw [hsell, hsell'] at hsold
  obtain rfl : result' = result := hsold.result
  have hafter : World.Alike { w with store := after } { w with store := after' } :=
    .of_stores hsold.stores
  cases result' with
  | error fault =>
    rw [checkout_of_error e c ids actor cart key hsell,
      checkout_of_error (w := { w with store := w'.store }) e c ids actor cart key hsell']
    exact ⟨rfl, hafter⟩
  | ok t =>
    rw [checkout_eq e c ids actor cart key hsell,
      checkout_eq (w := { w with store := w'.store }) e c ids actor cart key hsell']
    exact hafter.of_unread (fun rs => withSuggestions_unread e c t _) (withSuggestions_now ..)

/-- **All requests are answered alike**, and keep worlds alike. -/
theorem handle_alike (e : Engine) (c : CacheAccess κ) (ids : Ids) (actor : Actor) (r : Request)
    (h : w.Alike w') :
    (e.handle c ids actor r w').1 = (e.handle c ids actor r w).1 ∧
      (e.handle c ids actor r w).2.Alike (e.handle c ids actor r w').2 := by
  by_cases hsale : ∃ cart key, r = .checkout cart key
  · obtain ⟨cart, key, rfl⟩ := hsale
    obtain ⟨hanswer, halike⟩ := checkout_alike e c ids actor cart key h
    constructor
    · simp only [handle, Action.mapAnswer_fst, hanswer]
    · simpa only [handle, mapAnswer_snd] using halike
  · have hother : ∀ cart key, r ≠ .checkout cart key := fun cart key hr => hsale ⟨cart, key, hr⟩
    exact h.of_unread (fun _ => handle_unread e c ids actor hother w) (handle_now ..)

end Engine

/-! ### Runs -/

/-- Whether a step is a purge. -/
def Step.isPurge {κ : Type} : Step κ → Bool
  | .purge => true
  | _ => false

/-- The steps of a till that is never purged. -/
def Step.unpurged {κ : Type} (steps : List (Step κ)) : List (Step κ) :=
  steps.filter fun step => !step.isPurge

namespace Engine

variable {κ : Type} {e : Engine} {c : CacheAccess κ} {w w' : World κ}

/-- The answers to all requests of a list of steps. -/
def answers (e : Engine) (c : CacheAccess κ) : World κ → List (Step κ) → List (Result Reply)
  | _, [] => []
  | w, .request ids actor r :: steps =>
    (e.handle c ids actor r w).1 :: answers e c (e.handle c ids actor r w).2 steps
  | w, .purge :: steps => answers e c (e.apply c w .purge) steps
  | w, .time now :: steps => answers e c (e.apply c w (.time now)) steps
  | w, .caching uptime cache :: steps => answers e c (e.apply c w (.caching uptime cache)) steps

/-- **A till that is purged runs alike** one that is never purged. -/
theorem run_alike {steps : List (Step κ)} (hnow : w.now.hasPlainYear = true)
    (hforward : Forward (fun t => t.hasPlainYear = true) w.now steps) (h : w.Alike w') :
    e.answers c w' (Step.unpurged steps) = e.answers c w steps ∧
      (e.run c w steps).Alike (e.run c w' (Step.unpurged steps)) := by
  induction steps generalizing w w' with
  | nil => exact ⟨rfl, h⟩
  | cons step steps ih =>
    obtain ⟨-, hshown, hrest⟩ := apply_forward e c hnow hforward
    cases step with
    | request ids actor r =>
      obtain ⟨hanswer, halike⟩ := handle_alike e c ids actor r h
      obtain ⟨hanswers, hrun⟩ := ih hshown hrest halike
      exact ⟨congrArg₂ List.cons hanswer hanswers, hrun⟩
    | purge => exact ih hshown hrest ⟨h.rest, h.stores.purge_left.live⟩
    | time later =>
      obtain ⟨hle, hlater, -⟩ := hforward
      have halike : (w.atTime later).Alike (w'.atTime later) :=
        ⟨congrArg (World.atTime · later) h.rest, (h.stores.later hnow hlater hle).live⟩
      exact ih hshown hrest halike
    | caching uptime cache =>
      have halike : World.Alike { w with uptime, cache } { w' with uptime, cache } :=
        ⟨congrArg (fun w : World κ => { w with uptime, cache }) h.rest, h.live⟩
      exact ih hshown hrest halike

theorem forward_unpurged {shown : Instant → Prop} {now : Instant} {steps : List (Step κ)} :
    Forward shown now (Step.unpurged steps) ↔ Forward shown now steps := by
  induction steps generalizing now with
  | nil => exact Iff.rfl
  | cons step steps ih =>
    cases step with
    | time later => exact and_congr_right fun _ => and_congr_right fun _ => ih
    | request | purge | caching => exact ih

/-- **Purging is not observed**: of two lists of steps that differ in purges only, all requests get
the same answers, and the worlds afterwards differ in nothing but stored outcomes that are not live,
as long as the clock does not go back and shows the years 0 to 9999.  What is stored under a key, is
refused there and is purged can be told from the writes to the table of outcomes alone. -/
theorem purging_unobserved (e : Engine) (c : CacheAccess κ) {start : World κ}
    {steps steps' : List (Step κ)} {writes : List OutcomeWrite}
    (hstart : start.now.hasPlainYear = true)
    (hforward : Forward (fun t => t.hasPlainYear = true) start.now steps)
    (hsame : Step.unpurged steps' = Step.unpurged steps) (hplain : ∀ w ∈ writes, w.IsPlain) :
    (e.answers c start steps' = e.answers c start steps ∧
        (e.run c start steps).Alike (e.run c start steps')) ∧
      OutcomeWrite.Tracks writes := by
  have hforward' : Forward (fun t => t.hasPlainYear = true) start.now steps' :=
    forward_unpurged.1 (hsame ▸ forward_unpurged.2 hforward)
  obtain ⟨hanswers, hrun⟩ := run_alike (e := e) (c := c) hstart hforward (.refl start)
  obtain ⟨hanswers', hrun'⟩ := run_alike (e := e) (c := c) hstart hforward' (.refl start)
  rw [hsame] at hanswers' hrun'
  exact ⟨⟨hanswers'.symm.trans hanswers, hrun.of_common hrun'⟩, OutcomeWrite.run_tracks hplain⟩

/-- A day on which two units are sold, with purges and without; and a record that is claimed again
once it was purged. -/
theorem purging_unobserved_day :
    let day : List (Step Cache) :=
      DoubleSale.stocking ++ [DoubleSale.checkout "6", .time ⟨60⟩, DoubleSale.checkout "7"]
    let purged : List (Step Cache) :=
      .purge :: DoubleSale.stocking ++
        [DoubleSale.checkout "6", .purge, .time ⟨60⟩, .purge, DoubleSale.checkout "7", .purge]
    let record : OutcomeRecord :=
      ⟨"store", "manager", "key", none, .success .null, ⟨0⟩, ⟨60⟩⟩
    let writes : List OutcomeWrite :=
      [.claim record ⟨0⟩, .insert record ⟨30⟩, .purge ⟨60⟩, .claim record ⟨60⟩]
    let start : World Cache := World.empty ⟨0⟩ .absent
    ((DoubleSale.till 60).answers Cache.access start purged =
          (DoubleSale.till 60).answers Cache.access start day ∧
        ((DoubleSale.till 60).run Cache.access start day).Alike
          ((DoubleSale.till 60).run Cache.access start purged)) ∧
      OutcomeWrite.Tracks writes := by
  intro day purged record writes start
  refine purging_unobserved _ _ (by decide) ?_ rfl ?_
  · exact ⟨by decide, by decide, trivial⟩
  · intro w hw
    simp only [writes, List.mem_cons, List.not_mem_nil, or_false] at hw
    rcases hw with rfl | rfl | rfl | rfl
    · exact ⟨by decide, by decide⟩
    · exact ⟨by decide, by decide⟩
    · exact (by decide : Instant.hasPlainYear ⟨60⟩ = true)
    · exact ⟨by decide, by decide⟩

end Engine

end Till
