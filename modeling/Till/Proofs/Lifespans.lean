import Till.Proofs.Answered
import Till.Proofs.Calendar
import Till.Proofs.Unadvised

/-!
# Settings whose times are too long

The time for voiding and the lifetime of keys are kept in seconds, and what an engine works with are
spans and instants, which have limits of their own.  `Settings.check` bounds both times from below
only, so settings that pass it may still be too much for the clock.

* `Instant.farthest` : the seconds from the last instant of the year 9999 to the last one of all;
* `Engine.ofSettings_eq_ok` : there is an engine exactly if both times are spans;
* `Engine.KeepsTime` : in the years 0 to 9999, no checkout, void or refund stops at an instant that
  is out of reach;
* `Settings.keepsTime_iff` : settings that pass have such an engine exactly if voiding takes no
  longer than a span, and keys live no longer than the clock goes on;
* `Settings.not_keepsTime_forever` : settings that pass and have none.
-/

namespace Till

open Outcome (Answers)

/-! ### Spans and instants -/

namespace Instant

/-- The seconds from the end of the year 9999 to the end of the last year. -/
def farthest : Int := (Calendar.yearStart 262143 - Calendar.yearStart 10000) * 86400

/-- The last instant of the year 9999 outside a leap second. -/
def lastPlain : Instant := ofElapsed (Calendar.yearStart 10000 * minutesPerDay * perMinute - 1)

theorem spanOfSeconds_eq_ok {ε : Type} {seconds span : Int} :
    (spanOfSeconds seconds : Outcome ε Int) = .ok span ↔
      (-greatestSeconds ≤ seconds ∧ seconds ≤ greatestSeconds) ∧ span = seconds * perSecond := by
  rw [spanOfSeconds]
  split
  · next h => simp [h, eq_comm (a := span)]
  · next h => simp [h]

/-- The nanoseconds of minutes of sixty seconds, in which a leap second coincides with the second
before it. -/
def settled (t : Instant) : Int := t.elapsed - if t.isLeap then perSecond else 0

variable {t : Instant} {seconds m nanos : Int}

/-- A second or more leads out of a leap second. -/
theorem shift_seconds (t : Instant) (h : 0 < seconds) :
    t.shift (seconds * perSecond) = ofElapsed (t.settled + seconds * perSecond) := by
  have hwhole : Int.tdiv (seconds * perSecond) perSecond ≠ 0 := by
    rw [Int.mul_tdiv_cancel _ (by decide)]
    omega
  have hpositive : 0 < seconds * perSecond := Int.mul_pos h (by decide)
  simp only [shift, settled, hwhole, false_and, and_false, if_false, hpositive, and_true]
  split
  · rfl
  · rw [Int.sub_zero]

theorem ofMinute_le_ofElapsed : ofMinute m 0 ≤ ofElapsed nanos ↔ m * perMinute ≤ nanos := by
  change m * 61000000000 + 0 ≤ nanos / 60000000000 * 61000000000 + nanos % 60000000000 ↔
    m * 60000000000 ≤ nanos
  omega

theorem ofMinute_le_iff_settled : ofMinute m 0 ≤ t ↔ m * perMinute ≤ t.settled := by
  change m * 61000000000 + 0 ≤ t.tick ↔ m * 60000000000 ≤ t.settled
  by_cases hleap : t.isLeap = true
  · have hwithin := of_decide_eq_true hleap
    rw [settled, if_pos hleap]
    simp only [elapsed, minute, within, perMinute, ticksPerMinute, perSecond] at hwithin ⊢
    omega
  · have hwithin := of_decide_eq_false (Bool.eq_false_iff.2 hleap)
    rw [settled, if_neg hleap]
    simp only [elapsed, minute, within, perMinute, ticksPerMinute] at hwithin ⊢
    omega

/-- From a year of four digits, so many seconds do not lead beyond the last year. -/
theorem isRepresentable_shift (ht : t.hasPlainYear = true) (hpositive : 0 < seconds)
    (hle : seconds ≤ farthest) : (t.shift (seconds * perSecond)).IsRepresentable := by
  have hyears : Calendar.yearStart (-262143) ≤ Calendar.yearStart 0 :=
    Calendar.yearStart_mono (by decide)
  simp only [hasPlainYear, Bool.and_eq_true, decide_eq_true_eq] at ht
  obtain ⟨hlow, hhigh⟩ := ht
  have hlow := ofMinute_le_iff_settled.1 hlow
  have hhigh := mt ofMinute_le_iff_settled.2 (Int.not_le.2 hhigh)
  rw [shift_seconds t hpositive]
  refine ⟨ofMinute_le_ofElapsed.2 ?_, Int.not_le.1 (mt ofMinute_le_ofElapsed.1 ?_)⟩
  all_goals
    simp only [farthest, minutesPerDay, perMinute, perSecond] at *
    omega

theorem hasPlainYear_lastPlain : lastPlain.hasPlainYear = true := by decide +kernel

/-- From the end of the year 9999, more seconds than that do. -/
theorem not_isRepresentable_shift (hlong : farthest < seconds) :
    ¬(lastPlain.shift (seconds * perSecond)).IsRepresentable := by
  have hsettled :
      lastPlain.settled = Calendar.yearStart 10000 * minutesPerDay * perMinute - 1 := by
    decide +kernel
  have hpositive : 0 < farthest := by decide +kernel
  rw [shift_seconds _ (by omega), hsettled]
  rintro ⟨-, hbefore⟩
  have hbefore := mt ofMinute_le_ofElapsed.2 (Int.not_le.2 hbefore)
  simp only [farthest, minutesPerDay, perMinute, perSecond] at *
  omega

end Instant

namespace Engine

variable {κ : Type} {e : Engine}

theorem ofSettings_eq_ok {s : Settings} : Engine.ofSettings s = .ok e ↔
    (-Instant.greatestSeconds ≤ s.keyLifetime ∧ s.keyLifetime ≤ Instant.greatestSeconds) ∧
    (-Instant.greatestSeconds ≤ s.voidWindow ∧ s.voidWindow ≤ Instant.greatestSeconds) ∧
    e = ⟨s.storeId, s.rate, s.voidWindow * Instant.perSecond, s.keyLifetime * Instant.perSecond,
      s.retry, s.advisor⟩ := by
  simp only [ofSettings, Outcome.bind_eq_ok, Instant.spanOfSeconds_eq_ok, Outcome.pure_eq_ok]
  constructor
  · rintro ⟨_, ⟨hkey, rfl⟩, _, ⟨hvoid, rfl⟩, rfl⟩
    exact ⟨hkey, hvoid, rfl⟩
  · rintro ⟨hkey, hvoid, rfl⟩
    exact ⟨_, ⟨hkey, rfl⟩, _, ⟨hvoid, rfl⟩, rfl⟩

/-- **A till keeps time in a world**: no checkout, void or refund stops at an instant that is out of
reach. -/
structure KeepsTimeIn (e : Engine) (c : CacheAccess κ) (w : World κ) : Prop where
  /-- Claims on keys end at an instant that can be represented. -/
  claims : ∀ (actor : Actor) key, Field.key key = .ok () →
    ∃ claim, Claim.make actor.store actor.cashier key w.now e.keyLifetime = .ok claim
  /-- If a checkout overflows, that is the discounts of the cart, or looking for advice on a sale
  that is made. -/
  checkouts : ∀ ids actor cart key,
    (e.handle c ids actor (.checkout cart key) w).1 = .error .overflow →
      Pricing.Overruns cart.lines cart.discount e.rate cart.manual ∨
        (∃ t, (e.sellOnce ids w.now actor cart key w.store).1 = .ok t) ∧
          ¬e.advisor.SafeWith c w.uptime
  /-- Voids do not overflow, -/
  voids : ∀ ids actor id reason, Answers (e.handle c ids actor (.void id reason) w).1
  /-- and neither do refunds. -/
  refunds : ∀ ids actor id amount reason,
    Answers (e.handle c ids actor (.refund id amount reason) w).1

/-- **A till keeps time** if it does so in the years 0 to 9999, after whatever work. -/
def KeepsTime (e : Engine) : Prop :=
  ∀ (κ : Type) (c : CacheAccess κ) (start : Instant) (cache : κ) (steps : List (Step κ)),
    (e.run c (World.empty start cache) steps).now.hasPlainYear = true →
      e.KeepsTimeIn c (e.run c (World.empty start cache) steps)

@[simp] theorem answers_change {α : Type} {reply : α → Reply} {step : Action Store α}
    {w : World κ} : Answers (change reply step w).1 ↔ Answers (step w.store).1 := by
  rw [change_eq, Action.mapAnswer_fst, Outcome.answers_map]

/-- A sale overflows if the claim on its key would last too long, or the discounts overrun. -/
theorem sellOnce_overflow {ids : Ids} {now : Instant} {actor : Actor} {cart : Cart} {key : String}
    {s : Store} (h : (e.sellOnce ids now actor cart key s).1 = .error .overflow) :
    ¬(now.shift e.keyLifetime).IsRepresentable ∨
      Pricing.Overruns cart.lines cart.discount e.rate cart.manual := by
  have hcases := e.sellOnce_outcome ids now actor cart key s
  generalize e.sellOnce ids now actor cart key s = outcome at h hcases
  cases hcases with
  | replayed _ _ =>
    next r _ _ =>
      cases hreplay : r.outcome with
      | success payload =>
        rw [hreplay] at h
        exact absurd h (Outcome.answers_iff.1 (Outcome.answers_ofOption _ _))
      | failure => rw [hreplay] at h; cases h
  | endless _ _ late => exact .inl late
  | failed claims body kind =>
    obtain rfl : _ = Fault.overflow := Except.error.inj h
    by_contra hneither
    exact Outcome.answers_iff.1 (answers_sale (not_or.1 hneither).2) body
  | _ => cases h

theorem keepsTimeIn_of_representable {c : CacheAccess κ} {w : World κ} (sound : w.store.Sound)
    (h : (w.now.shift e.keyLifetime).IsRepresentable) : e.KeepsTimeIn c w where
  claims _ _ _ := ⟨_, Claim.make_eq_ok.2 ⟨h, rfl⟩⟩
  checkouts ids actor cart key hoverflow := by
    rcases hsell : e.sellOnce ids w.now actor cart key w.store with ⟨fault | t, after⟩
    · simp only [handle, Action.mapAnswer_fst, checkout_of_error e c ids actor cart key hsell]
        at hoverflow
      obtain rfl : fault = .overflow := Except.error.inj hoverflow
      exact .inl ((sellOnce_overflow (congrArg Prod.fst hsell)).resolve_left (not_not.2 h))
    · refine .inr ⟨⟨t, rfl⟩, fun safe => ?_⟩
      obtain ⟨r, hr⟩ := handle_checkout_of_sold safe (congrArg Prod.fst hsell)
      rw [hr] at hoverflow
      cases hoverflow
  voids ids actor id reason := answers_change.2 (answers_void e ids w.now actor id reason w.store)
  refunds ids actor id amount reason :=
    answers_change.2 (answers_refund sound e ids w.now actor id amount reason)

end Engine

namespace Settings

variable {s : Settings}

theorem nonneg_of_check (h : s.check = .ok ()) : 0 ≤ s.voidWindow ∧ 0 < s.keyLifetime := by
  unfold check at h
  split_ifs at h with _ _ _ hvoid hkey
  all_goals
    simp only [shortestKeyLifetime] at hkey
    omega

/-- **The settings with which a till keeps time**: settings that pass give an engine that keeps
time exactly if the time for voiding is a span, and keys live no longer than from the end of the
year 9999 to the end of the last year. -/
theorem keepsTime_iff (h : s.check = .ok ()) :
    (∃ e, Engine.ofSettings s = .ok e ∧ e.KeepsTime) ↔
      s.voidWindow ≤ Instant.greatestSeconds ∧ s.keyLifetime ≤ Instant.farthest := by
  obtain ⟨hwindow, hlifetime⟩ := nonneg_of_check h
  constructor
  · rintro ⟨e, he, keeps⟩
    obtain ⟨-, ⟨-, hspan⟩, rfl⟩ := Engine.ofSettings_eq_ok.1 he
    refine ⟨hspan, not_lt.1 fun hlong => Instant.not_isRepresentable_shift hlong ?_⟩
    -- The till has done nothing yet, and it is the end of the year 9999.
    obtain ⟨claim, hclaim⟩ := (keeps Cache Cache.access Instant.lastPlain .absent []
      Instant.hasPlainYear_lastPlain).claims DoubleSale.manager "key" (by decide +kernel)
    exact (Claim.make_eq_ok.1 hclaim).1
  · rintro ⟨hspan, hreach⟩
    have hfarthest : Instant.farthest ≤ Instant.greatestSeconds := by decide
    have hleast : -Instant.greatestSeconds ≤ 0 := by decide
    refine ⟨_, Engine.ofSettings_eq_ok.2 ⟨⟨by omega, by omega⟩, ⟨by omega, hspan⟩, rfl⟩, ?_⟩
    intro κ c start cache steps hplain
    exact Engine.keepsTimeIn_of_representable (Engine.run_sound _ c start cache steps)
      (Instant.isRepresentable_shift hplain hlifetime hreach)

theorem keepsTime_iff_standard :
    let standard : Settings := { path := "till.db" }
    standard.check = .ok () ∧ ∃ e, Engine.ofSettings standard = .ok e ∧ e.KeepsTime := by
  intro standard
  have hcheck : standard.check = .ok () := by decide +kernel
  exact ⟨hcheck, (keepsTime_iff hcheck).2 ⟨by decide, by decide +kernel⟩⟩

/-- Settings that pass may give no engine, and they may give one with which every checkout in the
year 1970 overflows. -/
theorem not_keepsTime_forever :
    let voidable : Settings := { path := "till.db", voidWindow := Cents.greatest }
    let remembered : Settings := { path := "till.db", keyLifetime := Instant.greatestSeconds }
    (voidable.check = .ok () ∧ Engine.ofSettings voidable = .error .overflow) ∧
      remembered.check = .ok () ∧ ∃ e, Engine.ofSettings remembered = .ok e ∧
        (e.handle Cache.access (DoubleSale.ids "1") DoubleSale.manager
          (.checkout DoubleSale.cart "key") (World.empty ⟨0⟩ .absent)).1 = .error .overflow := by
  refine ⟨⟨by decide +kernel, rfl⟩, by decide +kernel, _, rfl, by decide +kernel⟩

end Settings

end Till
