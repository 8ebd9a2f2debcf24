import Till.Proofs.Keys

/-!
# What a table of outcomes holds

Records are added and keys are claimed, which stores a record unless a live one stands under its
key, and what has expired is purged.  Whether a record is live is decided in several places; in the
years 0 to 9999 all of them draw the line where the record expires (`Store.isLive_eq`).

What stands under a key after any number of such writes can be told from the writes alone: it is the
record that was stored under it last (`OutcomeWrite.lastStored`), unless it was purged since.

* `OutcomeWrite.Effect` : what a write does;
* `OutcomeWrite.filter_owns_apply` : what it does under a key;
* `OutcomeWrite.run_tracks` : what is found, what is refused and what is purged after all writes.
-/

namespace Till

open Engine (KeyUse)

/-! ### Live and expired records -/

namespace Store

variable {s : Store} {r : OutcomeRecord} {now : Instant}

/-- **In the years 0 to 9999** a record is live until it has expired. -/
theorem isLive_eq (hnow : now.hasPlainYear = true) (hr : r.expiresAt.hasPlainYear = true) :
    isLive now r = !r.isExpired now := by
  rw [isLive, Instant.keptBefore, hnow, hr, OutcomeRecord.isExpired, ← decide_not]
  exact decide_eq_decide.2 Int.not_le.symm

theorem addOutcome_refused :
    (s.addOutcome r now).2 = false ↔ (s.outcome? r.store r.cashier r.key now).isSome := by
  cases h : s.outcome? r.store r.cashier r.key now with
  | none => simp [addOutcome_of_free h]
  | some o => simp [addOutcome_of_taken h]

theorem claimKey_refused :
    s.claimKey r now = Outcome.reject (.rejected (.inFlight r.key)) ↔
      (s.outcome? r.store r.cashier r.key now).isSome := by
  cases h : s.outcome? r.store r.cashier r.key now with
  | none => simp [claimKey_of_free h, Outcome.reject]
  | some o => simp [claimKey_of_taken h]

/-- **In the years 0 to 9999** a purge takes the expired records and counts them. -/
theorem purge_eq (hnow : now.hasPlainYear = true)
    (hexpiries : ∀ o ∈ s.outcomes, o.expiresAt.hasPlainYear = true) :
    s.purge now = ({ s with outcomes := s.outcomes.filter fun o => !o.isExpired now },
      s.outcomes.countP fun o => o.isExpired now) := by
  have hlive : s.outcomes.filter (isLive now) = s.outcomes.filter fun o => !o.isExpired now :=
    List.filter_congr fun o ho => isLive_eq hnow (hexpiries o ho)
  have hcount : s.outcomes.length = (s.outcomes.countP fun o => o.isExpired now) +
      (s.outcomes.filter fun o => !o.isExpired now).length := by
    rw [List.length_eq_countP_add_countP fun o => o.isExpired now, ← List.countP_eq_length_filter]
    simp only [Bool.not_eq_true, Bool.decide_eq_false]
  simp only [purge, hlive]
  rw [hcount, Nat.add_sub_cancel]

end Store

/-- The use of the key of a record. -/
def OutcomeRecord.use (r : OutcomeRecord) (now : Instant) : KeyUse := ⟨r.store, r.cashier, r.key, now⟩

/-! ### Writes -/

/-- A write to the table of outcomes. -/
inductive OutcomeWrite where
  /-- A record is added. -/
  | insert (r : OutcomeRecord) (now : Instant)
  /-- The key of a record is claimed. -/
  | claim (r : OutcomeRecord) (now : Instant)
  /-- What has expired is purged. -/
  | purge (now : Instant)

namespace OutcomeWrite

/-- The store after a write.  A claim that fails leaves nothing behind. -/
def apply (s : Store) : OutcomeWrite → Store
  | insert r now => (s.addOutcome r now).1
  | claim r now =>
    match s.claimKey r now with
    | .ok after => after
    | .error _ => s
  | purge now => (s.purge now).1

/-- The record that a write stores, if it does store one. -/
def stored? (s : Store) : OutcomeWrite → Option OutcomeRecord
  | insert r now => if (s.addOutcome r now).2 then some r.kept else none
  | claim r now =>
    match s.claimKey r now with
    | .ok _ => some r.kept
    | .error _ => none
  | purge _ => none

/-- Whether a write purges a record. -/
def purges (r : OutcomeRecord) : OutcomeWrite → Bool
  | purge now => r.isExpired now
  | _ => false

/-- A write in the years 0 to 9999, of a record that expires in these years. -/
def IsPlain : OutcomeWrite → Prop
  | insert r now | claim r now => now.hasPlainYear = true ∧ r.expiresAt.hasPlainYear = true
  | purge now => now.hasPlainYear = true

/-- The store after writes. -/
def run (s : Store) (ws : List OutcomeWrite) : Store := ws.foldl apply s

/-- **The record that was stored last** under a key, with the writes since. -/
def lastStored (k : KeyUse) (s : Store) : List OutcomeWrite →
    Option (OutcomeRecord × List OutcomeWrite)
  | [] => none
  | w :: ws => (lastStored k (w.apply s) ws).or (((w.stored? s).filter k.owns).map (·, ws))

/-- **A record lives on** under a key: it was stored there last, it was not purged since, and it has
not expired. -/
def LivesOn (ws : List OutcomeWrite) (k : KeyUse) (r : OutcomeRecord) : Prop :=
  ∃ since, lastStored k {} ws = some (r, since) ∧ (∀ w ∈ since, w.purges r = false) ∧
    r.isExpired k.now = false

/-- **The table of outcomes tracks** the writes to it. -/
structure Tracks (ws : List OutcomeWrite) : Prop where
  /-- What is found under a key is the record that lives on there. -/
  found : ∀ k : KeyUse, k.now.hasPlainYear = true →
    ∀ r, k.record? (run {} ws) = some r ↔ LivesOn ws k r
  /-- A record is not added exactly if one lives on under its key, -/
  inserted : ∀ (r : OutcomeRecord) (now : Instant), now.hasPlainYear = true →
    (((run {} ws).addOutcome r now).2 = false ↔ ∃ o, LivesOn ws (r.use now) o)
  /-- and neither can its key be claimed then. -/
  claimed : ∀ (r : OutcomeRecord) (now : Instant), now.hasPlainYear = true →
    ((run {} ws).claimKey r now = Outcome.reject (.rejected (.inFlight r.key)) ↔
      ∃ o, LivesOn ws (r.use now) o)
  /-- What is purged and counted are the expired records. -/
  purged : ∀ now : Instant, now.hasPlainYear = true →
    (run {} ws).purge now =
      ({ run {} ws with outcomes := (run {} ws).outcomes.filter fun r => !r.isExpired now },
        (run {} ws).outcomes.countP fun r => r.isExpired now)

/-! ### What a write does -/

variable {s : Store} {k : KeyUse} {r : OutcomeRecord} {now : Instant} {w : OutcomeWrite}
  {ws : List OutcomeWrite} {held : Option OutcomeRecord}

theorem owns_use_kept (r : OutcomeRecord) (now : Instant) : (r.use now).owns r.kept = true := by
  simp [KeyUse.owns, Store.belongs, OutcomeRecord.use, OutcomeRecord.kept]

/-- A record that is stored stands under its own key, and under no other one. -/
theorem filter_owns_remembered (hfree : s.outcome? r.store r.cashier r.key now = none)
    (h : s.outcomes.filter k.owns = held.toList) :
    (s.remembered r now).outcomes.filter k.owns =
      (((some r.kept).filter k.owns).or held).toList := by
  have houtcomes : (s.remembered r now).outcomes =
      (s.outcomes.filter fun o => !(r.use now).owns o) ++ [r.kept] := by
    rw [Store.remembered_of_free hfree]
    rfl
  cases howned : k.owns r.kept with
  | true =>
    have hsame := KeyUse.same_of_owns howned (owns_use_kept r now)
    have hholds := Store.Holds.of_outcomes (owns_use_kept r now) houtcomes
    rw [Store.Holds, ← hsame.owns_eq] at hholds
    rw [hholds, Option.filter_some, howned]
    rfl
  | false =>
    have hother : ¬(r.use now).Same k := by
      intro hsame
      rw [← hsame.owns_eq, owns_use_kept] at howned
      cases howned
    rw [houtcomes, KeyUse.filter_owns_entered hother (owns_use_kept r now), h, Option.filter_some,
      howned]
    rfl

/-- Where a record is refused, there is nothing to forget under any key. -/
theorem filter_owns_forgetExpired {o : OutcomeRecord}
    (htaken : s.outcome? r.store r.cashier r.key now = some o)
    (h : s.outcomes.filter k.owns = held.toList) :
    (s.forgetExpired r now).outcomes.filter k.owns = held.toList := by
  rw [← h]
  refine Rows.filter_filter_of_imp ?_
  intro x hx howned
  have hx' : x ∈ s.outcomes.filter k.owns := List.mem_filter.2 ⟨hx, howned⟩
  cases hbelongs : (r.use now).owns x with
  | false =>
    rw [show Store.belongs r.store r.cashier r.key x = false from hbelongs]
    rfl
  | true =>
    -- The one record under this key is the one that refuses the other, so it is live.
    have hfound := List.find?_some htaken
    obtain ⟨hbelongs', hlive⟩ := Bool.and_eq_true_iff.1 hfound
    have hsame := KeyUse.same_of_owns howned hbelongs
    have ho : o ∈ s.outcomes.filter k.owns :=
      List.mem_filter.2 ⟨List.mem_of_find?_eq_some htaken, hsame.owns_eq ▸ hbelongs'⟩
    rw [h, Option.mem_toList] at hx' ho
    obtain rfl := Option.mem_unique hx' ho
    rw [show Store.isLive now x = true from hlive, Bool.not_true, Bool.and_false]
    rfl

/-- **What a write does** to the table of outcomes. -/
inductive Effect (s : Store) (w : OutcomeWrite) : Prop
  /-- A record is stored under a key that is free. -/
  | entered {r : OutcomeRecord} {now : Instant}
      (free : s.outcome? r.store r.cashier r.key now = none)
      (expiry : w.IsPlain → r.expiresAt.hasPlainYear = true) (stored : w.stored? s = some r.kept)
      (spares : ∀ o, w.purges o = false) (after : w.apply s = s.remembered r now)
  /-- A record is not added, but what has expired under its key is forgotten. -/
  | refused {r o : OutcomeRecord} {now : Instant}
      (taken : s.outcome? r.store r.cashier r.key now = some o) (stored : w.stored? s = none)
      (spares : ∀ o, w.purges o = false) (after : w.apply s = s.forgetExpired r now)
  /-- A claim fails. -/
  | failed (stored : w.stored? s = none) (spares : ∀ o, w.purges o = false) (after : w.apply s = s)
  /-- What has expired is purged. -/
  | purged (now : Instant) (write : w = purge now)

theorem effect (s : Store) (w : OutcomeWrite) : w.Effect s := by
  cases w with
  | insert r now =>
    cases hfound : s.outcome? r.store r.cashier r.key now with
    | none =>
      have hadded := Store.addOutcome_of_free hfound
      exact .entered hfound And.right (by simp only [stored?, hadded, if_true]) (fun _ => rfl)
        (by simp only [apply, hadded])
    | some o =>
      have hadded := Store.addOutcome_of_taken hfound
      exact .refused hfound (by simp [stored?, hadded]) (fun _ => rfl) (by simp only [apply, hadded])
  | claim r now =>
    cases hfound : s.outcome? r.store r.cashier r.key now with
    | none =>
      have hclaimed := Store.claimKey_of_free hfound
      exact .entered hfound And.right (by simp only [stored?, hclaimed]) (fun _ => rfl)
        (by simp only [apply, hclaimed])
    | some o =>
      have hclaimed := Store.claimKey_of_taken hfound
      exact .failed (by simp only [stored?, hclaimed, Outcome.reject]) (fun _ => rfl)
        (by simp only [apply, hclaimed, Outcome.reject])
  | purge now => exact .purged now rfl

/-- **What a write does under a key**: it stores a record there, or it leaves the one that is held,
unless it purges it. -/
theorem filter_owns_apply (hplain : w.IsPlain)
    (hexpiries : ∀ o ∈ s.outcomes, o.expiresAt.hasPlainYear = true)
    (h : s.outcomes.filter k.owns = held.toList) :
    (w.apply s).outcomes.filter k.owns =
      (((w.stored? s).filter k.owns).or (held.filter fun o => !w.purges o)).toList := by
  have hspared : (∀ o, w.purges o = false) → held.filter (fun o => !w.purges o) = held := by
    intro hspares
    cases held <;> simp [Option.filter, hspares]
  cases effect s w with
  | entered free expiry stored spares after =>
    rw [after, stored, hspared spares]
    exact filter_owns_remembered free h
  | refused taken stored spares after =>
    rw [after, stored, hspared spares]
    exact filter_owns_forgetExpired taken h
  | failed stored spares after =>
    rw [after, stored, hspared spares]
    exact h
  | purged now write =>
    subst write
    have hlive : ∀ o ∈ held.toList, Store.isLive now o = !o.isExpired now := by
      intro o ho
      rw [← h] at ho
      exact Store.isLive_eq hplain (hexpiries o (List.mem_filter.1 ho).1)
    have hswap : (s.outcomes.filter (Store.isLive now)).filter k.owns =
        (s.outcomes.filter k.owns).filter (Store.isLive now) := by
      simp only [List.filter_filter, Bool.and_comm]
    simp only [apply, Store.purge, hswap, h, stored?, Option.filter_none, Option.none_or, purges]
    rw [List.filter_congr hlive]
    exact (Option.toList_filter ..).symm

/-- Every write stores records that expire in the years 0 to 9999. -/
theorem expiries_apply (hplain : w.IsPlain)
    (hexpiries : ∀ o ∈ s.outcomes, o.expiresAt.hasPlainYear = true) :
    ∀ o ∈ (w.apply s).outcomes, o.expiresAt.hasPlainYear = true := by
  cases effect s w with
  | @entered r now free expiry stored spares after =>
    rw [after]
    intro o ho
    rcases List.mem_append.1 ho with hold | hnew
    · exact hexpiries o (List.mem_of_mem_filter hold)
    · exact (List.mem_singleton.1 hnew) ▸ expiry hplain
  | refused taken stored spares after =>
    rw [after]
    exact fun o ho => hexpiries o (List.mem_of_mem_filter ho)
  | failed stored spares after =>
    rw [after]
    exact hexpiries
  | purged now write =>
    subst write
    exact fun o ho => hexpiries o (List.mem_of_mem_filter ho)

/-! ### What all writes do -/

theorem expiries_run (hplain : ∀ w ∈ ws, w.IsPlain)
    (hexpiries : ∀ o ∈ s.outcomes, o.expiresAt.hasPlainYear = true) :
    ∀ o ∈ (run s ws).outcomes, o.expiresAt.hasPlainYear = true := by
  induction ws generalizing s with
  | nil => exact hexpiries
  | cons w ws ih =>
    obtain ⟨hw, hws⟩ := List.forall_mem_cons.1 hplain
    exact ih hws (expiries_apply hw hexpiries)

/-- Whether a record is not purged by writes. -/
def spares (ws : List OutcomeWrite) (r : OutcomeRecord) : Bool := ws.all fun w => !w.purges r

/-- **What all writes do under a key**: what is held there is the record that was stored last, or the
one that was held before, unless it was purged since. -/
theorem filter_owns_run (hplain : ∀ w ∈ ws, w.IsPlain)
    (hexpiries : ∀ o ∈ s.outcomes, o.expiresAt.hasPlainYear = true)
    (h : s.outcomes.filter k.owns = held.toList) :
    (run s ws).outcomes.filter k.owns =
      ((((lastStored k s ws).or (held.map (·, ws))).filter fun p => spares p.2 p.1).map
        Prod.fst).toList := by
  induction ws generalizing s held with
  | nil =>
    rw [show run s [] = s from rfl, h]
    cases held <;> rfl
  | cons w ws ih =>
    obtain ⟨hw, hws⟩ := List.forall_mem_cons.1 hplain
    rw [show run s (w :: ws) = run (w.apply s) ws from rfl,
      ih hws (expiries_apply hw hexpiries) (filter_owns_apply hw hexpiries h), lastStored]
    cases lastStored k (w.apply s) ws with
    | some p => rfl
    | none =>
      cases (w.stored? s).filter k.owns with
      | some r => rfl
      | none =>
        cases held with
        | none => rfl
        | some o => cases hpurged : w.purges o <;> simp [Option.filter, hpurged, spares]

theorem expiries_empty : ∀ o ∈ ({} : Store).outcomes, o.expiresAt.hasPlainYear = true :=
  fun _ ho => absurd ho List.not_mem_nil

/-- **What stands under a key** is the record that was stored there last, unless it was purged. -/
theorem filter_owns_run_empty (hplain : ∀ w ∈ ws, w.IsPlain) :
    (run {} ws).outcomes.filter k.owns =
      (((lastStored k {} ws).filter fun p => spares p.2 p.1).map Prod.fst).toList := by
  have hnone : ({} : Store).outcomes.filter k.owns = (none : Option OutcomeRecord).toList := rfl
  rw [filter_owns_run hplain expiries_empty hnone, Option.map_none, Option.or_none]

theorem mem_run (hplain : ∀ w ∈ ws, w.IsPlain) :
    r ∈ (run {} ws).outcomes.filter k.owns ↔
      ∃ since, lastStored k {} ws = some (r, since) ∧ ∀ w ∈ since, w.purges r = false := by
  rw [filter_owns_run_empty hplain]
  simp [spares, Option.filter_eq_some_iff]

/-- It is found if it is live. -/
theorem record?_run (hplain : ∀ w ∈ ws, w.IsPlain) :
    k.record? (run {} ws) = some r ↔
      r ∈ (run {} ws).outcomes.filter k.owns ∧ Store.isLive k.now r = true := by
  have hfind : k.record? (run {} ws) =
      ((run {} ws).outcomes.filter k.owns).find? (Store.isLive k.now) := by
    simp only [List.find?_filter, Bool.decide_and, Bool.decide_eq_true]
    rfl
  rw [hfind]
  refine ⟨fun h => ⟨List.mem_of_find?_eq_some h, List.find?_some h⟩, ?_⟩
  rintro ⟨hmem, hlive⟩
  rw [filter_owns_run_empty hplain, Option.mem_toList] at hmem
  rw [filter_owns_run_empty hplain, Option.mem_def.1 hmem, Option.toList_some,
    List.find?_cons_of_pos hlive]

/-- **A record is found under a key** exactly if it lives on there. -/
theorem record?_eq_some_iff (hplain : ∀ w ∈ ws, w.IsPlain) (hnow : k.now.hasPlainYear = true) :
    k.record? (run {} ws) = some r ↔ LivesOn ws k r := by
  have hlive : r ∈ (run {} ws).outcomes.filter k.owns →
      Store.isLive k.now r = !r.isExpired k.now := fun hr =>
    Store.isLive_eq hnow (expiries_run hplain expiries_empty r (List.mem_filter.1 hr).1)
  rw [record?_run hplain]
  constructor
  · rintro ⟨hmem, hnotExpired⟩
    rw [hlive hmem, Bool.not_eq_true'] at hnotExpired
    obtain ⟨since, hlast, hspared⟩ := (mem_run hplain).1 hmem
    exact ⟨since, hlast, hspared, hnotExpired⟩
  · rintro ⟨since, hlast, hspared, hnotExpired⟩
    have hmem := (mem_run hplain).2 ⟨since, hlast, hspared⟩
    exact ⟨hmem, by rw [hlive hmem, hnotExpired, Bool.not_false]⟩

theorem isSome_outcome?_iff (hplain : ∀ w ∈ ws, w.IsPlain) (hnow : now.hasPlainYear = true) :
    ((run {} ws).outcome? r.store r.cashier r.key now).isSome ↔
      ∃ o, LivesOn ws (r.use now) o := by
  rw [Option.isSome_iff_exists]
  exact exists_congr fun o => record?_eq_some_iff (k := r.use now) hplain hnow

/-- **The table tracks all writes** in the years 0 to 9999. -/
theorem run_tracks (hplain : ∀ w ∈ ws, w.IsPlain) : Tracks ws where
  found _ hnow _ := record?_eq_some_iff hplain hnow
  inserted _ _ hnow := Store.addOutcome_refused.trans (isSome_outcome?_iff hplain hnow)
  claimed _ _ hnow := Store.claimKey_refused.trans (isSome_outcome?_iff hplain hnow)
  purged _ hnow := Store.purge_eq hnow (expiries_run hplain expiries_empty)

end OutcomeWrite

end Till
