import Till.Proofs.Run

/-!
# What becomes of keys

A request to sell uses a key of a cashier at a store.  What a change does to the keys that sales
were made under and to the stored outcomes is one of three things (`Change.keys`): nothing, the use
of a key that no live record stands under, or that expired outcomes are forgotten.  Two invariants
follow:

* `Store.Remembers` : until its lifetime is over, a sale has a record, and sales under one key are a
  lifetime apart;
* `Store.Holds` : a record that is live remains the one record under its key.

A store compares instants as it keeps them, and the first invariant needs that an instant before the
end of a lifetime is also kept before it (`KeepsLifetimes`).
-/

namespace Till

/-- The use of a key that a transaction was sold under. -/
def Transaction.use (t : Transaction) : Engine.KeyUse := ⟨t.store, t.cashier, t.key, t.createdAt⟩

/-- The uses of keys that the transactions were sold under. -/
def Store.uses (s : Store) : List Engine.KeyUse := s.transactions.map Transaction.use

namespace Engine.KeyUse

variable {k k' : KeyUse} {r : OutcomeRecord}

/-- Two uses of one key. -/
def Same (k k' : KeyUse) : Prop := k.store = k'.store ∧ k.cashier = k'.cashier ∧ k.key = k'.key

/-- Whether a record stands under the key. -/
def owns (k : KeyUse) (r : OutcomeRecord) : Bool := Store.belongs k.store k.cashier k.key r

/-- **The record of a use**: it stands under the key until a lifetime has passed. -/
structure IsRecord (lifetime : Int) (k : KeyUse) (r : OutcomeRecord) : Prop where
  owned : k.owns r = true
  expiry : r.expiresAt = k.now.shift lifetime

theorem Same.symm (h : k.Same k') : k'.Same k := ⟨h.1.symm, h.2.1.symm, h.2.2.symm⟩

theorem Same.trans {k'' : KeyUse} (h : k.Same k') (h' : k'.Same k'') : k.Same k'' :=
  ⟨h.1.trans h'.1, h.2.1.trans h'.2.1, h.2.2.trans h'.2.2⟩

theorem Same.owns_eq (h : k.Same k') : k.owns = k'.owns := by
  funext r
  simp only [owns, Store.belongs, h.1, h.2.1, h.2.2]

theorem same_of_owns (h : k.owns r = true) (h' : k'.owns r = true) : k.Same k' := by
  simp only [owns, Store.belongs, Bool.and_eq_true, beq_iff_eq] at h h'
  obtain ⟨⟨hstore, hcashier⟩, hkey⟩ := h
  obtain ⟨⟨hstore', hcashier'⟩, hkey'⟩ := h'
  exact ⟨hstore.symm.trans hstore', hcashier.symm.trans hcashier', hkey.symm.trans hkey'⟩

theorem expired_of_free {s : Store} (h : k.record? s = none) (hr : r ∈ s.outcomes)
    (howned : k.owns r = true) : Store.isLive k.now r = false := by
  have hnone := List.find?_eq_none.1 h r hr
  rw [show Store.belongs k.store k.cashier k.key r = true from howned, Bool.true_and,
    Bool.not_eq_true] at hnone
  exact hnone

/-- The records of other keys stay when a record takes the place of those under its key. -/
theorem filter_owns_entered (hother : ¬k'.Same k) (howned : k'.owns r = true)
    (outcomes : List OutcomeRecord) :
    ((outcomes.filter fun o => !k'.owns o) ++ [r]).filter k.owns = outcomes.filter k.owns := by
  have hnot : ∀ o, k.owns o = true → k'.owns o = false := by
    intro o ho
    refine Bool.eq_false_iff.2 ?_
    intro ho'
    exact hother (same_of_owns ho' ho)
  have hr : ¬k.owns r = true := by
    intro ho
    rw [hnot r ho] at howned
    cases howned
  have hfilter : (outcomes.filter fun o => !k'.owns o).filter k.owns = outcomes.filter k.owns := by
    rw [List.filter_filter]
    refine List.filter_congr ?_
    intro o _
    cases ho : k.owns o with
    | false => rfl
    | true =>
      rw [hnot o ho]
      rfl
  rw [List.filter_append, hfilter, List.filter_cons_of_neg hr, List.filter_nil, List.append_nil]

end Engine.KeyUse

open Engine (KeyUse)

/-! ### What a change does to keys -/

/-- **What a change does to keys** and to the stored outcomes. -/
inductive KeyChange (lifetime : Int) (now : Instant) (s after : Store) : Prop
  /-- Nothing. -/
  | none (uses : after.uses = s.uses) (outcomes : after.outcomes = s.outcomes)
  /-- A key without a live record is used, be it for a sale or not, and gets a new record. -/
  | used {k : KeyUse} {r : OutcomeRecord} (time : k.now = now) (free : k.record? s = .none)
      (uses : after.uses = s.uses ∨ after.uses = s.uses ++ [k]) (record : k.IsRecord lifetime r)
      (outcomes : after.outcomes = (s.outcomes.filter fun o => !k.owns o) ++ [r])
  /-- Expired outcomes are forgotten. -/
  | purged (uses : after.uses = s.uses)
      (outcomes : after.outcomes = s.outcomes.filter (Store.isLive now))

theorem Claims.remembered {lifetime : Int} {k : KeyUse} {s : Store} {claim : Claim}
    (claims : Claims lifetime k s claim) (transaction : Option String) (outcome : StoredOutcome) :
    k.IsRecord lifetime (claim.record transaction outcome).kept ∧
      (s.remembered (claim.record transaction outcome) k.now).outcomes =
        (s.outcomes.filter fun o => !k.owns o) ++ [(claim.record transaction outcome).kept] := by
  obtain ⟨-, rfl⟩ := Claim.make_eq_ok.1 claims.made
  have hfree : s.outcome? k.store k.cashier k.key k.now = none := claims.free
  constructor
  · exact ⟨by simp [KeyUse.owns, Store.belongs, Claim.record, OutcomeRecord.kept], rfl⟩
  · rw [Store.remembered_of_free hfree]
    rfl

/-- **Every change does one of these things to keys.** -/
theorem Change.keys {e : Engine} {now : Instant} {s after : Store} (h : Change e now s after) :
    KeyChange e.keyLifetime now s after := by
  cases h with
  | shiftOpened start added =>
    obtain ⟨-, -, -, rfl⟩ := Store.addShift_eq_ok.1 added
    exact .none rfl rfl
  | shiftClosed => exact .none rfl rfl
  | entryRecorded => exact .none rfl rfl
  | @sold ids actor cart key claim u sh ev claims plan fits =>
    obtain ⟨sh', pricing, totals, -, hsold, rfl⟩ := Engine.planSale_eq_ok plan
    obtain ⟨-, hclaim⟩ := Claim.make_eq_ok.1 claims.made
    obtain ⟨hrecord, houtcomes⟩ := claims.remembered _ _
    refine .used rfl claims.free (.inr ?_) hrecord houtcomes
    rw [hclaim]
    simp only [Store.uses, Store.afterSale, List.map_append, List.map_cons, List.map_nil]
    rfl
  | refused claims kind =>
    obtain ⟨hrecord, houtcomes⟩ := claims.remembered _ _
    exact .used rfl claims.free (.inl rfl) hrecord houtcomes
  | voided => exact .none (Rows.map_update fun _ => rfl) rfl
  | refunded => exact .none (Rows.map_update fun _ => rfl) rfl
  | productAdded check added =>
    obtain ⟨-, -, -, rfl⟩ := Store.addProduct_eq_ok.1 added
    exact .none rfl rfl
  | supplierAdded check added =>
    obtain ⟨-, rfl⟩ := Store.addSupplier_eq_ok.1 added
    exact .none rfl rfl
  | orderAdded elevated check products added =>
    obtain ⟨-, -, -, -, rfl⟩ := Store.addOrder_eq_ok.1 added
    exact .none rfl rfl
  | received => exact .none rfl rfl
  | purged => exact .purged rfl rfl

/-! ### Sales are remembered -/

/-- **Lifetimes are kept** by a clock that shows only the given instants: what comes after the start
of a lifetime and before its end is also kept before its end. -/
def KeepsLifetimes (lifetime : Int) (shown : Instant → Prop) : Prop :=
  ∀ start now, shown start → shown now → start ≤ now → now < start.shift lifetime →
    Instant.keptBefore now (start.shift lifetime) = true

namespace Store

variable {lifetime : Int} {shown : Instant → Prop} {now : Instant} {s after : Store}

/-- **Sales are remembered** at an instant, as long as their lifetimes last. -/
structure Remembers (lifetime : Int) (shown : Instant → Prop) (now : Instant) (s : Store) :
    Prop where
  /-- The clock has shown the times of the sales. -/
  past : ∀ k ∈ s.uses, shown k.now ∧ k.now ≤ now
  /-- A sale has a record until its lifetime is over. -/
  stored : ∀ k ∈ s.uses, now < k.now.shift lifetime → ∃ r ∈ s.outcomes, k.IsRecord lifetime r
  /-- Sales under one key are a lifetime apart. -/
  apart : s.uses.Pairwise fun k k' => k.Same k' → k.now.shift lifetime ≤ k'.now

namespace Remembers

theorem empty : ({} : Store).Remembers lifetime shown now :=
  ⟨fun _ hk => absurd hk List.not_mem_nil, fun _ hk => absurd hk List.not_mem_nil, .nil⟩

theorem later {now' : Instant} (hle : now ≤ now') (h : s.Remembers lifetime shown now) :
    s.Remembers lifetime shown now' := by
  refine { past := ?_, stored := ?_, apart := h.apart }
  · intro k hk
    obtain ⟨hshown, hpast⟩ := h.past k hk
    exact ⟨hshown, Int.le_trans hpast hle⟩
  · intro k hk hrecent
    exact h.stored k hk (Int.lt_of_le_of_lt hle hrecent)

theorem live (keeps : KeepsLifetimes lifetime shown) (hnow : shown now)
    (h : s.Remembers lifetime shown now) {k : KeyUse} (hk : k ∈ s.uses)
    (hrecent : now < k.now.shift lifetime) :
    ∃ r ∈ s.outcomes, k.IsRecord lifetime r ∧ isLive now r = true := by
  obtain ⟨hshown, hpast⟩ := h.past k hk
  obtain ⟨r, hr, hrecord⟩ := h.stored k hk hrecent
  refine ⟨r, hr, hrecord, ?_⟩
  rw [isLive, hrecord.expiry]
  exact keeps k.now now hshown hnow hpast hrecent

/-- Under a key without a live record, all sales are a lifetime ago. -/
theorem ended_of_free (keeps : KeepsLifetimes lifetime shown) (h : s.Remembers lifetime shown now)
    {k k' : KeyUse} (hnow : shown now) (hk : k ∈ s.uses) (hsame : k.Same k') (htime : k'.now = now)
    (hfree : k'.record? s = none) : k.now.shift lifetime ≤ now := by
  refine Int.not_lt.1 ?_
  intro hrecent
  -- A recent sale would have a live record, and there is none.
  obtain ⟨r, hr, hrecord, hlive⟩ := h.live keeps hnow hk hrecent
  have hexpired := KeyUse.expired_of_free hfree hr (hsame.owns_eq ▸ hrecord.owned)
  rw [htime, hlive] at hexpired
  cases hexpired

/-- **Every change remembers sales.** -/
theorem change (keeps : KeepsLifetimes lifetime shown) (hnow : shown now)
    (hchange : KeyChange lifetime now s after) (h : s.Remembers lifetime shown now) :
    after.Remembers lifetime shown now := by
  cases hchange with
  | none uses outcomes =>
    refine { past := ?_, stored := ?_, apart := ?_ }
    · rw [uses]; exact h.past
    · rw [uses, outcomes]; exact h.stored
    · rw [uses]; exact h.apart
  | purged uses outcomes =>
    refine { past := ?_, stored := ?_, apart := ?_ }
    · rw [uses]; exact h.past
    · intro k hk hrecent
      -- The record of a recent sale is live, so it is not forgotten.
      rw [uses] at hk
      obtain ⟨r, hr, hrecord, hlive⟩ := h.live keeps hnow hk hrecent
      rw [outcomes]
      exact ⟨r, List.mem_filter.2 ⟨hr, hlive⟩, hrecord⟩
    · rw [uses]; exact h.apart
  | @used k r time free uses record outcomes =>
    -- The sales before are remembered, or their key is that of this use, and they are long ago.
    have hold : ∀ k' ∈ s.uses, now < k'.now.shift lifetime →
        ∃ r ∈ after.outcomes, k'.IsRecord lifetime r := by
      intro k' hk' hrecent
      obtain ⟨r', hr', hrecord'⟩ := h.stored k' hk' hrecent
      refine ⟨r', ?_, hrecord'⟩
      rw [outcomes]
      refine List.mem_append_left _ (List.mem_filter.2 ⟨hr', ?_⟩)
      cases howned : k.owns r' with
      | false => rfl
      | true =>
        have hsame := KeyUse.same_of_owns hrecord'.owned howned
        exact absurd hrecent (Int.not_lt.2 (h.ended_of_free keeps hnow hk' hsame time free))
    rcases uses with uses | uses
    · refine { past := ?_, stored := ?_, apart := ?_ }
      · rw [uses]; exact h.past
      · rw [uses]; exact hold
      · rw [uses]; exact h.apart
    · refine { past := ?_, stored := ?_, apart := ?_ }
      · rw [uses]
        intro k' hk'
        rcases List.mem_append.1 hk' with hk' | hk'
        · exact h.past k' hk'
        · rw [List.mem_singleton.1 hk', time]
          exact ⟨hnow, Int.le_refl _⟩
      · rw [uses]
        intro k' hk' hrecent
        rcases List.mem_append.1 hk' with hk' | hk'
        · exact hold k' hk' hrecent
        · rw [List.mem_singleton.1 hk', outcomes]
          exact ⟨r, List.mem_append_right _ List.mem_cons_self, record⟩
      · rw [uses]
        refine List.pairwise_append.2 ⟨h.apart, List.pairwise_singleton _ _, ?_⟩
        intro k' hk' k'' hk'' hsame
        obtain rfl := List.mem_singleton.1 hk''
        rw [time]
        exact h.ended_of_free keeps hnow hk' hsame time free

end Remembers

/-! ### Live records remain -/

variable {k : KeyUse} {r : OutcomeRecord}

/-- **The one record** under a key. -/
def Holds (s : Store) (k : KeyUse) (r : OutcomeRecord) : Prop := s.outcomes.filter k.owns = [r]

namespace Holds

theorem mem (h : s.Holds k r) : r ∈ s.outcomes ∧ k.owns r = true :=
  List.mem_filter.1 (h ▸ List.mem_cons_self)

theorem record?_eq (h : s.Holds k r) (hlive : isLive k.now r = true) : k.record? s = some r := by
  have hfind : k.record? s = (s.outcomes.filter k.owns).find? (isLive k.now) := by
    simp only [List.find?_filter, Bool.decide_and, Bool.decide_eq_true]
    rfl
  rw [hfind, h, List.find?_cons_of_pos hlive]

theorem of_outcomes (howned : k.owns r = true)
    (h : after.outcomes = (s.outcomes.filter fun o => !k.owns o) ++ [r]) : after.Holds k r := by
  rw [Holds, h, List.filter_append, List.filter_filter]
  simp [howned]

/-- **A live record remains** through every change. -/
theorem change (hlive : isLive now r = true) (hchange : KeyChange lifetime now s after)
    (h : s.Holds k r) : after.Holds k r := by
  cases hchange with
  | none uses outcomes => rw [Holds, outcomes]; exact h
  | purged uses outcomes =>
    have hfilter : (s.outcomes.filter (isLive now)).filter k.owns =
        (s.outcomes.filter k.owns).filter (isLive now) := by
      simp only [List.filter_filter, Bool.and_comm]
    rw [Holds, outcomes, hfilter, h]
    simp [hlive]
  | @used k' r' time free uses record outcomes =>
    obtain ⟨hr, howned⟩ := h.mem
    -- The key that is used is another one, as this one has a live record.
    have hother : ¬k'.Same k := by
      intro hsame
      have hexpired := KeyUse.expired_of_free free hr (hsame.owns_eq ▸ howned)
      rw [time, hlive] at hexpired
      cases hexpired
    rw [Holds, outcomes, KeyUse.filter_owns_entered hother record.owned]
    exact h

end Holds

end Store

end Till
