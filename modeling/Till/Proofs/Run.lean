import Till.Proofs.Change

/-!
# Runs

A till is worked by steps: requests of actors, purges of expired outcomes, and what happens without
the till, the passing of time and changes of the cache.  `Engine.run` is the world after a list of
steps.  Time may go back, and a cache may hold anything.

* `Engine.run_induction` : what the empty store has and every change keeps, every run has;
* `Store.Keyed` : shifts, transactions and orders have identifiers of their own in every run.
-/

namespace Till

/-- A step in the work of a till. -/
inductive Step (κ : Type) where
  /-- A request of an actor, with the identifiers for what it creates. -/
  | request (ids : Ids) (actor : Actor) (r : Request)
  /-- Expired outcomes are forgotten. -/
  | purge
  /-- It is another time. -/
  | time (now : Instant)
  /-- The cache and its clock change. -/
  | caching (uptime : Nat) (cache : κ)

/-- A world with nothing in its store. -/
def World.empty {κ : Type} (now : Instant) (cache : κ) : World κ := { store := {}, now, cache }

namespace Engine

variable {κ : Type}

/-- The world after a step. -/
def apply (e : Engine) (c : CacheAccess κ) (w : World κ) : Step κ → World κ
  | .request ids actor r => (e.handle c ids actor r w).2
  | .purge => (Engine.purge w).2
  | .time now => w.atTime now
  | .caching uptime cache => { w with uptime, cache }

/-- The world after a list of steps. -/
def run (e : Engine) (c : CacheAccess κ) (w : World κ) (steps : List (Step κ)) : World κ :=
  steps.foldl (e.apply c) w

@[simp] theorem run_nil (e : Engine) (c : CacheAccess κ) (w : World κ) : e.run c w [] = w := rfl

@[simp] theorem run_cons (e : Engine) (c : CacheAccess κ) (w : World κ) (step : Step κ)
    (steps : List (Step κ)) : e.run c w (step :: steps) = e.run c (e.apply c w step) steps := rfl

theorem run_append (e : Engine) (c : CacheAccess κ) (w : World κ) (steps₁ steps₂ : List (Step κ)) :
    e.run c w (steps₁ ++ steps₂) = e.run c (e.run c w steps₁) steps₂ :=
  List.foldl_append

theorem apply_change (e : Engine) (c : CacheAccess κ) (w : World κ) (step : Step κ) :
    (e.apply c w step).store = w.store ∨ Change e w.now w.store (e.apply c w step).store := by
  cases step with
  | request ids actor r => exact e.handle_change c ids actor r w
  | purge => exact .inr (e.purge_change w)
  | time now => exact .inl rfl
  | caching uptime cache => exact .inl rfl

/-- **What every change keeps, every run keeps.** -/
theorem run_keeps {e : Engine} {P : Store → Prop}
    (keeps : ∀ {now s after}, Change e now s after → P s → P after) (c : CacheAccess κ)
    {w : World κ} (h : P w.store) (steps : List (Step κ)) : P (e.run c w steps).store := by
  induction steps generalizing w with
  | nil => exact h
  | cons step steps ih =>
    refine ih ?_
    rcases e.apply_change c w step with hsame | hchange
    · rw [hsame]; exact h
    · exact keeps hchange h

/-- **What the empty store has and every change keeps, every run has.** -/
theorem run_induction {e : Engine} {P : Store → Prop} (empty : P {})
    (keeps : ∀ {now s after}, Change e now s after → P s → P after) (c : CacheAccess κ)
    (now : Instant) (cache : κ) (steps : List (Step κ)) :
    P (e.run c (World.empty now cache) steps).store :=
  run_keeps keeps c empty steps

end Engine

/-! ### Identifiers -/

namespace Store

/-- **Rows have identifiers of their own.** -/
structure Keyed (s : Store) : Prop where
  shifts : (s.shifts.map (·.id)).Nodup
  transactions : (s.transactions.map (·.id)).Nodup
  orders : (s.orders.map (·.id)).Nodup

variable {s after : Store}

theorem hasShift_eq_false {id : String} : s.hasShift id = false ↔ id ∉ s.shifts.map (·.id) := by
  simp [hasShift]

theorem hasTransaction_eq_false {id : String} :
    s.hasTransaction id = false ↔ id ∉ s.transactions.map (·.id) := by
  simp [hasTransaction]

theorem nodup_logged (h : (s.shifts.map (·.id)).Nodup) (e : DrawerEvent) :
    ((s.logged e).shifts.map (·.id)).Nodup := by
  refine Rows.nodup_update h ?_
  intro sh
  rfl

/-- **Every change keeps identifiers apart.** -/
theorem Keyed.change {e : Engine} {now : Instant} (h : Change e now s after) (k : s.Keyed) :
    after.Keyed := by
  cases h with
  | shiftOpened start added =>
    obtain ⟨-, hfresh, -, rfl⟩ := addShift_eq_ok.1 added
    exact ⟨Rows.nodup_concat k.shifts (hasShift_eq_false.1 hfresh), k.transactions, k.orders⟩
  | shiftClosed owned close fits =>
    refine ⟨nodup_logged ?_ _, k.transactions, k.orders⟩
    refine Rows.nodup_update k.shifts ?_
    intro sh
    rfl
  | entryRecorded => exact ⟨nodup_logged k.shifts _, k.transactions, k.orders⟩
  | sold claims plan fits =>
    exact ⟨nodup_logged k.shifts _,
      Rows.nodup_concat k.transactions (hasTransaction_eq_false.1 fits.fresh), k.orders⟩
  | refused => exact ⟨k.shifts, k.transactions, k.orders⟩
  | voided =>
    exact ⟨nodup_logged k.shifts _, Rows.nodup_update k.transactions fun _ => rfl, k.orders⟩
  | refunded =>
    exact ⟨nodup_logged k.shifts _, Rows.nodup_update k.transactions fun _ => rfl, k.orders⟩
  | productAdded check added =>
    obtain ⟨-, -, -, rfl⟩ := addProduct_eq_ok.1 added
    exact ⟨k.shifts, k.transactions, k.orders⟩
  | supplierAdded check added =>
    obtain ⟨-, rfl⟩ := addSupplier_eq_ok.1 added
    exact ⟨k.shifts, k.transactions, k.orders⟩
  | orderAdded elevated check products added =>
    obtain ⟨hfresh, -, -, -, rfl⟩ := addOrder_eq_ok.1 added
    refine ⟨k.shifts, k.transactions, Rows.nodup_concat k.orders ?_⟩
    simpa using hfresh
  | received => exact ⟨k.shifts, k.transactions, Rows.nodup_update k.orders fun _ => rfl⟩
  | purged => exact ⟨k.shifts, k.transactions, k.orders⟩

theorem keyed_empty : ({} : Store).Keyed := ⟨List.nodup_nil, List.nodup_nil, List.nodup_nil⟩

/-- A transaction is found under its identifier. -/
theorem transaction?_of_mem {t : Transaction} (k : s.Keyed) (ht : t ∈ s.transactions) :
    s.transaction? t.store t.id = some t := by
  cases hfound : s.transaction? t.store t.id with
  | none =>
    have hnone := List.find?_eq_none.1 hfound t ht
    simp at hnone
  | some t' =>
    obtain ⟨ht', hid, -⟩ := transaction?_eq_some hfound
    rw [List.inj_on_of_nodup_map k.transactions ht' ht hid]

/-- So is a shift. -/
theorem shift?_of_mem {sh : Shift} (k : s.Keyed) (hsh : sh ∈ s.shifts) : s.shift? sh.id = some sh := by
  cases hfound : s.shift? sh.id with
  | none =>
    have hnone := List.find?_eq_none.1 hfound sh hsh
    simp at hnone
  | some sh' =>
    obtain ⟨hsh', hid⟩ := shift?_eq_some hfound
    rw [List.inj_on_of_nodup_map k.shifts hsh' hsh hid]

end Store

end Till
