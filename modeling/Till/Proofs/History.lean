import Till.Proofs.AtMostOnce
import Till.Proofs.Calls
import Till.Proofs.Tables

/-!
# The history of a transaction

A void or a refund sets columns of a row, without a look at the transaction that the row was made
of.  Nevertheless a till finds, at any time, what the transaction itself has become since it was
sold, by the calls on it that have succeeded.

* `Engine.soldIn`, `Engine.callsOn` : what is sold in a run, and the calls on one transaction;
* `Recorded` : the rows of a world are those of its history, kept by every step (`Recorded.apply`);
* `Engine.Refines`, `Engine.run_refines` : what is found, and what requests give, in every run.
-/

namespace Till

open Transaction (Call)

/-! ### What happens in a run -/

namespace Engine

variable {κ : Type}

/-- **The transactions that are made in a run**, as they are first given. -/
def soldIn (e : Engine) (c : CacheAccess κ) : World κ → List (Step κ) → List Transaction
  | _, [] => []
  | w, step :: steps => e.soldBy w step ++ e.soldIn c (e.apply c w step) steps

/-- **The calls on a transaction** that succeed in a run, one after another. -/
def callsOn (e : Engine) (c : CacheAccess κ) (id : String) : World κ → List (Step κ) → List Call
  | _, [] => []
  | w, step :: steps => e.callOf c id w step ++ e.callsOn c id (e.apply c w step) steps

variable {e : Engine} {c : CacheAccess κ}

theorem soldIn_append (w : World κ) (steps later : List (Step κ)) :
    e.soldIn c w (steps ++ later) = e.soldIn c w steps ++ e.soldIn c (e.run c w steps) later := by
  induction steps generalizing w with
  | nil => rfl
  | cons step steps ih => rw [List.cons_append, soldIn, soldIn, ih, List.append_assoc, run_cons]

/-- What an actor finds under an identifier. -/
def Finds (e : Engine) (c : CacheAccess κ) (w : World κ) (actor : Actor) (id : String)
    (t : Transaction) : Prop :=
  ∀ ids, e.handle c ids actor (.transaction id) w = (.ok (.transaction t), w)

variable {w : World κ} {actor : Actor} {id : String}

theorem finds_iff {t : Transaction} :
    e.Finds c w actor id t ↔ w.store.transaction? actor.store id = some t := by
  have hlook : ∀ ids, e.handle c ids actor (.transaction id) w =
      look .transaction (transaction actor id) w := fun _ => rfl
  simp only [Finds, hlook, look, mapAnswer_eq_ok, World.onStore, Action.query, Prod.mk.injEq,
    and_true, Reply.transaction.injEq, exists_eq_right, transaction_eq_ok]
  exact ⟨fun h => h ⟨"", "", fun _ => ""⟩, fun h _ => h⟩

end Engine

/-! ### What is given again -/

/-- **What is given again was given before**: every stored outcome that gives a transaction was
stored when this transaction was added, or before the change. -/
theorem Change.replays {e : Engine} {now : Instant} {s after : Store} (hnow : now.IsRepresentable)
    (h : Change e now s after) {r : OutcomeRecord} (hr : r ∈ after.outcomes) {t : Transaction}
    (hreplay : r.outcome.replay Transaction.ofJson? = .ok t) :
    r ∈ s.outcomes ∨ after.transactions = s.transactions ++ [t] := by
  cases h with
  | shiftOpened start added =>
    obtain ⟨-, -, -, rfl⟩ := Store.addShift_eq_ok.1 added
    exact .inl hr
  | shiftClosed => exact .inl hr
  | entryRecorded => exact .inl hr
  | @sold ids actor cart key claim u sh ev claims plan fits =>
    obtain ⟨sh', pricing, totals, -, hsold, rfl⟩ := Engine.planSale_eq_ok plan
    obtain ⟨-, houtcomes⟩ := claims.remembered _ _
    rcases List.mem_append.1 (houtcomes ▸ hr) with hr | hr
    · exact .inl (List.mem_of_mem_filter hr)
    · obtain rfl := List.mem_singleton.1 hr
      have hsame := (Engine.replay_saleUnit hsold hnow ids claim).symm.trans hreplay
      obtain rfl := Except.ok.inj hsame
      simp only [Store.afterSale, Engine.saleUnit, Store.unvoided_sold, or_true]
  | refused claims kind =>
    obtain ⟨-, houtcomes⟩ := claims.remembered _ _
    rcases List.mem_append.1 (houtcomes ▸ hr) with hr | hr
    · exact .inl (List.mem_of_mem_filter hr)
    · obtain rfl := List.mem_singleton.1 hr
      cases hreplay
  | voided => exact .inl hr
  | refunded => exact .inl hr
  | productAdded check added =>
    obtain ⟨-, -, -, rfl⟩ := Store.addProduct_eq_ok.1 added
    exact .inl hr
  | supplierAdded check added =>
    obtain ⟨-, rfl⟩ := Store.addSupplier_eq_ok.1 added
    exact .inl hr
  | orderAdded elevated check products added =>
    obtain ⟨-, -, -, -, rfl⟩ := Store.addOrder_eq_ok.1 added
    exact .inl hr
  | received => exact .inl hr
  | purged => exact .inl (List.mem_of_mem_filter hr)

/-! ### Rows and their history -/

/-- All times that a step shows have a property. -/
def Step.Shows {κ : Type} (p : Instant → Prop) : Step κ → Prop
  | .time now => p now
  | _ => True

/-- **The rows of a world are those of its history**: of the given transactions, as they were first
given, and of the calls on each. -/
structure Recorded {κ : Type} (sold : List Transaction) (calls : String → List Call)
    (w : World κ) : Prop where
  keyed : w.store.Keyed
  /-- What is written now can be read. -/
  now : w.now.IsRepresentable
  legible : ∀ t ∈ w.store.transactions, t.Legible
  /-- The rows are what the transactions have become by the calls. -/
  rows : sold.map (fun t => t.follow (calls t.id)) = w.store.transactions.map Except.ok
  /-- What is given again was given before. -/
  replays : ∀ r ∈ w.store.outcomes, ∀ t, r.outcome.replay Transaction.ofJson? = .ok t → t ∈ sold
  /-- There is no call on a transaction that is not there. -/
  calls : ∀ id, w.store.hasTransaction id = false → calls id = []

namespace Recorded

variable {κ : Type} {e : Engine} {c : CacheAccess κ} {w : World κ} {sold : List Transaction}
  {calls : String → List Call} {t : Transaction}

theorem empty {now : Instant} (h : now.IsRepresentable) (cache : κ) :
    Recorded [] (fun _ => []) (World.empty now cache) where
  keyed := Store.keyed_empty
  now := h
  legible _ ht := absurd ht List.not_mem_nil
  rows := rfl
  replays _ hr := absurd hr List.not_mem_nil
  calls _ _ := rfl

/-- What was sold is there, as it has become. -/
theorem follow_eq_ok (h : Recorded sold calls w) (ht : t ∈ sold) :
    ∃ after ∈ w.store.transactions, t.follow (calls t.id) = .ok after := by
  have hmem : t.follow (calls t.id) ∈ w.store.transactions.map Except.ok :=
    h.rows ▸ List.mem_map_of_mem ht
  obtain ⟨after, hafter, heq⟩ := List.mem_map.1 hmem
  exact ⟨after, hafter, heq.symm⟩

/-- What is there was sold. -/
theorem exists_sold (h : Recorded sold calls w) {after : Transaction}
    (hafter : after ∈ w.store.transactions) : ∃ t ∈ sold, t.follow (calls t.id) = .ok after := by
  have hmem : .ok after ∈ sold.map fun t => t.follow (calls t.id) :=
    h.rows.symm ▸ List.mem_map_of_mem hafter
  exact List.mem_map.1 hmem

/-- The identifiers are those of the transactions that were sold. -/
theorem ids (h : Recorded sold calls w) :
    sold.map (·.id) = w.store.transactions.map (·.id) := by
  have hids : ∀ t ∈ sold, (t.follow (calls t.id)).map (·.id) = .ok t.id := by
    intro t ht
    obtain ⟨after, -, hafter⟩ := h.follow_eq_ok ht
    rw [hafter, ← (Transaction.follow_kept hafter).1]
    rfl
  have hrows := congrArg (List.map (Except.map (·.id))) h.rows
  rw [List.map_map, List.map_map] at hrows
  have hsold : (sold.map (·.id)).map Except.ok =
      sold.map fun t => (t.follow (calls t.id)).map (·.id) := by
    rw [List.map_map]
    exact (List.map_congr_left hids).symm
  refine List.map_injective_iff.2 (fun _ _ => Except.ok.inj) (hsold.trans (hrows.trans ?_))
  rw [List.map_map]
  rfl

/-- A transaction that is given again is there. -/
theorem hasTransaction (h : Recorded sold calls w) {r : OutcomeRecord} (hr : r ∈ w.store.outcomes)
    (hreplay : r.outcome.replay Transaction.ofJson? = .ok t) :
    w.store.hasTransaction t.id = true := by
  obtain ⟨after, hafter, hfollow⟩ := h.follow_eq_ok (h.replays r hr t hreplay)
  rw [Store.hasTransaction, List.any_eq_true]
  exact ⟨after, hafter, beq_iff_eq.2 (Transaction.follow_kept hfollow).1⟩

end Recorded

namespace Engine

variable {κ : Type} {e : Engine} {c : CacheAccess κ} {w : World κ} {step : Step κ} {id : String}

theorem apply_shows {p : Instant → Prop} (hnow : p w.now) (h : step.Shows p) :
    p (e.apply c w step).now := by
  cases step with
  | request ids actor r =>
    rw [apply, handle_now]
    exact hnow
  | purge => exact hnow
  | time now => exact h
  | caching uptime cache => exact hnow

/-- **What every change at a time that is shown keeps, every run keeps.** -/
theorem run_keeps_shown {p : Instant → Prop} {P : Store → Prop}
    (keeps : ∀ {now s after}, p now → Change e now s after → P s → P after) {steps : List (Step κ)}
    (hnow : p w.now) (hshows : ∀ step ∈ steps, step.Shows p) (h : P w.store) :
    P (e.run c w steps).store := by
  induction steps generalizing w with
  | nil => exact h
  | cons step steps ih =>
    obtain ⟨hstep, hsteps⟩ := List.forall_mem_cons.1 hshows
    refine ih (apply_shows hnow hstep) hsteps ?_
    rcases e.apply_change c w step with hsame | hchange
    · exact hsame ▸ h
    · exact keeps hnow hchange h

end Engine

namespace Recorded

variable {κ : Type} {e : Engine} {c : CacheAccess κ} {w : World κ} {sold : List Transaction}
  {calls : String → List Call} {t : Transaction}

/-- The rows after a step. -/
theorem step_rows (h : Recorded sold calls w) (step : Step κ) :
    (e.apply c w step).store.transactions.map Except.ok =
      w.store.transactions.map (fun t => t.follow (e.callOf c t.id w step)) ++
        (e.soldBy w step).map Except.ok :=
  Engine.apply_transactions h.keyed (fun _ hr _ hreplay => h.hasTransaction hr hreplay) step

/-- They are those of the history that the step continues. -/
theorem apply_rows (h : Recorded sold calls w) (step : Step κ) :
    (sold ++ e.soldBy w step).map (fun t => t.follow (calls t.id ++ e.callOf c t.id w step)) =
      (e.apply c w step).store.transactions.map Except.ok := by
  have hold : ∀ t ∈ sold, t.follow (calls t.id ++ e.callOf c t.id w step) =
      t.follow (calls t.id) >>= fun b => b.follow (e.callOf c b.id w step) := by
    intro t ht
    obtain ⟨b, -, hb⟩ := h.follow_eq_ok ht
    rw [Transaction.follow_append, hb, ← (Transaction.follow_kept hb).1]
    rfl
  -- There was no call on what was not there, and there is none in this step.
  have hnew : ∀ t ∈ e.soldBy w step,
      t.follow (calls t.id ++ e.callOf c t.id w step) = .ok t := by
    intro t ht
    have hfresh := Engine.hasTransaction_of_soldBy ht
    rw [h.calls t.id hfresh, Engine.callOf_of_fresh h.keyed hfresh]
    rfl
  calc (sold ++ e.soldBy w step).map (fun t => t.follow (calls t.id ++ e.callOf c t.id w step))
      = (sold.map fun t => t.follow (calls t.id)).map
            (fun b => b >>= fun b => b.follow (e.callOf c b.id w step)) ++
          (e.soldBy w step).map Except.ok := by
        rw [List.map_append, List.map_congr_left hold, List.map_congr_left hnew, List.map_map]
        rfl
    _ = w.store.transactions.map (fun b => b.follow (e.callOf c b.id w step)) ++
          (e.soldBy w step).map Except.ok := by
        rw [h.rows, List.map_map]
        rfl
    _ = (e.apply c w step).store.transactions.map Except.ok := (h.step_rows step).symm

/-- What a change adds is what the step gives for the first time. -/
theorem mem_soldBy (h : Recorded sold calls w) {step : Step κ}
    (hadded : (e.apply c w step).store.transactions = w.store.transactions ++ [t]) :
    t ∈ e.soldBy w step := by
  have hrows := h.step_rows (e := e) (c := c) step
  rw [hadded, List.map_append] at hrows
  obtain ⟨-, hsold⟩ := List.append_inj hrows (by simp only [List.length_map])
  have hgiven : [t] = e.soldBy w step :=
    List.map_injective_iff.2 (fun _ _ => Except.ok.inj) hsold
  exact hgiven ▸ List.mem_singleton_self t

/-- What is not there after a step was not there before. -/
theorem fresh_before (h : Recorded sold calls w) {step : Step κ} {id : String}
    (hfresh : (e.apply c w step).store.hasTransaction id = false) :
    w.store.hasTransaction id = false := by
  refine Store.hasTransaction_eq_false.2 fun hid => ?_
  obtain ⟨b, hb, rfl⟩ := List.mem_map.1 hid
  have hmem : b.follow (e.callOf c b.id w step) ∈
      (e.apply c w step).store.transactions.map Except.ok := by
    rw [h.step_rows]
    exact List.mem_append_left _ (List.mem_map_of_mem hb)
  obtain ⟨after, hafter, heq⟩ := List.mem_map.1 hmem
  have hsame := (Transaction.follow_kept heq.symm).1
  exact Store.hasTransaction_eq_false.1 hfresh (hsame ▸ List.mem_map_of_mem hafter)

/-- **Every step continues the history.** -/
theorem apply (h : Recorded sold calls w) (step : Step κ)
    (hshows : step.Shows Instant.IsRepresentable) :
    Recorded (sold ++ e.soldBy w step) (fun id => calls id ++ e.callOf c id w step)
      (e.apply c w step) where
  keyed := by
    rcases e.apply_change c w step with hsame | hchange
    · exact hsame ▸ h.keyed
    · exact h.keyed.change hchange
  now := Engine.apply_shows h.now hshows
  legible := by
    rcases e.apply_change c w step with hsame | hchange
    · exact hsame ▸ h.legible
    · exact hchange.legible h.now h.legible
  rows := h.apply_rows step
  replays := by
    intro r hr t hreplay
    rcases e.apply_change c w step with hsame | hchange
    · exact List.mem_append_left _ (h.replays r (hsame ▸ hr) t hreplay)
    · rcases hchange.replays h.now hr hreplay with hr | hadded
      · exact List.mem_append_left _ (h.replays r hr t hreplay)
      · exact List.mem_append_right _ (h.mem_soldBy hadded)
  calls := by
    intro id hfresh
    have hbefore := h.fresh_before hfresh
    simp only [h.calls id hbefore, Engine.callOf_of_fresh h.keyed hbefore, List.append_nil]

/-- **Every run continues the history.** -/
theorem run (h : Recorded sold calls w) {steps : List (Step κ)}
    (hshows : ∀ step ∈ steps, step.Shows Instant.IsRepresentable) :
    Recorded (sold ++ e.soldIn c w steps) (fun id => calls id ++ e.callsOn c id w steps)
      (e.run c w steps) := by
  induction steps generalizing w sold calls with
  | nil =>
    simp only [Engine.soldIn, Engine.callsOn, List.append_nil]
    exact h
  | cons step steps ih =>
    obtain ⟨hstep, hsteps⟩ := List.forall_mem_cons.1 hshows
    simp only [Engine.soldIn, Engine.callsOn, ← List.append_assoc]
    exact ih (h.apply step hstep) hsteps

/-- What was written by a request can be looked up. -/
theorem keyed_after (h : Recorded sold calls w) {ids : Ids} {actor : Actor} {r : Request}
    {reply : Reply} {after : World κ} (hreply : e.handle c ids actor r w = (.ok reply, after)) :
    after.store.Keyed := by
  have hafter : e.apply c w (.request ids actor r) = after := congrArg Prod.snd hreply
  exact hafter ▸ (h.apply (.request ids actor r) trivial).keyed

/-- **A receipt** is about a transaction of the history.  What it adds is found as it is given. -/
theorem receipt (h : Recorded sold calls w) {ids : Ids} {actor : Actor} {cart : Cart}
    {key : String} {receipt : Receipt} {after : World κ}
    (hreply : e.handle c ids actor (.checkout cart key) w = (.ok (.receipt receipt), after)) :
    receipt.transaction ∈ sold ++ e.soldBy w (.request ids actor (.checkout cart key)) ∧
      (w.store.hasTransaction receipt.transaction.id = false →
        e.Finds c after actor receipt.transaction.id receipt.transaction) := by
  have hkeyed := h.keyed_after hreply
  obtain ⟨receipt, hcheckout, ⟨⟩⟩ := Engine.mapAnswer_eq_ok.1 hreply
  have hsell := Engine.checkout_eq_ok hcheckout
  rcases e.sellOnce_cases ids w.now actor cart key w.store with
    ⟨-, hagain⟩ | ⟨t, ht, hstore, hfresh, hadded⟩
  · -- The transaction is given again, so it is there.
    obtain ⟨r, hr, hreplay⟩ := hagain _ hsell
    refine ⟨List.mem_append_left _ (h.replays r hr _ hreplay), fun hfresh => ?_⟩
    rw [h.hasTransaction hr hreplay] at hfresh
    cases hfresh
  · obtain rfl := Except.ok.inj (hsell.symm.trans ht)
    refine ⟨List.mem_append_right _ ?_, fun _ => Engine.finds_iff.2 ?_⟩
    · rw [Engine.soldBy, hsell, Store.newly, hfresh, if_neg Bool.false_ne_true]
      exact List.mem_singleton_self _
    · have hafter := e.checkout_store c ids actor cart key w
      rw [hcheckout] at hafter
      have hmem : receipt.transaction ∈ after.store.transactions := by
        rw [hafter, hadded]
        exact List.mem_append_right _ (List.mem_singleton_self _)
      rw [← hstore]
      exact Store.transaction?_of_mem hkeyed hmem

end Recorded

/-! ### Every run -/

namespace Engine

variable {κ : Type}

open Tables (Statement)

/-- **A run makes this of a transaction**: one of the store was sold under the identifier, and this
is what the calls on it that have succeeded make of it. -/
def Makes (e : Engine) (c : CacheAccess κ) (start : World κ) (steps : List (Step κ))
    (store id : String) (t : Transaction) : Prop :=
  ∃ first ∈ e.soldIn c start steps, first.id = id ∧ first.store = store ∧
    first.follow (e.callsOn c id start steps) = .ok t

/-- **A run refines the transactions**: what is found at the end of it, and what the next request
gives, is told by the transactions that were sold and the calls on them. -/
structure Refines (e : Engine) (c : CacheAccess κ) (start : World κ) (steps : List (Step κ))
    (w : World κ) : Prop where
  /-- Transactions have identifiers of their own. -/
  distinct : ((e.soldIn c start steps).map (·.id)).Nodup
  /-- All calls that a till has accepted succeed on the transaction that was sold. -/
  follows : ∀ first ∈ e.soldIn c start steps,
    ∃ t, first.follow (e.callsOn c first.id start steps) = .ok t
  /-- What is found is what the run makes of a transaction, and nothing else. -/
  finds : ∀ {actor id t}, e.Finds c w actor id t ↔ e.Makes c start steps actor.store id t
  /-- A receipt is about a transaction as it was first given.  If that was not there before, it is
  found as it is given. -/
  receipts : ∀ {ids actor cart key receipt after},
    e.handle c ids actor (.checkout cart key) w = (.ok (.receipt receipt), after) →
      receipt.transaction ∈
          e.soldIn c start (steps ++ [.request ids actor (.checkout cart key)]) ∧
        (w.store.hasTransaction receipt.transaction.id = false →
          e.Finds c after actor receipt.transaction.id receipt.transaction)
  /-- A void succeeds only if the transaction can be voided.  It gives what is found afterwards. -/
  voids : ∀ {ids actor id reason voided after},
    e.handle c ids actor (.void id reason) w = (.ok (.transaction voided), after) →
      ∃ t, e.Makes c start steps actor.store id t ∧
        t.void reason actor.approver w.now e.voidWindow = .ok voided ∧
        e.Finds c after actor id voided
  /-- A refund succeeds only if the amount of the transaction can be refunded. -/
  refunds : ∀ {ids actor id amount reason refund after},
    e.handle c ids actor (.refund id amount reason) w = (.ok (.refund refund), after) →
      ∃ t refunded units, e.Makes c start steps actor.store id t ∧
        t.refund amount = .ok (refunded, units) ∧ e.Finds c after actor id refunded
  /-- All fields survive in the tables, -/
  tables : w.store.tables.transactions? = some w.store.transactions
  /-- in which a transaction is looked up as in the store, -/
  lookups : ∀ store id, w.store.tables.transaction? store id = w.store.transaction? store id
  /-- and which a step changes by one statement at most. -/
  statements : ∀ step, Statement w.store.tables (e.apply c w step).store.tables

variable {e : Engine} {c : CacheAccess κ}

theorem makes_iff {start w : World κ} {steps : List (Step κ)} {store id : String} {t : Transaction}
    (h : Recorded (e.soldIn c start steps) (fun id => e.callsOn c id start steps) w) :
    e.Makes c start steps store id t ↔ w.store.transaction? store id = some t := by
  constructor
  · rintro ⟨first, hfirst, rfl, rfl, hfollow⟩
    obtain ⟨after, hafter, hfollow'⟩ := h.follow_eq_ok hfirst
    obtain rfl := Except.ok.inj (hfollow.symm.trans hfollow')
    obtain ⟨hid, hstore⟩ := Transaction.follow_kept hfollow
    rw [← hid, ← hstore]
    exact Store.transaction?_of_mem h.keyed hafter
  · intro hfound
    obtain ⟨ht, rfl, rfl⟩ := Store.transaction?_eq_some hfound
    obtain ⟨first, hfirst, hfollow⟩ := h.exists_sold ht
    obtain ⟨hid, hstore⟩ := Transaction.follow_kept hfollow
    exact ⟨first, hfirst, hid.symm, hstore.symm, hid ▸ hfollow⟩

/-- **In every run, transactions are found as the calls on them make them.** -/
theorem run_refines {start : Instant} (cache : κ) {steps : List (Step κ)}
    (hstart : start.IsRepresentable)
    (hshows : ∀ step ∈ steps, step.Shows Instant.IsRepresentable) :
    e.Refines c (World.empty start cache) steps
      (e.run c (World.empty start cache) steps) := by
  have hrun := (Recorded.empty hstart cache).run (e := e) (c := c) hshows
  simp only [List.nil_append] at hrun
  generalize hw : e.run c (World.empty start cache) steps = w at hrun ⊢
  exact {
    distinct := hrun.ids ▸ hrun.keyed.transactions
    follows := fun first hfirst =>
      have ⟨t, _, hfollow⟩ := hrun.follow_eq_ok hfirst
      ⟨t, hfollow⟩
    finds := finds_iff.trans (makes_iff hrun).symm
    receipts := by
      intro ids actor cart key receipt after h
      rw [soldIn_append, hw, soldIn, soldIn, List.append_nil]
      exact hrun.receipt h
    voids := by
      intro ids actor id reason voided after h
      obtain ⟨voided, s, hvoid, rfl, ⟨⟩⟩ := change_eq_ok.1 h
      obtain ⟨t, hperformed⟩ := void_performed hrun.keyed hvoid
      exact ⟨t, (makes_iff hrun).2 hperformed.found, hperformed.performed,
        finds_iff.2 (hperformed.found_after (hrun.keyed_after h))⟩
    refunds := by
      intro ids actor id amount reason refund after h
      obtain ⟨refund, s, hrefund, rfl, ⟨⟩⟩ := change_eq_ok.1 h
      obtain ⟨t, refunded, hperformed⟩ := refund_performed hrun.keyed hrefund
      obtain ⟨⟨_, units⟩, hunits, rfl⟩ := Outcome.map_eq_ok.1 hperformed.performed
      exact ⟨t, _, units, (makes_iff hrun).2 hperformed.found, hunits,
        finds_iff.2 (hperformed.found_after (hrun.keyed_after h))⟩
    tables := Tables.transactions?_ofTransactions hrun.keyed.transactions hrun.legible
    lookups := Store.transaction?_tables hrun.keyed hrun.legible
    statements := by
      intro step
      rcases e.apply_change c w step with hsame | hchange
      · rw [hsame]
        exact .none
      · exact hchange.tables hrun.keyed }

end Engine

/-! ### A sale that is voided -/

namespace DoubleSale

/-- A void of the first sale as a step. -/
def voiding : Step Cache := .request (ids "8") manager (.void "6" "wrong")

/-- The first sale of the epoch after its void. -/
def voided : Transaction :=
  { sold "6" ⟨0⟩ with
    status := .voided
    voidedAt := some ⟨0⟩
    voidReason := some "wrong"
    voidedBy := some "manager" }

/-- The till whose keys last for a day. -/
def dayTill : Engine := till 86400000000000

theorem claims_first :
    Claims dayTill.keyLifetime ⟨manager.store, manager.cashier, "key", ⟨0⟩⟩ (stocked ⟨0⟩)
      (claim 86400000000000 ⟨0⟩) :=
  claims_of_free (by decide +kernel) rfl

theorem sellOnce_first :
    dayTill.sellOnce (ids "6") ⟨0⟩ manager cart "key" (stocked ⟨0⟩) =
      (.ok (sold "6" ⟨0⟩), soldOnce 86400000000000 ⟨0⟩) :=
  Engine.sellOnce_of_sale claims_first first_sale

/-- The sale and its void leave the transaction voided. -/
theorem run_voiding :
    let w := dayTill.run Cache.access (world (stocked ⟨0⟩) ⟨0⟩) [checkout "6", voiding]
    w.now = ⟨0⟩ ∧ w.store.transactions = [voided] := by
  have hsold : (dayTill.apply Cache.access (world (stocked ⟨0⟩) ⟨0⟩) (checkout "6")).store =
      soldOnce 86400000000000 ⟨0⟩ := by
    rw [checkout, Engine.apply, Engine.handle, Engine.mapAnswer_snd, Engine.checkout_store]
    exact congrArg Prod.snd sellOnce_first
  have hnow : (dayTill.apply Cache.access (world (stocked ⟨0⟩) ⟨0⟩) (checkout "6")).now = ⟨0⟩ :=
    Engine.handle_now ..
  simp only [Engine.run_cons, Engine.run_nil]
  generalize dayTill.apply Cache.access (world (stocked ⟨0⟩) ⟨0⟩) (checkout "6") = w at hsold hnow
  refine ⟨(Engine.handle_now ..).trans hnow, ?_⟩
  rw [voiding, Engine.apply, Engine.handle, Engine.change_store, hsold, hnow]
  rfl

theorem run_stocking_voiding :
    dayTill.run Cache.access (World.empty ⟨0⟩ .absent) (stocking ++ [checkout "6", voiding]) =
      dayTill.run Cache.access (world (stocked ⟨0⟩) ⟨0⟩) [checkout "6", voiding] := by
  rw [Engine.run_append, dayTill, run_stocking]

/-- **The run refines its transaction**, which is found voided. -/
theorem run_refines_voiding :
    let steps := stocking ++ [checkout "6", voiding]
    let w := dayTill.run Cache.access (World.empty ⟨0⟩ .absent) steps
    (Instant.IsRepresentable ⟨0⟩ ∧ ∀ step ∈ steps, step.Shows Instant.IsRepresentable) ∧
      dayTill.Refines Cache.access (World.empty ⟨0⟩ .absent) steps w ∧
      dayTill.Finds Cache.access w manager "6" voided := by
  intro steps w
  have hstart : Instant.IsRepresentable ⟨0⟩ := by decide +kernel
  have hshows : ∀ step ∈ steps, step.Shows Instant.IsRepresentable := by
    simp [steps, stocking, checkout, voiding, Step.Shows]
  refine ⟨⟨hstart, hshows⟩, Engine.run_refines .absent hstart hshows, Engine.finds_iff.2 ?_⟩
  have htransactions : w.store.transactions = [voided] := by
    rw [show w = _ from run_stocking_voiding]
    exact run_voiding.2
  rw [Store.transaction?, htransactions]
  rfl

/-- **A receipt that is given again is not what is found**: the sale is repeated under its key after
the void, and gives the transaction as it was. -/
theorem not_finds_receipt_again :
    let steps := stocking ++ [checkout "6", voiding]
    let w := dayTill.run Cache.access (World.empty ⟨0⟩ .absent) steps
    ∃ suggested after,
      dayTill.handle Cache.access (ids "7") manager (.checkout cart "key") w =
          (.ok (.receipt ⟨sold "6" ⟨0⟩, suggested⟩), after) ∧
        dayTill.Finds Cache.access after manager "6" voided ∧
        ¬dayTill.Finds Cache.access after manager "6" (sold "6" ⟨0⟩) := by
  intro steps w
  have hrun : w = dayTill.run Cache.access (world (stocked ⟨0⟩) ⟨0⟩) [checkout "6", voiding] :=
    run_stocking_voiding
  obtain ⟨hnow, htransactions⟩ := run_voiding
  rw [← hrun] at hnow htransactions
  -- The lifetime of the key is not over.
  have hpromise : dayTill.OncePerKey Cache.access fun t =>
      t.hasPlainYear ∧ (t.shift 86400000000000).hasPlainYear :=
    Engine.oncePerKey_of_keepsLifetimes (Engine.keepsLifetimes_of_plainYears _)
      (fun t ht => Engine.isRepresentable_of_hasPlainYear ht.1) _
  have hforward : Forward (fun t => t.hasPlainYear ∧ (t.shift 86400000000000).hasPlainYear)
      (world (stocked ⟨0⟩) ⟨0⟩).now [voiding] := trivial
  have hagain : dayTill.SellsAgain Cache.access w (ids "7") manager cart "key" (sold "6" ⟨0⟩) :=
    hpromise.sold (w := world (stocked ⟨0⟩) ⟨0⟩) (by decide +kernel) claims_first.free
      (congrArg Prod.fst sellOnce_first) hforward hrun (hnow ▸ by decide +kernel) rfl rfl
  obtain ⟨suggested, hreceipt⟩ := hagain.receipt <| by
    refine Advisor.recommend_ne_overflow (a := dayTill.advisor) rfl (fun key w => ?_)
      (fun _ _ _ _ h => by cases h) _ _ _
    simp only [Engine.advisorAccess, Cache.access, Cache.read]
    cases w.cache <;> simp [Outcome.reject]
  refine ⟨suggested, _, Engine.mapAnswer_eq_ok.2 ⟨_, Prod.ext hreceipt rfl, rfl⟩, ?_⟩
  simp only [Engine.finds_iff, hagain.store, Store.transaction?, htransactions]
  decide +kernel

end DoubleSale

end Till
