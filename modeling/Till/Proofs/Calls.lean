import Till.Proofs.Ledger
import Till.Proofs.Lifecycle

/-!
# Calls that requests make

A request to void or to refund makes a call on a transaction of the store, and books it as a change
of some columns of its row.  A request to sell adds a row.  Other requests leave all rows as they
are.

* `Transaction.follow` : a transaction after calls that all succeed;
* `Store.Performed` : a row has become what a call makes of its transaction
  (`Engine.handle_performed`);
* `Engine.sellOnce_cases` : a transaction is given again, or it is new and is added;
* `Engine.apply_transactions` : what a step does to all rows at once.
-/

namespace Till

namespace Transaction

variable {t after : Transaction} {call : Call} {calls : List Call}

/-- A transaction after calls, one after another, all of which succeed. -/
def follow (t : Transaction) (calls : List Call) : Result Transaction := calls.foldlM perform t

@[simp] theorem follow_nil (t : Transaction) : t.follow [] = .ok t := rfl

@[simp] theorem follow_singleton (t : Transaction) (call : Call) :
    t.follow [call] = t.perform call := by
  rw [follow, List.foldlM_cons]
  exact bind_pure _

theorem follow_append (t : Transaction) (calls later : List Call) :
    t.follow (calls ++ later) = t.follow calls >>= fun after => after.follow later :=
  List.foldlM_append

/-- A call never changes what a transaction is found by. -/
theorem perform_kept (h : t.perform call = .ok after) :
    after.id = t.id ∧ after.store = t.store := by
  cases call with
  | complete =>
    obtain ⟨-, rfl⟩ := complete_eq_ok.1 h
    exact ⟨rfl, rfl⟩
  | void reason approver now window =>
    obtain ⟨-, rfl⟩ := void_eq_ok h
    exact ⟨rfl, rfl⟩
  | refund amount =>
    obtain ⟨⟨_, units⟩, hrefund, rfl⟩ := Outcome.map_eq_ok.1 h
    have hafter := (refund_eq_ok hrefund).refunded
    rw [hafter]
    exact ⟨rfl, rfl⟩

theorem follow_kept (h : t.follow calls = .ok after) : after.id = t.id ∧ after.store = t.store := by
  induction calls generalizing t with
  | nil =>
    obtain rfl := Except.ok.inj h
    exact ⟨rfl, rfl⟩
  | cons call calls ih =>
    rw [follow, List.foldlM_cons, Outcome.bind_eq_ok] at h
    obtain ⟨mid, hcall, hrest⟩ := h
    obtain ⟨hid, hstore⟩ := perform_kept hcall
    obtain ⟨hid', hstore'⟩ := ih hrest
    exact ⟨hid'.trans hid, hstore'.trans hstore⟩

end Transaction

open Transaction (Call)

/-! ### What happens in a step -/

/-- The call that a request makes, after the identifier of the transaction that it is made on. -/
def Request.call? (e : Engine) (actor : Actor) (now : Instant) : Request → Option (String × Call)
  | .void id reason => some (id, .void reason actor.approver now e.voidWindow)
  | .refund id amount _ => some (id, .refund amount)
  | _ => none

/-- The transaction that was given, if it was not there before. -/
def Store.newly (s : Store) : Result Transaction → List Transaction
  | .ok t => if s.hasTransaction t.id then [] else [t]
  | .error _ => []

namespace Engine

variable {κ : Type}

/-- The transaction that a step makes, as it is given; that suggestions fail makes no difference. -/
def soldBy (e : Engine) (w : World κ) : Step κ → List Transaction
  | .request ids actor (.checkout cart key) =>
    w.store.newly (e.sellOnce ids w.now actor cart key w.store).1
  | _ => []

/-- The call on a transaction that succeeds in a step, if one does. -/
def callOf (e : Engine) (c : CacheAccess κ) (id : String) (w : World κ) : Step κ → List Call
  | .request ids actor r =>
    match r.call? e actor w.now with
    | some (subject, call) =>
      if subject = id ∧ (e.handle c ids actor r w).1.isOk then [call] else []
    | none => []
  | _ => []

end Engine

/-! ### Answers of requests -/

namespace Engine

variable {κ α : Type} {e : Engine} {c : CacheAccess κ} {w after : World κ} {actor : Actor}
  {id : String}

theorem mapAnswer_eq_ok {σ β : Type} {f : α → β} {step : Action σ α} {s after : σ} {b : β} :
    step.mapAnswer f s = (.ok b, after) ↔ ∃ a, step s = (.ok a, after) ∧ f a = b := by
  unfold Action.mapAnswer
  split <;> next h => simp [h, and_comm]

theorem change_eq_ok {reply : α → Reply} {step : Action Store α} {b : Reply} :
    change reply step w = (.ok b, after) ↔
      ∃ a s, step w.store = (.ok a, s) ∧ after = { w with store := s } ∧ reply a = b := by
  rw [change, mapAnswer_eq_ok]
  cases hstep : step w.store with
  | mk result s => simp [World.onStore, hstep, and_assoc, eq_comm (a := after)]

theorem checkout_eq_ok {ids : Ids} {cart : Cart} {key : String} {receipt : Receipt}
    (h : e.checkout c ids actor cart key w = (.ok receipt, after)) :
    (e.sellOnce ids w.now actor cart key w.store).1 = .ok receipt.transaction := by
  rcases hsold : e.sellOnce ids w.now actor cart key w.store with ⟨fault | t, s⟩
  · rw [checkout_of_error e c ids actor cart key hsold] at h
    cases h
  · -- A receipt is about the transaction that was sold, whatever is suggested.
    have hcases := (e.withSuggestions_cases c t { w with store := s }).1
    rw [checkout_eq e c ids actor cart key hsold] at h
    rw [h] at hcases
    rcases hcases with ⟨r, hr⟩ | hr
    · rw [Except.ok.inj hr]
    · cases hr

end Engine

/-! ### Voids and refunds -/

namespace Store

variable {s after : Store} {store id : String} {call : Call} {t t' : Transaction}

/-- **A call is performed** on a transaction of a store: the transaction has become what the call
makes of it, and the others are what they were. -/
structure Performed (s after : Store) (store id : String) (call : Call) (t t' : Transaction) :
    Prop where
  found : s.transaction? store id = some t
  performed : t.perform call = .ok t'
  transactions : after.transactions = Rows.update (·.id) id (fun _ => t') s.transactions

/-- The transactions afterwards follow from those before. -/
theorem Performed.follow (h : s.Performed after store id call t t') (k : s.Keyed) :
    after.transactions.map Except.ok =
      s.transactions.map fun b => b.follow (if id = b.id then [call] else []) := by
  obtain ⟨ht, rfl, -⟩ := transaction?_eq_some h.found
  rw [h.transactions, Rows.update, List.map_map]
  refine List.map_congr_left fun b hb => ?_
  by_cases hid : b.id = t.id
  · obtain rfl := List.inj_on_of_nodup_map k.transactions hb ht hid
    simp [h.performed]
  · simp [hid, Ne.symm hid]

/-- The transaction is found as it has become. -/
theorem Performed.found_after (h : s.Performed after store id call t t') (k : after.Keyed) :
    after.transaction? store id = some t' := by
  obtain ⟨ht, rfl, rfl⟩ := transaction?_eq_some h.found
  obtain ⟨hid, hstore⟩ := Transaction.perform_kept h.performed
  have ht' : t' ∈ after.transactions := by
    rw [h.transactions, Rows.update]
    exact List.mem_map.2 ⟨t, ht, if_pos (beq_self_eq_true _)⟩
  rw [← hid, ← hstore]
  exact transaction?_of_mem k ht'

/-- A change of the row of a transaction performs a call if it makes of the transaction what the
call does. -/
theorem performed_of_update {f : Transaction → Transaction} (k : s.Keyed)
    (found : s.transaction? store id = some t) (performed : t.perform call = .ok (f t))
    (transactions : after.transactions = Rows.update (·.id) id f s.transactions) :
    s.Performed after store id call t (f t) := by
  obtain ⟨ht, rfl, -⟩ := transaction?_eq_some found
  exact ⟨found, performed, transactions.trans (Rows.update_congr k.transactions ht rfl)⟩

end Store

namespace Engine

open Store (Performed)

variable {κ α : Type} {e : Engine} {c : CacheAccess κ} {ids : Ids} {now : Instant} {actor : Actor}
  {id reason : String} {s after : Store}

/-- **A void performs its call**, and gives what the call has made of the transaction. -/
theorem void_performed (k : s.Keyed) {voided : Transaction}
    (h : e.void ids now actor id reason s = (.ok voided, after)) :
    ∃ t, s.Performed after actor.store id (.void reason actor.approver now e.voidWindow) t
      voided := by
  simp only [void, planVoid, Action.transact_eq_ok, Outcome.bind_eq_ok, Stored.result_eq_ok,
    Outcome.pure_eq_ok, Prod.mk.injEq, transaction_eq_ok] at h
  obtain ⟨⟨_, _⟩, ⟨_, -, sh, -, t, hfound, voided, hvoid, rfl, rfl⟩, _, hcommit, rfl, rfl⟩ := h
  obtain ⟨-, -, ev, -, rfl⟩ := Store.commitVoid_eq_ok hcommit
  obtain ⟨-, rfl⟩ := Transaction.void_eq_ok hvoid
  obtain rfl := (Store.transaction?_eq_some hfound).2.1
  exact ⟨t, Store.performed_of_update
    (f := Store.marked (voidUnit ids now actor sh reason t)) k hfound hvoid rfl⟩

/-- **A refund performs its call.** -/
theorem refund_performed (k : s.Keyed) {amount : Int} {refund : Refund}
    (h : e.refund ids now actor id amount reason s = (.ok refund, after)) :
    ∃ t t', s.Performed after actor.store id (.refund amount) t t' := by
  rw [refund_eq] at h
  simp only [planRefund, Action.transact_eq_ok, Outcome.bind_eq_ok, Stored.result_eq_ok,
    Outcome.pure_eq_ok, Prod.mk.injEq, transaction_eq_ok] at h
  obtain ⟨sh, -, _, ⟨t, hfound, ⟨refunded, units⟩, hrefund, rfl⟩, _, hcommit, rfl, rfl⟩ := h
  obtain ⟨-, -, ev, -, rfl⟩ := Store.commitRefund_eq_ok hcommit
  obtain rfl := (Store.transaction?_eq_some hfound).2.1
  have hpaid : Store.paidBack (refundUnit ids now actor sh.id amount reason t refunded units) t =
      refunded := (Transaction.refund_eq_ok hrefund).paidBack_eq
  refine ⟨t, _, Store.performed_of_update k hfound (f := Store.paidBack _) ?_ rfl⟩
  exact Outcome.map_eq_ok.2 ⟨_, hrefund, hpaid.symm⟩

/-- **A request that makes a call performs it** if it succeeds. -/
theorem handle_performed {w after : World κ} {r : Request} {call : Call} {reply : Reply}
    (k : w.store.Keyed) (hcall : r.call? e actor w.now = some (id, call))
    (h : e.handle c ids actor r w = (.ok reply, after)) :
    ∃ t t', w.store.Performed after.store actor.store id call t t' := by
  cases r with
  | void id' reason =>
    obtain ⟨rfl, rfl⟩ := Prod.mk.inj (Option.some.inj hcall)
    obtain ⟨voided, s, hvoid, rfl, -⟩ := change_eq_ok.1 h
    obtain ⟨t, hperformed⟩ := void_performed k hvoid
    exact ⟨t, voided, hperformed⟩
  | refund id' amount reason =>
    obtain ⟨rfl, rfl⟩ := Prod.mk.inj (Option.some.inj hcall)
    obtain ⟨refund, s, hrefund, rfl, -⟩ := change_eq_ok.1 h
    exact refund_performed k hrefund
  | _ => cases hcall

theorem books_of_call {now : Instant} {r : Request} {call : String × Call}
    (hcall : r.call? e actor now = some call) : r.books = true := by
  cases r with
  | void | refund => rfl
  | _ => cases hcall

/-- Where a call is made, the transactions follow from those before. -/
theorem follow_of_call {w : World κ} {r : Request} {call : Call} (k : w.store.Keyed)
    (hcall : r.call? e actor w.now = some (id, call)) :
    (e.handle c ids actor r w).2.store.transactions.map Except.ok =
      w.store.transactions.map fun t => t.follow (e.callOf c t.id w (.request ids actor r)) := by
  cases h : e.handle c ids actor r w with
  | mk result after =>
    cases result with
    | ok reply =>
      obtain ⟨t, t', hperformed⟩ := handle_performed k hcall h
      rw [hperformed.follow k]
      simp [callOf, hcall, h, Except.isOk, Except.toBool]
    | error fault =>
      -- A call that fails leaves the store alone.
      have hkept := (e.handle_booked c ids actor (books_of_call hcall) w).kept
        (congrArg Prod.fst h)
      rw [h] at hkept
      rw [hkept]
      simp [callOf, hcall, h, Except.isOk, Except.toBool]

/-! ### Sales -/

/-- **A request to sell** gives a transaction again and leaves all as they are, or it gives a new
one and adds it. -/
theorem sellOnce_cases (e : Engine) (ids : Ids) (now : Instant) (actor : Actor) (cart : Cart)
    (key : String) (s : Store) :
    ((e.sellOnce ids now actor cart key s).2.transactions = s.transactions ∧
        ∀ t, (e.sellOnce ids now actor cart key s).1 = .ok t →
          ∃ r ∈ s.outcomes, r.outcome.replay Transaction.ofJson? = .ok t) ∨
      ∃ t, (e.sellOnce ids now actor cart key s).1 = .ok t ∧ t.store = actor.store ∧
        s.hasTransaction t.id = false ∧
        (e.sellOnce ids now actor cart key s).2.transactions = s.transactions ++ [t] := by
  have houtcome := e.sellOnce_outcome ids now actor cart key s
  generalize e.sellOnce ids now actor cart key s = done at houtcome
  cases houtcome with
  | malformed | endless | refused | failed => exact .inl ⟨rfl, by rintro _ ⟨⟩⟩
  | @replayed r wellFormed found =>
    exact .inl ⟨rfl, fun t ht => ⟨r, List.mem_of_find?_eq_some found, ht⟩⟩
  | @done claim t after claims body =>
    simp only [sale, Outcome.bind_eq_ok, Stored.result_eq_ok, Outcome.pure_eq_ok,
      Prod.mk.injEq] at body
    obtain ⟨u, hplan, _, hcommit, rfl, rfl⟩ := body
    obtain ⟨sh, ev, hfits, rfl⟩ := Store.commitSale_eq_ok hcommit
    obtain ⟨sh', pricing, totals, -, -, rfl⟩ := planSale_eq_ok hplan
    refine .inr ⟨_, rfl, rfl, hfits.fresh, ?_⟩
    simp only [Store.afterSale, saleUnit, Store.unvoided_sold]

/-- **A sale adds the transaction that it gives**, unless it gives again one that is there. -/
theorem sellOnce_transactions {cart : Cart} {key : String}
    (hknown : ∀ r ∈ s.outcomes, ∀ t, r.outcome.replay Transaction.ofJson? = .ok t →
      s.hasTransaction t.id = true) :
    (e.sellOnce ids now actor cart key s).2.transactions =
      s.transactions ++ s.newly (e.sellOnce ids now actor cart key s).1 := by
  rcases e.sellOnce_cases ids now actor cart key s with ⟨hsame, hagain⟩ | ⟨t, ht, -, hfresh, hadded⟩
  · cases hresult : (e.sellOnce ids now actor cart key s).1 with
    | error fault => rw [hsame, Store.newly, List.append_nil]
    | ok t =>
      obtain ⟨r, hr, hreplay⟩ := hagain t hresult
      rw [hsame, Store.newly, if_pos (hknown r hr t hreplay), List.append_nil]
  · rw [hadded, ht, Store.newly, hfresh, if_neg Bool.false_ne_true]

/-! ### Steps -/

/-- **A request that makes no call adds the transaction that it gives** for the first time, if any,
and leaves the others as they are. -/
theorem handle_transactions {r : Request} {w : World κ}
    (hknown : ∀ r ∈ w.store.outcomes, ∀ t, r.outcome.replay Transaction.ofJson? = .ok t →
      w.store.hasTransaction t.id = true)
    (hcall : r.call? e actor w.now = none) :
    (e.handle c ids actor r w).2.store.transactions =
      w.store.transactions ++ e.soldBy w (.request ids actor r) := by
  have hkeeps (hleaves : r.leaves = none) :
      (e.handle c ids actor r w).2.store.transactions = w.store.transactions ++ [] := by
    rw [List.append_nil]
    rcases e.handle_deed c ids actor r w with hsame | hdeed
    · exact congrArg Store.transactions hsame
    · exact (hdeed.keeps_ledger hleaves).1
  cases r with
  | void | refund => cases hcall
  | checkout cart key =>
    simp only [handle, mapAnswer_snd, checkout_store]
    exact sellOnce_transactions hknown
  | _ => exact hkeeps rfl

/-- **A step makes of transactions what their calls make of them**, and adds those that it gives for
the first time. -/
theorem apply_transactions {w : World κ} (k : w.store.Keyed)
    (hknown : ∀ r ∈ w.store.outcomes, ∀ t, r.outcome.replay Transaction.ofJson? = .ok t →
      w.store.hasTransaction t.id = true) (step : Step κ) :
    (e.apply c w step).store.transactions.map Except.ok =
      w.store.transactions.map (fun t => t.follow (e.callOf c t.id w step)) ++
        (e.soldBy w step).map Except.ok := by
  cases step with
  | purge | time | caching => exact (List.append_nil _).symm
  | request ids actor r =>
    cases hcall : r.call? e actor w.now with
    | none =>
      simp only [apply, handle_transactions hknown hcall, callOf, hcall, Transaction.follow_nil,
        List.map_append]
    | some call =>
      have hsold : e.soldBy w (.request ids actor r) = [] := by
        cases r with
        | checkout => cases hcall
        | _ => rfl
      rw [apply, follow_of_call k hcall, hsold, List.map_nil, List.append_nil]

/-- No call succeeds on a transaction that is not there. -/
theorem callOf_of_fresh {w : World κ} (k : w.store.Keyed)
    (hfresh : w.store.hasTransaction id = false) (step : Step κ) : e.callOf c id w step = [] := by
  cases step with
  | purge | time | caching => rfl
  | request ids actor r =>
    cases hcall : r.call? e actor w.now with
    | none => simp only [callOf, hcall]
    | some call =>
      have hfails : ¬(call.1 = id ∧ (e.handle c ids actor r w).1.isOk = true) := by
        rintro ⟨rfl, hok⟩
        cases h : e.handle c ids actor r w with
        | mk result after =>
          cases result with
          | error fault => simp [h, Except.isOk, Except.toBool] at hok
          | ok reply =>
            -- A call would be performed on a transaction that is found.
            obtain ⟨t, t', hperformed⟩ := handle_performed k hcall h
            obtain ⟨ht, hid, -⟩ := Store.transaction?_eq_some hperformed.found
            exact Store.hasTransaction_eq_false.1 hfresh (hid ▸ List.mem_map_of_mem ht)
      simp only [callOf, hcall, if_neg hfails]

/-- What a step gives for the first time was not there before. -/
theorem hasTransaction_of_soldBy {w : World κ} {step : Step κ} {t : Transaction}
    (h : t ∈ e.soldBy w step) : w.store.hasTransaction t.id = false := by
  have hnewly : ∀ {result : Result Transaction}, t ∈ w.store.newly result →
      w.store.hasTransaction t.id = false := by
    intro result ht
    unfold Store.newly at ht
    split at ht
    · split at ht
      · cases ht
      · next hfresh => exact List.mem_singleton.1 ht ▸ Bool.eq_false_iff.2 hfresh
    · cases ht
  unfold soldBy at h
  split at h
  · exact hnewly h
  · cases h

end Engine

end Till
