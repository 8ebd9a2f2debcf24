import Till.Proofs.RefundSeries

/-!
# The life of a transaction

A priced cart is a pending transaction.  From there it is completed, and then voided, or refunded in
one part or in many.  Each of these calls tests by itself whether it may be made.

* `Transaction.Accepts`, `Transaction.perform_eq_ok` : what the tests of a call come to;
* `Transaction.InOrder` : how the fields of a transaction agree with its status and with what was
  paid back, kept by every call (`Transaction.InOrder.after`);
* `Transaction.Lifecycle`, `Transaction.ofCart_lifecycle` : so it is after any calls whatsoever on a
  priced cart, and they move its status along the diagram only.
-/

namespace Till

namespace Transaction

/-! ### Calls -/

/-- A call on a transaction, with its arguments. -/
inductive Call where
  /-- The sale was committed. -/
  | complete
  /-- The sale is reversed. -/
  | void (reason approver : String) (now : Instant) (window : Int)
  /-- An amount is paid back. -/
  | refund (amount : Int)
  deriving DecidableEq, Repr

/-- What a call makes of a transaction, if it succeeds. -/
def perform (t : Transaction) : Call → Result Transaction
  | .complete => t.complete
  | .void reason approver now window => t.void reason approver now window
  | .refund amount => Prod.fst <$> t.refund amount

/-- A transaction after a call; a call that fails leaves it as it is. -/
def afterCall (t : Transaction) (call : Call) : Transaction :=
  match t.perform call with
  | .ok after => after
  | .error _ => t

/-- A transaction after calls, one after another. -/
def afterCalls (t : Transaction) (calls : List Call) : Transaction := calls.foldl afterCall t

/-- The amount that a call pays back. -/
def Call.amount : Call → Int
  | .refund amount => amount
  | _ => 0

/-- The amounts of the refunds among some calls, as far as they are accepted, all together. -/
def acceptedOf (t : Transaction) : List Call → Int
  | [] => 0
  | call :: calls =>
    (if (t.perform call).isOk then call.amount else 0) + (t.afterCall call).acceptedOf calls

/-- **The calls that a transaction accepts**, and what becomes of it. -/
inductive Accepts (t : Transaction) : Call → Transaction → Prop
  /-- A pending transaction is completed. -/
  | complete (pending : t.status = .pending) : Accepts t .complete { t with status := .completed }
  /-- A completed transaction of which nothing was paid back is voided, for a reason, before the
  window is over. -/
  | void {reason approver : String} {now : Instant} {window : Int}
      (stated : Text.isBlankText reason = false) (short : reason.utf8ByteSize ≤ 500)
      (completed : t.status = .completed) (kept : t.refunded = 0)
      (inTime : now.since t.createdAt ≤ window) :
      Accepts t (.void reason approver now window) { t with
        status := .voided
        voidedAt := some now
        voidReason := some reason
        voidedBy := some approver }
  /-- Of a completed transaction a positive amount is paid back, if there is as much. -/
  | refund {amount : Int} (positive : 0 < amount) (completed : t.status = .completed)
      (enough : t.refunded + amount ≤ t.grand) :
      Accepts t (.refund amount) (t.afterRefund (t.refunded + amount))

variable {first t after : Transaction} {call : Call} {calls : List Call}

/-- **A call succeeds** exactly when the transaction accepts it. -/
theorem perform_eq_ok (h : t.Priced) (hrefunded : 0 ≤ t.refunded) :
    t.perform call = .ok after ↔ t.Accepts call after := by
  cases call with
  | complete =>
    rw [perform, complete_eq_ok]
    constructor
    · rintro ⟨hpending, rfl⟩
      exact .complete hpending
    · rintro ⟨hpending⟩
      exact ⟨hpending, rfl⟩
  | void reason approver now window =>
    simp only [perform, void, Outcome.bind_eq_ok, Field.Check.run_eq_ok, Field.reason_eq_ok,
      checkVoidable_eq_ok, Outcome.pure_eq_ok]
    constructor
    · rintro ⟨_, ⟨hstated, hshort⟩, _, ⟨hcompleted, hkept, hinTime⟩, rfl⟩
      exact .void hstated hshort hcompleted hkept hinTime
    · intro haccepts
      cases haccepts with
      | void hstated hshort hcompleted hkept hinTime =>
        exact ⟨(), ⟨hstated, hshort⟩, (), ⟨hcompleted, hkept, hinTime⟩, rfl⟩
  | refund amount =>
    simp only [perform, Outcome.map_eq_ok]
    constructor
    · rintro ⟨⟨_, units⟩, hrefund, rfl⟩
      have hrefund := refund_eq_ok hrefund
      have henough := hrefund.enough
      obtain rfl := hrefund.eq_afterRefund
      exact .refund hrefund.positive hrefund.completed (by omega)
    · intro haccepts
      cases haccepts with
      | refund hpositive hcompleted henough =>
        obtain ⟨units, hunits⟩ := refund_of_le h hcompleted hrefunded hpositive henough
        exact ⟨_, hunits, rfl⟩

/-! ### The fields of a transaction -/

/-- **The fields agree**: what a transaction that was priced as `first` has become when so much of
it was paid back. -/
structure InOrder (first t : Transaction) (paid : Int) : Prop where
  /-- Lines, totals, pricing, identifiers and the time of the sale are those of the beginning. -/
  kept : t = { first with
    status := t.status
    refunded := t.refunded
    voidedAt := t.voidedAt
    voidReason := t.voidReason
    voidedBy := t.voidedBy }
  /-- The refunded amount is what was paid back. -/
  paid : t.refunded = paid
  /-- It lies between nothing and the grand total. -/
  bounds : 0 ≤ t.refunded ∧ t.refunded ≤ t.grand
  /-- A voided transaction has a time, -/
  voidedAt : t.voidedAt.isSome = true ↔ t.status = .voided
  /-- a reason, -/
  voidReason : t.voidReason.isSome = true ↔ t.status = .voided
  /-- and somebody who voided it; others have none of these. -/
  voidedBy : t.voidedBy.isSome = true ↔ t.status = .voided
  /-- Of a voided transaction nothing was paid back. -/
  voided : t.status = .voided → t.refunded = 0
  /-- Refunded are those of which all was paid back, and something. -/
  refunded : t.status = .refunded ↔ t.refunded = t.grand ∧ 0 < t.grand

theorem InOrder.priced {paid : Int} (h : InOrder first t paid) (hfirst : first.Priced) :
    t.Priced := by
  rw [h.kept]
  exact ⟨hfirst.count, hfirst.lines, hfirst.subtotal, hfirst.fits, hfirst.rate⟩

/-- A priced cart is in order. -/
theorem inOrder_pending {cart : Cart} {c : SaleContext} (h : ofCart cart c = .ok t) :
    t.Priced ∧ InOrder t t 0 := by
  obtain ⟨pricing, totals, hsold, rfl⟩ := ofCart_eq_ok h
  have hpriced := hsold.priced
  have hgrand : 0 ≤ totals.grand := Pricing.computeTotals_nonneg hsold.totals
  refine ⟨⟨hpriced.count, hpriced.lines, hpriced.subtotal, hpriced.fits, hpriced.rate⟩, ?_⟩
  exact {
    kept := rfl
    paid := rfl
    bounds := ⟨Int.le_refl 0, hgrand⟩
    voidedAt := by simp [sold]
    voidReason := by simp [sold]
    voidedBy := by simp [sold]
    voided := fun _ => rfl
    refunded := by
      simp only [sold]
      refine iff_of_false (by decide) fun hall => ?_
      omega }

/-- **A call that is accepted** leaves a transaction in order and moves its status along the
diagram, from a status that is not final. -/
theorem InOrder.accepts {paid : Int} (h : InOrder first t paid) (haccepts : t.Accepts call after) :
    InOrder first after (paid + call.amount) ∧ t.status.isFinal = false ∧
      (after.status = t.status ∨ t.status.canBecome after.status = true) := by
  have hbounds := h.bounds
  have hpaid := h.paid
  have hnotRefunded : t.status ≠ .refunded → ¬(t.refunded = t.grand ∧ 0 < t.grand) :=
    mt h.refunded.2
  cases haccepts with
  | complete hpending =>
    simp only [hpending, ne_eq, reduceCtorEq, not_false_eq_true, true_implies] at hnotRefunded
    refine ⟨?_, by rw [hpending]; rfl, .inr (by rw [hpending]; rfl)⟩
    exact {
      kept := by rw [h.kept]
      paid := by rw [hpaid]; exact (Int.add_zero paid).symm
      bounds := hbounds
      voidedAt := by simpa [hpending] using h.voidedAt
      voidReason := by simpa [hpending] using h.voidReason
      voidedBy := by simpa [hpending] using h.voidedBy
      voided := by simp
      refunded := iff_of_false (by simp) hnotRefunded }
  | void hstated hshort hcompleted hkept hinTime =>
    refine ⟨?_, by rw [hcompleted]; rfl, .inr (by rw [hcompleted]; rfl)⟩
    exact {
      kept := by rw [h.kept]
      paid := by rw [hpaid]; exact (Int.add_zero paid).symm
      bounds := hbounds
      voidedAt := by simp
      voidReason := by simp
      voidedBy := by simp
      voided := fun _ => hkept
      refunded := by
        simp only [reduceCtorEq, false_iff, hkept]
        omega }
  | @refund amount hpositive hcompleted henough =>
    have hstatus : (t.afterRefund (t.refunded + amount)).status =
        if t.refunded + amount = t.grand then .refunded else .completed := by
      rw [afterRefund, hcompleted]
    have hvoided : t.status = .voided ↔
        (t.afterRefund (t.refunded + amount)).status = .voided := by
      rw [hstatus, hcompleted]
      split <;> simp
    refine ⟨?_, by rw [hcompleted]; rfl, ?_⟩
    · exact {
        kept := by rw [h.kept]; rfl
        paid := by rw [← hpaid]; rfl
        bounds := ⟨by simp only [afterRefund]; omega, henough⟩
        voidedAt := h.voidedAt.trans hvoided
        voidReason := h.voidReason.trans hvoided
        voidedBy := h.voidedBy.trans hvoided
        voided := by
          rw [← hvoided, hcompleted]
          simp
        refunded := by
          rw [hstatus]
          simp only [afterRefund]
          split <;> simp <;> omega }
    · rw [hstatus, hcompleted]
      split
      · exact .inr rfl
      · exact .inl rfl

/-! ### Any calls -/

theorem afterCall_of_ok (h : t.perform call = .ok after) : t.afterCall call = after := by
  rw [afterCall, h]

theorem afterCall_of_error {e : Fault Rejection} (h : t.perform call = .error e) :
    t.afterCall call = t := by
  rw [afterCall, h]

/-- A call, accepted or not, leaves a transaction in order. -/
theorem InOrder.afterCall {paid : Int} (hfirst : first.Priced) (h : InOrder first t paid)
    (call : Call) :
    InOrder first (t.afterCall call)
        (paid + if (t.perform call).isOk then call.amount else 0) ∧
      ((t.afterCall call).status = t.status ∨
        t.status.canBecome (t.afterCall call).status = true) := by
  cases hcall : t.perform call with
  | ok after =>
    have hrefunded : 0 ≤ t.refunded := h.bounds.1
    obtain ⟨horder, -, hstatus⟩ :=
      h.accepts ((perform_eq_ok (h.priced hfirst) hrefunded).1 hcall)
    rw [afterCall_of_ok hcall]
    exact ⟨horder, hstatus⟩
  | error e =>
    rw [afterCall_of_error hcall]
    exact ⟨(Int.add_zero paid).symm ▸ h, .inl rfl⟩

/-- So do any calls, one after another. -/
theorem InOrder.afterCalls {paid : Int} (hfirst : first.Priced) (h : InOrder first t paid)
    (calls : List Call) : InOrder first (t.afterCalls calls) (paid + t.acceptedOf calls) := by
  induction calls generalizing t paid with
  | nil => exact (Int.add_zero paid).symm ▸ h
  | cons call calls ih =>
    have hrest := ih (h.afterCall hfirst call).1
    rw [Int.add_assoc] at hrest
    exact hrest

/-- A transaction whose status is final accepts no call, and stays as it is. -/
theorem InOrder.perform_final {paid : Int} (hfirst : first.Priced) (h : InOrder first t paid)
    (hfinal : t.status.isFinal = true) (call : Call) : ∃ e, t.perform call = .error e := by
  cases hcall : t.perform call with
  | error e => exact ⟨e, rfl⟩
  | ok after =>
    have haccepts := (perform_eq_ok (h.priced hfirst) h.bounds.1).1 hcall
    rw [(h.accepts haccepts).2.1] at hfinal
    cases hfinal

theorem InOrder.afterCalls_final {paid : Int} (hfirst : first.Priced) (h : InOrder first t paid)
    (hfinal : t.status.isFinal = true) (calls : List Call) : t.afterCalls calls = t := by
  induction calls with
  | nil => rfl
  | cons call calls ih =>
    obtain ⟨e, he⟩ := h.perform_final hfirst hfinal call
    rw [Transaction.afterCalls, List.foldl_cons, afterCall_of_error he]
    exact ih

theorem answers_refund (h : t.Priced) (hbounds : 0 ≤ t.refunded ∧ t.refunded ≤ t.grand)
    (amount : Int) : Outcome.Answers (t.refund amount) := by
  have hgreatest := h.fits.grand.2
  have hleft : Cents.Fits (t.grand - t.refunded) := by
    simp only [Cents.Fits, Cents.least, Cents.greatest] at hgreatest ⊢
    omega
  simp only [refund, Outcome.answers_bind, Field.Check.answers_run, Field.Check.run_eq_ok,
    Field.positive_eq_ok, checkRefundable_eq_ok, refundable, Outcome.answers_exact,
    Cents.exact_eq_ok, true_and]
  rintro - hpositive
  refine ⟨by unfold checkRefundable; split <;> simp, ?_⟩
  rintro - -
  refine ⟨hleft, ?_⟩
  rintro _ ⟨-, rfl⟩
  split
  · simp
  · have hafter : Cents.Fits (t.refunded + amount) := by
      simp only [Cents.Fits, Cents.least, Cents.greatest] at hgreatest ⊢
      omega
    simp only [Outcome.answers_bind, Outcome.answers_exact, hafter, Cents.exact_eq_ok, true_and]
    rintro _ rfl
    rw [restock_eq h (by omega)]
    simp

/-- No call on a transaction in order overflows. -/
theorem answers_perform (h : t.Priced) (hbounds : 0 ≤ t.refunded ∧ t.refunded ≤ t.grand)
    (call : Call) : Outcome.Answers (t.perform call) := by
  cases call with
  | complete =>
    rw [perform, complete]
    split <;> simp
  | void reason approver now window =>
    have hvoidable : Outcome.Answers (t.checkVoidable now window) := by
      unfold checkVoidable
      split
      · simp
      · split <;> simp
    simp [perform, void, Outcome.answers_bind, hvoidable]
  | refund amount =>
    rw [perform, Outcome.answers_map]
    exact answers_refund h hbounds amount

/-- **The life of a transaction**: what holds after given calls, one after another, and of the call
that comes next. -/
structure Lifecycle (t : Transaction) (calls : List Call) : Prop where
  /-- The fields agree, and the refunded amount is the sum of the refunds that were accepted. -/
  inOrder : InOrder t (t.afterCalls calls) (t.acceptedOf calls)
  /-- The next call moves the status along the diagram, if at all. -/
  moves : ∀ call, ((t.afterCalls calls).afterCall call).status = (t.afterCalls calls).status ∨
    (t.afterCalls calls).status.canBecome ((t.afterCalls calls).afterCall call).status = true
  /-- Once it was voided or refunded, no later call succeeds. -/
  ends : (t.afterCalls calls).status.isFinal = true → ∀ later call,
    ∃ e, (t.afterCalls (calls ++ later)).perform call = .error e
  /-- When it can be voided. -/
  voids : ∀ reason approver now window,
    (∃ voided, (t.afterCalls calls).void reason approver now window = .ok voided) ↔
      Text.isBlankText reason = false ∧ reason.utf8ByteSize ≤ 500 ∧
        (t.afterCalls calls).status = .completed ∧ (t.afterCalls calls).refunded = 0 ∧
        now.since (t.afterCalls calls).createdAt ≤ window
  /-- A call that fails leaves it as it is. -/
  fails : ∀ call e, (t.afterCalls calls).perform call = .error e →
    (t.afterCalls calls).afterCall call = t.afterCalls calls
  /-- The next call does not overflow. -/
  answers : ∀ call, Outcome.Answers ((t.afterCalls calls).perform call)

/-- **A priced cart lives by the diagram**, whatever calls are made on it. -/
theorem ofCart_lifecycle {cart : Cart} {c : SaleContext} (h : ofCart cart c = .ok t)
    (calls : List Call) : t.Lifecycle calls := by
  obtain ⟨hfirst, hpending⟩ := inOrder_pending h
  have horder : InOrder t (t.afterCalls calls) (t.acceptedOf calls) := by
    have hafter := hpending.afterCalls hfirst calls
    rwa [Int.zero_add] at hafter
  have hpriced := horder.priced hfirst
  exact {
    inOrder := horder
    moves := fun call => (horder.afterCall hfirst call).2
    ends := by
      intro hfinal later call
      rw [afterCalls, List.foldl_append]
      have hstays := horder.afterCalls_final hfirst hfinal later
      rw [show List.foldl _ (List.foldl _ t calls) later = t.afterCalls calls from hstays]
      exact horder.perform_final hfirst hfinal call
    voids := by
      intro reason approver now window
      have hperform : ∀ voided,
          (t.afterCalls calls).perform (.void reason approver now window) = .ok voided ↔
            (t.afterCalls calls).Accepts (.void reason approver now window) voided := fun voided =>
        perform_eq_ok hpriced horder.bounds.1
      simp only [perform] at hperform
      simp only [hperform]
      constructor
      · rintro ⟨_, haccepts⟩
        cases haccepts with
        | void hstated hshort hcompleted hkept hinTime =>
          exact ⟨hstated, hshort, hcompleted, hkept, hinTime⟩
      · rintro ⟨hstated, hshort, hcompleted, hkept, hinTime⟩
        exact ⟨_, .void hstated hshort hcompleted hkept hinTime⟩
    fails := fun call e he => afterCall_of_error he
    answers := answers_perform hpriced horder.bounds }

/-- Tea for 2.84, paid back in two parts after a void was refused and a refund was too much. -/
theorem ofCart_lifecycle_twoParts :
    let cart : Cart := ⟨[⟨"tea", 3, 100, 16⟩], .none, .cash, none⟩
    let c : SaleContext :=
      ⟨"sale", ⟨"cashier", .cashier, "store", none⟩, "shift", "key", ⟨0⟩, ⟨0⟩⟩
    let t : Transaction := { sold cart c {} ⟨300, 16, 0, 284⟩ with status := .pending }
    let calls : List Call := [.complete, .refund 100, .void "wrong" "cashier" ⟨1⟩ 900, .refund 185,
      .refund 184]
    ofCart cart c = .ok t ∧ t.Lifecycle calls ∧ t.acceptedOf calls = 284 := by
  intro cart c t calls
  have hcheck : cart.check = .ok () := by decide +kernel
  have htotals : Pricing.computeTotals cart.lines cart.discount c.rate cart.manual =
      .ok ⟨300, 16, 0, 284⟩ := by decide +kernel
  have hcart : ofCart cart c = .ok t := by
    simp only [ofCart, hcheck, htotals, Field.Check.run, Outcome.ofCheck]
    rfl
  exact ⟨hcart, ofCart_lifecycle hcart calls, by decide +kernel⟩

end Transaction

end Till
