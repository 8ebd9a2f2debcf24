import Till.Proofs.Lifecycle
import Till.Proofs.Stock
import Till.Proofs.Totals

/-!
# Selling, voiding and refunding are answered

A number that does not fit stops a request without an answer.  This file tells where that can happen
to a sale, a void or a refund once its key is claimed:

* `Store.answers_commitSale`, `Store.answers_commitVoid`, `Store.answers_commitRefund` : the store
  answers all units of work of few units;
* `Engine.answers_sale` : a sale is answered unless the discounts of its cart overrun;
* `Engine.answers_void` : every void is answered, whatever the store;
* `Engine.answers_refund` : so is every refund, if the tables are in order.
-/

namespace Till

open Outcome (Answers)

namespace Outcome

variable {ε δ α : Type}

@[simp] theorem answers_mapRejection {f : ε → δ} {x : Outcome ε α} :
    Answers (mapRejection f x) ↔ Answers x := by
  match x with
  | .ok a => simp
  | .error (.rejected e) => simp [answers_iff, overflow, mapRejection]
  | .error .overflow => simp [answers_iff, overflow, mapRejection]

theorem answers_mapM {f : α → Outcome ε δ} {as : List α} (h : ∀ a ∈ as, Answers (f a)) :
    Answers (as.mapM f) := by
  induction as with
  | nil => simp
  | cons a as ih =>
    obtain ⟨ha, has⟩ := List.forall_mem_cons.1 h
    simp [answers_bind, ha, ih has]

end Outcome

@[simp] theorem Stored.answers_result {α : Type} {x : Stored α} :
    Answers (Stored.result x) ↔ Answers x :=
  Outcome.answers_mapRejection

/-- A step that fails answers if its computation does. -/
@[simp] theorem Action.answers_transact {σ α : Type} {f : σ → Result (α × σ)} {s : σ} :
    Answers (Action.transact f s).1 ↔ Answers (f s) := by
  unfold Action.transact
  match f s with
  | .ok (a, after) => simp
  | .error (.rejected e) => simp [Outcome.answers_iff, Outcome.overflow]
  | .error .overflow => simp [Outcome.answers_iff, Outcome.overflow]

/-! ### The store -/

namespace Store

variable {s : Store} {ms : List StockMovement}

@[simp] theorem answers_testNumbers (good : Bool) : Answers (testNumbers good) :=
  Outcome.answers_require _ _

@[simp] theorem answers_testKey (columns : String) (taken : Bool) :
    Answers (testKey columns taken) :=
  Outcome.answers_require _ _

@[simp] theorem answers_testReference (exists' : Bool) : Answers (testReference exists') :=
  Outcome.answers_require _ _

@[simp] theorem answers_addMovements (s : Store) (ms : List StockMovement) :
    Answers (s.addMovements ms) := by
  induction ms generalizing s with
  | nil => simp [addMovements]
  | cons m ms ih => simp [addMovements, addMovement, Outcome.answers_bind, ih]

@[simp] theorem answers_testLines (s : Store) (before : List Int) (lines : List LineItem) :
    Answers (s.testLines before lines) := by
  induction lines generalizing before with
  | nil => simp [testLines]
  | cons l lines ih => simp [testLines, Outcome.answers_bind, ih]

@[simp] theorem answers_addTransaction (s : Store) (t : Transaction) :
    Answers (s.addTransaction t) := by
  simp [addTransaction, Outcome.answers_bind]

@[simp] theorem answers_addRefund (s : Store) (r : Refund) : Answers (s.addRefund r) := by
  simp [addRefund, Outcome.answers_bind]

/-- An event that has no place in a full log is refused. -/
@[simp] theorem answers_appendEntry (s : Store) (shift id : String) (entry : DrawerEntry)
    (at' : Instant) : Answers (s.appendEntry shift id entry at') := by
  unfold appendEntry
  split
  · simp
  · split <;> simp [addEvent, Outcome.answers_bind]

@[simp] theorem answers_claimKey (s : Store) (r : OutcomeRecord) (now : Instant) :
    Answers (s.claimKey r now) := by
  unfold claimKey
  split <;> simp

@[simp] theorem answers_testCatalogPrices (s : Store) (t : Transaction) :
    Answers (s.testCatalogPrices t) := by
  have hprices : Answers (s.testPrices t.store t.lines) := by
    induction t.lines with
    | nil => simp [testPrices]
    | cons l lines ih =>
      simp only [testPrices, Outcome.answers_bind, ih, implies_true, and_true]
      unfold testPrice
      split <;> simp
  unfold testCatalogPrices
  split <;> simp [hprices]

@[simp] theorem answers_testDemand (s : Store) (store : String) (demanded : List (String × Int)) :
    Answers (s.testDemand store demanded) := by
  induction demanded with
  | nil => simp [testDemand]
  | cons d demanded ih =>
    simp only [testDemand, Outcome.answers_bind, ih, implies_true, and_true]
    unfold testUnits
    split
    · simp
    · simp only [Outcome.answers_bind, Outcome.answers_require, implies_true, and_true, stockLevel,
        sumOfChanges]
      split <;> simp

/-- The units that leave in few movements can be added up. -/
theorem answers_unitsLeaving (small : IsSmall ms) (product : String) :
    Answers (unitsLeaving ms product) := by
  have hturnover : Amounts.turnover (ms.map fun m => -m.delta) =
      Amounts.turnover (ms.map (·.delta)) := by
    simp [Amounts.turnover, Function.comp_def]
  have hfew : (Amounts.turnover (ms.map fun m => -m.delta) : Int) ≤ Cents.greatest := by
    have hle := turnover_le small
    rw [hturnover]
    exact Int.le_trans (Int.ofNat_le.2 hle) (by decide)
  rw [unitsLeaving, Cents.total_of_fits fun front hfront =>
    Amounts.fits_of_sublist (hfront.sublist.trans (List.filter_sublist.map _)) hfew]
  simp

theorem answers_commitSale {u : SaleUnit} (small : IsSmall u.movements) :
    Answers (s.commitSale u) := by
  have hdemand : Answers (demand u.movements) := by
    refine Outcome.answers_mapM fun product _ => ?_
    simp [answers_unitsLeaving small]
  simp [commitSale, testAvailable, Outcome.answers_bind, hdemand]

theorem answers_commitVoid (s : Store) (u : VoidUnit) : Answers (s.commitVoid u) := by
  unfold commitVoid
  split <;> simp [Outcome.answers_bind]

theorem answers_commitRefund (s : Store) (u : RefundUnit) : Answers (s.commitRefund u) := by
  simp [commitRefund, Outcome.answers_bind]

end Store

/-! ### The engine -/

namespace Engine

variable {e : Engine} {ids : Ids} {now : Instant} {actor : Actor} {s : Store}

@[simp] theorem answers_requireElevated (actor : Actor) (action : String) :
    Answers (actor.requireElevated action) :=
  Outcome.answers_require _ _

@[simp] theorem answers_currentShift (actor : Actor) (s : Store) :
    Answers (currentShift actor s) := by
  unfold currentShift Shift.requireOpen
  split
  · split <;> simp
  · simp

/-- **A sale under a claim is answered** unless the discounts of its cart overrun. -/
theorem answers_sale {cart : Cart} {claim : Claim}
    (h : ¬Pricing.Overruns cart.lines cart.discount e.rate cart.manual) :
    Answers (e.sale ids now actor cart claim s) := by
  have hpriced : ∀ c : SaleContext, c.rate = e.rate → Answers (Transaction.ofCart cart c) := by
    rintro c hrate
    have hrecord : Answers (Transaction.pricingRecord c.actor cart.manual) := by
      unfold Transaction.pricingRecord
      split <;> simp
    simp [Transaction.ofCart, Outcome.answers_bind, hrecord, hrate,
      Pricing.answers_computeTotals.2 h]
  have hcompleted : ∀ t : Transaction, Answers t.complete := by
    intro t
    unfold Transaction.complete
    split <;> simp
  rw [sale, Outcome.answers_bind]
  refine ⟨?_, fun u hplan => ?_⟩
  · simp only [planSale, Outcome.answers_bind, answers_currentShift, true_and]
    exact fun sh _ => ⟨hpriced _ rfl, fun t _ => ⟨hcompleted t, fun _ _ => by simp⟩⟩
  · obtain ⟨sh, pricing, totals, -, hsold, rfl⟩ := planSale_eq_ok hplan
    have hsmall : Store.IsSmall (saleUnit ids claim (Transaction.sold cart
        ⟨ids.subject, actor, sh.id, claim.key, e.rate, now⟩ pricing totals)).movements := by
      refine Store.isSmall_mapIdx hsold.priced.count ?_
      intro i l hl
      have hquantity := (hsold.priced.lines l hl).quantity
      simp only [movement]
      omega
    simp [Store.answers_commitSale hsmall]

/-- **Every void is answered.** -/
theorem answers_void (e : Engine) (ids : Ids) (now : Instant) (actor : Actor) (id reason : String)
    (s : Store) : Answers (e.void ids now actor id reason s).1 := by
  have hvoid : ∀ t : Transaction, Answers (t.void reason actor.approver now e.voidWindow) := by
    intro t
    have hvoidable : Answers (t.checkVoidable now e.voidWindow) := by
      unfold Transaction.checkVoidable
      split
      · simp
      · split <;> simp
    simp [Transaction.void, Outcome.answers_bind, hvoidable]
  simp [void, planVoid, transaction, Outcome.answers_bind, hvoid, Store.answers_commitVoid]

/-- **Every refund is answered**, as the tables are in order. -/
theorem answers_refund (sound : s.Sound) (e : Engine) (ids : Ids) (now : Instant) (actor : Actor)
    (id : String) (amount : Int) (reason : String) :
    Answers (e.refund ids now actor id amount reason s).1 := by
  rw [refund_eq, Action.answers_transact]
  simp only [refundShift, planRefund, Refund.checkReason, Outcome.answers_bind,
    answers_requireElevated, Field.Check.answers_run, answers_currentShift, transaction,
    Outcome.answers_ofOption, Outcome.ofOption_eq_ok, Outcome.answers_pure, Stored.answers_result,
    Store.answers_commitRefund, implies_true, and_true, true_and]
  intro sh _ t hfound
  have ht := (Store.transaction?_eq_some hfound).1
  exact Transaction.answers_refund (sound.stocked.priced t ht)
    (sound.balanced.accounted t ht).bounds amount

end Engine

end Till
