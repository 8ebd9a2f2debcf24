import Till.Engine.Once
import Till.Engine.Shifts
import Till.Store.Ledger

/-!
# Selling, voiding and refunding

Each of these has a plan, which is computed from the store and changes nothing, and a unit of work
that books the plan:

* `Engine.planSale` and `Engine.sell` : a sale under a claimed key;
* `Engine.planVoid` and `Engine.void`;
* `Engine.planRefund` and `Engine.refund`, which plans again if another refund was booked meanwhile.

All of them need an open shift of the actor, whose drawer the money passes through.
-/

namespace Till

namespace Engine

/-- The transaction of an actor's store. -/
def transaction (actor : Actor) (id : String) (s : Store) : Result Transaction :=
  Outcome.ofOption (.notFound "Transaction" id) (s.transaction? actor.store id)

/-- The movement of units of a product behind which a transaction stands. -/
def movement (t : Transaction) (reason : MovementReason) (at' : Instant) (id product : String)
    (delta : Int) : StockMovement :=
  ⟨id, product, t.store, delta, reason, t.id, at'⟩

/-- A drawer entry behind which a transaction stands. -/
def entryFor (t : Transaction) (kind : DrawerKind) (amount : Int) : DrawerEntry :=
  ⟨kind, amount, some t.payment, some t.id⟩

/-! ### Sales -/

/-- The movements of a sale. -/
def saleMovements (ids : Ids) (t : Transaction) : List StockMovement :=
  t.lines.mapIdx fun i l =>
    movement t .sale t.createdAt (ids.movement i) l.product (-l.quantity)

/-- The unit of work for a completed transaction under a claim. -/
def saleUnit (ids : Ids) (claim : Claim) (t : Transaction) : SaleUnit where
  transaction := t
  movements := saleMovements ids t
  entry := entryFor t .sale t.grand
  entryId := ids.event
  record := claim.record (some t.id) (.success t.toJson)

/-- The sale of a cart under a claim. -/
def planSale (e : Engine) (ids : Ids) (now : Instant) (actor : Actor) (cart : Cart)
    (claim : Claim) (s : Store) : Result SaleUnit := do
  let shift ← currentShift actor s
  let priced ← Transaction.ofCart cart ⟨ids.subject, actor, shift.id, claim.key, e.rate, now⟩
  let t ← priced.complete
  pure (saleUnit ids claim t)

/-- Sells a cart under a claim. -/
def sell (e : Engine) (ids : Ids) (now : Instant) (actor : Actor) (cart : Cart) (claim : Claim) :
    Action Store Transaction :=
  (Action.query (e.planSale ids now actor cart claim)).andThen fun u =>
    (e.retry.run (book fun s => s.commitSale u)).andThen fun _ =>
      Action.query fun _ => .ok u.transaction

/-- Sells a cart at most once under a key. -/
def sellOnce (e : Engine) (ids : Ids) (now : Instant) (actor : Actor) (cart : Cart)
    (key : String) : Action Store Transaction :=
  once e.keyLifetime ⟨actor.store, actor.cashier, key, now⟩ Transaction.ofJson?
    (e.sell ids now actor cart)

/-! ### Voids -/

/-- The movements that reverse a sale. -/
def voidMovements (ids : Ids) (t : Transaction) (at' : Instant) : List StockMovement :=
  t.lines.mapIdx fun i l => movement t .voidReversal at' (ids.movement i) l.product l.quantity

/-- The unit of work that voids a transaction. -/
def voidUnit (ids : Ids) (now : Instant) (actor : Actor) (shift : Shift) (reason : String)
    (t : Transaction) : VoidUnit where
  store := t.store
  transaction := t.id
  voidedAt := now
  reason
  voidedBy := actor.approver
  movements := voidMovements ids t now
  shift := shift.id
  entry := entryFor t .voidReversal t.grand
  entryId := ids.event

/-- The void of a transaction, with the transaction as it will be. -/
def planVoid (e : Engine) (ids : Ids) (now : Instant) (actor : Actor) (id reason : String)
    (s : Store) : Result (Transaction × VoidUnit) := do
  actor.requireElevated "void a transaction"
  let shift ← currentShift actor s
  let t ← transaction actor id s
  let voided ← t.void reason actor.approver now e.voidWindow
  pure (voided, voidUnit ids now actor shift reason t)

/-- Voids a transaction. -/
def void (e : Engine) (ids : Ids) (now : Instant) (actor : Actor) (id reason : String) :
    Action Store Transaction := Action.transact fun s => do
  let (voided, unit) ← e.planVoid ids now actor id reason s
  let after ← (s.commitVoid unit).result
  pure (voided, after)

/-! ### Refunds -/

/-- The movements that put units back. -/
def refundMovements (ids : Ids) (t : Transaction) (at' : Instant) (units : List RestockLine) :
    List StockMovement :=
  units.mapIdx fun i l => movement t .refundReversal at' (ids.movement i) l.product l.quantity

/-- What an actor has to show to refund: elevation, a reason and an open shift. -/
def refundShift (actor : Actor) (reason : String) (s : Store) : Result Shift := do
  actor.requireElevated "refund a transaction"
  Refund.checkReason reason
  currentShift actor s

/-- The refund of a part of a transaction in a shift. -/
def planRefund (ids : Ids) (now : Instant) (actor : Actor) (shift id : String) (amount : Int)
    (reason : String) (s : Store) : Result RefundUnit := do
  let t ← transaction actor id s
  let (refunded, units) ← t.refund amount
  pure {
    refund := ⟨ids.subject, t.id, t.store, amount, reason, actor.cashier, shift, actor.approver, now⟩
    refundedBefore := t.refunded
    refundedAfter := refunded.refunded
    statusAfter := refunded.status
    movements := refundMovements ids t now units
    entry := entryFor t .refund amount
    entryId := ids.event }

/-- Refunds a part of a transaction. -/
def refund (e : Engine) (ids : Ids) (now : Instant) (actor : Actor) (id : String) (amount : Int)
    (reason : String) : Action Store Refund :=
  (Action.query (refundShift actor reason)).andThen fun shift =>
    e.retry.runWhen RetryPolicy.isLostRace (Action.transact fun s => do
      let unit ← planRefund ids now actor shift.id id amount reason s
      let after ← (s.commitRefund unit).result
      pure (unit.refund, after))

/-- The refunds of a transaction. -/
def refunds (actor : Actor) (id : String) (s : Store) : Result (List Refund) := do
  let t ← transaction actor id s
  pure (s.refundsOf t.id)

end Engine

end Till
