import Till.Engine.Checkout
import Till.Engine.Inventory

/-!
# Requests

`Request` lists what can be asked of a till and `Reply` what it answers.  `Engine.handle` deals
with a request of an actor; `Engine.purge` forgets expired outcomes.
-/

namespace Till

/-- What an actor can ask of a till. -/
inductive Request where
  /-- Opens a shift. -/
  | openShift (openingCash : Int)
  /-- Closes a shift. -/
  | closeShift (shift : String) (closingCash : Int)
  /-- Records an entry made by hand. -/
  | recordEntry (shift : String) (entry : DrawerEntry)
  /-- Looks at the open shift of the actor. -/
  | currentShift
  /-- Looks at the report on a shift. -/
  | shiftReport (shift : String)
  /-- Sells a cart. -/
  | checkout (cart : Cart) (key : String)
  /-- Voids a transaction. -/
  | void (transaction reason : String)
  /-- Refunds a part of a transaction. -/
  | refund (transaction : String) (amount : Int) (reason : String)
  /-- Looks at a transaction. -/
  | transaction (id : String)
  /-- Lists the refunds of a transaction. -/
  | refunds (transaction : String)
  /-- Lists the transactions made from one instant on and before another. -/
  | transactions (start stop : Instant)
  /-- Asks for suggestions. -/
  | recommend (cart : Cart)
  /-- Registers a product. -/
  | registerProduct (product : NewProduct)
  /-- Looks at a product. -/
  | product (id : String)
  /-- Registers a supplier. -/
  | registerSupplier (supplier : NewSupplier)
  /-- Makes an order. -/
  | createOrder (order : NewOrder)
  /-- Receives units of an order. -/
  | receiveOrder (order : String) (lines : List ReceiptLine)
  /-- Looks at an order. -/
  | order (id : String)
  /-- Looks at the stock of a product. -/
  | stockLevel (product : String)
  /-- Lists the movements of a product. -/
  | stockMovements (product : String)

/-- What a till answers. -/
inductive Reply where
  /-- A shift. -/
  | shift (s : Shift)
  /-- The figures of a closed shift. -/
  | closure (c : ShiftClosure)
  /-- A drawer event. -/
  | event (e : DrawerEvent)
  /-- A report on a shift. -/
  | report (r : ShiftReport)
  /-- A sale with suggestions. -/
  | receipt (r : Receipt)
  /-- A transaction. -/
  | transaction (t : Transaction)
  /-- A refund. -/
  | refund (r : Refund)
  /-- Refunds. -/
  | refunds (rs : List Refund)
  /-- Transactions. -/
  | transactions (ts : List Transaction)
  /-- Suggestions. -/
  | recommendations (r : Recommendations)
  /-- A product. -/
  | product (p : Product)
  /-- A supplier. -/
  | supplier (s : Supplier)
  /-- An order. -/
  | order (o : PurchaseOrder)
  /-- The stock of a product. -/
  | stockLevel (n : Int)
  /-- Stock movements. -/
  | stockMovements (ms : List StockMovement)
  deriving DecidableEq, Repr

/-- A sale with suggestions as JSON. -/
def Receipt.toJson (r : Receipt) : Json :=
  .obj [("recommendations", r.recommendations.toJson), ("transaction", r.transaction.toJson)]

/-- The answer as JSON. -/
def Reply.toJson : Reply → Json
  | shift s => s.toJson
  | closure c => c.toJson
  | event e => e.toJson
  | report r => r.toJson
  | receipt r => r.toJson
  | transaction t => t.toJson
  | refund r => r.toJson
  | refunds rs => .arr (rs.map Refund.toJson)
  | transactions ts => .arr (ts.map Transaction.toJson)
  | recommendations r => r.toJson
  | product p => p.toJson
  | supplier s => s.toJson
  | order o => o.toJson
  | stockLevel n => .int n
  | stockMovements ms => .arr (ms.map StockMovement.toJson)

namespace Action

variable {σ α β : Type}

/-- A step whose answer is put into other words. -/
def mapAnswer (f : α → β) (step : Action σ α) : Action σ β := fun s =>
  match step s with
  | (.ok a, after) => (.ok (f a), after)
  | (.error e, after) => (.error e, after)

end Action

namespace Engine

variable {κ α : Type}

/-- A look at the store as a step on the world. -/
def look (reply : α → Reply) (f : Store → Result α) : Action (World κ) Reply :=
  (World.onStore (Action.query f)).mapAnswer reply

/-- A step on the store as a step on the world. -/
def change (reply : α → Reply) (step : Action Store α) : Action (World κ) Reply :=
  (World.onStore step).mapAnswer reply

/-- Deals with a request of an actor. -/
def handle (e : Engine) (c : CacheAccess κ) (ids : Ids) (actor : Actor) (r : Request) :
    Action (World κ) Reply := fun w =>
  match r with
  | .openShift cash => change .shift (openShift ids w.now actor cash) w
  | .closeShift id cash => change .closure (e.closeShift ids w.now actor id cash) w
  | .recordEntry id entry => change .event (recordEntry ids w.now actor id entry) w
  | .currentShift => look .shift (currentShift actor) w
  | .shiftReport id => look .report (shiftReport actor id) w
  | .checkout cart key => (e.checkout c ids actor cart key).mapAnswer .receipt w
  | .void id reason => change .transaction (e.void ids w.now actor id reason) w
  | .refund id amount reason => change .refund (e.refund ids w.now actor id amount reason) w
  | .transaction id => look .transaction (transaction actor id) w
  | .refunds id => look .refunds (refunds actor id) w
  | .transactions start stop =>
    look .transactions (fun s => .ok (s.transactionsWithin actor.store start stop)) w
  | .recommend cart => (e.recommend c actor cart).mapAnswer .recommendations w
  | .registerProduct p => change .product (registerProduct ids w.now actor p) w
  | .product id => look .product (product actor id) w
  | .registerSupplier p => change .supplier (registerSupplier ids w.now actor p) w
  | .createOrder o => change .order (createOrder ids w.now actor o) w
  | .receiveOrder id lines => change .order (receiveOrder ids w.now actor id lines) w
  | .order id => look .order (order actor id) w
  | .stockLevel id => look .stockLevel (fun s => (s.stockLevel actor.store id).result) w
  | .stockMovements id =>
    look .stockMovements (fun s => .ok (s.movementsOf actor.store id)) w

/-- Forgets expired outcomes; gives their number. -/
def purge : Action (World κ) Nat := fun w =>
  let (store, n) := w.store.purge w.now
  (.ok n, { w with store })

end Engine

end Till
