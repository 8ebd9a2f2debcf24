import Till.Engine.Request

/-!
# Requests as JSON

A request is an object whose member `do` names what is asked for; the other members are its
arguments.  The actor is the member `actor`.
-/

namespace Till

namespace Request

/-- Reads a text. -/
def text (name : String) (m : Json.Members) : Option String := (Json.member name m).text?

/-- Reads a whole number. -/
def int (name : String) (m : Json.Members) : Option Int := (Json.member name m).int?

/-- Reads a cart. -/
def cart (m : Json.Members) : Option Cart := Cart.ofJson? (Json.member "cart" m)

/-- Reads an instant. -/
def instant (name : String) (m : Json.Members) : Option Instant :=
  Instant.ofJson? (Json.member name m)

/-- Reads the arguments of a request about shifts. -/
def ofShiftMembers? (m : Json.Members) : String → Option Request
  | "open_shift" => (int "opening_cash" m).map .openShift
  | "close_shift" => do some (.closeShift (← text "shift_id" m) (← int "closing_cash" m))
  | "drawer_event" => do
    some (.recordEntry (← text "shift_id" m) (← DrawerEntry.ofJson? (Json.member "event" m)))
  | "current_shift" => some .currentShift
  | "shift_report" => (text "shift_id" m).map .shiftReport
  | _ => none

/-- Reads the arguments of a request about sales. -/
def ofSaleMembers? (m : Json.Members) : String → Option Request
  | "checkout" => do some (.checkout (← cart m) (← text "key" m))
  | "void" => do some (.void (← text "transaction_id" m) (← text "reason" m))
  | "refund" => do
    some (.refund (← text "transaction_id" m) (← int "amount" m) (← text "reason" m))
  | "get_transaction" => (text "transaction_id" m).map .transaction
  | "list_refunds" => (text "transaction_id" m).map .refunds
  | "list_transactions" => do some (.transactions (← instant "from" m) (← instant "to" m))
  | "recommend" => (cart m).map .recommend
  | _ => none

/-- Reads the arguments of a request about products and orders. -/
def ofInventoryMembers? (m : Json.Members) : String → Option Request
  | "register_product" => (NewProduct.ofJson? (Json.member "product" m)).map .registerProduct
  | "get_product" => (text "product_id" m).map .product
  | "register_supplier" => (NewSupplier.ofJson? (Json.member "supplier" m)).map .registerSupplier
  | "create_purchase_order" => (NewOrder.ofJson? (Json.member "order" m)).map .createOrder
  | "receive_purchase_order" => do
    some (.receiveOrder (← text "purchase_order_id" m)
      (← (Json.member "lines" m).list? ReceiptLine.ofJson?))
  | "get_purchase_order" => (text "purchase_order_id" m).map .order
  | "stock_level" => (text "product_id" m).map .stockLevel
  | "stock_movements" => (text "product_id" m).map .stockMovements
  | _ => none

/-- Reads a request and its actor. -/
def ofMembers? (m : Json.Members) : Option (Actor × Request) := do
  let name ← text "do" m
  let request ← (ofShiftMembers? m name).or
    ((ofSaleMembers? m name).or (ofInventoryMembers? m name))
  let actor ← Actor.ofJson? (Json.member "actor" m)
  some (actor, request)

end Request

namespace Reply

/-- The identifier of what was made or changed, if the answer is about one such thing. -/
def subject? : Reply → Option String
  | .shift s => some s.id
  | .receipt r => some r.transaction.id
  | .transaction t => some t.id
  | .refund r => some r.id
  | .product p => some p.id
  | .supplier p => some p.id
  | .order o => some o.id
  | _ => none

end Reply

end Till
