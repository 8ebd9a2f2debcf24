import Till.Invalid
import Till.Fault
import Till.Field
import Till.Transaction.Status

/-!
# Rejections

A `Rejection` is the reason why a request was refused.  Callers see

* `Rejection.message` : the wording;
* `Rejection.kind` : what the caller can do about it;
* `Rejection.isRetryable` : whether the same request may succeed when it is sent again.
-/

namespace Till

/-- What a caller can do about a rejection. -/
inductive RejectionKind where
  /-- The request is wrong in itself. -/
  | validation
  /-- The request does not fit the present state. -/
  | stateConflict
  /-- The service cannot answer now. -/
  | unavailable
  /-- Something named in the request does not exist. -/
  | notFound
  /-- The actor may not do this. -/
  | forbidden
  deriving DecidableEq, Repr

namespace RejectionKind

/-- The name of the kind. -/
def text : RejectionKind → String
  | validation => "validation"
  | stateConflict => "state_conflict"
  | unavailable => "unavailable"
  | notFound => "not_found"
  | forbidden => "forbidden"

/-- The kind of a name. -/
def ofText? : String → Option RejectionKind
  | "validation" => some validation
  | "state_conflict" => some stateConflict
  | "unavailable" => some unavailable
  | "not_found" => some notFound
  | "forbidden" => some forbidden
  | _ => none

/-- The kind as JSON. -/
def toJson (k : RejectionKind) : Json := .str k.text

/-- Reads a kind. -/
def ofJson? (j : Json) : Option RejectionKind := j.name? >>= ofText?

end RejectionKind

/-- Why a request was refused. -/
inductive Rejection where
  /-- A field is invalid. -/
  | invalid (problem : Invalid)
  /-- The cart cannot be priced. -/
  | unpriceable (reason : String)
  /-- The cashier has an open shift at the store. -/
  | shiftAlreadyOpen (cashier store : String)
  /-- The shift is closed. -/
  | shiftClosed (shift : String)
  /-- The cashier has no open shift at the store. -/
  | shiftNotOpen (cashier store : String)
  /-- There is less in stock than requested. -/
  | outOfStock (product : String) (available requested : Int)
  /-- The price is not that of the catalog. -/
  | priceMismatch (product : String) (catalog submitted : Int)
  /-- The transaction was voided before. -/
  | alreadyVoided (transaction : String)
  /-- The time for voiding is over. -/
  | voidWindowExpired (transaction : String) (windowSeconds : Int)
  /-- More than can be refunded. -/
  | refundExceedsTotal (transaction : String) (requested refundable : Int)
  /-- The status does not allow the operation. -/
  | wrongStatus (transaction : String) (status : TransactionStatus) (operation : String)
  /-- More than is outstanding. -/
  | overReceipt (order product : String) (outstanding requested : Int)
  /-- Everything ordered has been received. -/
  | orderClosed (order : String)
  /-- There is no such thing. -/
  | notFound (entity id : String)
  /-- The role does not allow the action. -/
  | forbidden (action role : String)
  /-- Another request with the key is being executed. -/
  | inFlight (key : String)
  /-- Somebody else changed it first. -/
  | modifiedConcurrently (entity id : String)
  /-- A refusal that was stored and is given again. -/
  | replayed (kind : RejectionKind) (message : String)
  /-- The service cannot be reached. -/
  | unavailable (reason : String)
  /-- Stored data is not as it should be. -/
  | internal (reason : String)
  deriving DecidableEq, Repr

namespace Rejection

/-- The message that tells the caller why. -/
def message : Rejection → String
  | invalid problem => "Validation error: " ++ problem.message
  | unpriceable reason => "Invalid pricing: " ++ reason
  | shiftAlreadyOpen cashier store =>
    "Cashier " ++ cashier ++ " already has an open shift at store " ++ store
  | shiftClosed shift => "Shift " ++ shift ++ " is closed"
  | shiftNotOpen cashier store =>
    "No open shift for cashier " ++ cashier ++ " at store " ++ store
  | outOfStock product available requested =>
    "Out of stock for " ++ product ++ ": available " ++ toString available ++ ", requested " ++
      toString requested
  | priceMismatch product catalog submitted =>
    "Price of " ++ product ++ " is " ++ toString catalog ++ ", cart submitted " ++
      toString submitted
  | alreadyVoided transaction => "Transaction " ++ transaction ++ " is already voided"
  | voidWindowExpired transaction windowSeconds =>
    "Void window of " ++ toString windowSeconds ++ "s expired for transaction " ++ transaction
  | refundExceedsTotal transaction requested refundable =>
    "Refund of " ++ toString requested ++ " exceeds refundable amount " ++ toString refundable ++
      " for transaction " ++ transaction
  | wrongStatus transaction status operation =>
    "Transaction " ++ transaction ++ " is " ++ status.text ++ ", cannot " ++ operation
  | overReceipt order product outstanding requested =>
    "Purchase order " ++ order ++ " line " ++ product ++ ": outstanding " ++
      toString outstanding ++ ", received " ++ toString requested
  | orderClosed order => "Purchase order " ++ order ++ " is already fully received"
  | notFound entity id => entity ++ " not found: " ++ id
  | forbidden action role => "Role " ++ role ++ " may not " ++ action
  | inFlight key => "Request with idempotency key '" ++ key ++ "' is still in flight, retry"
  | modifiedConcurrently entity id => entity ++ " " ++ id ++ " was modified concurrently"
  | replayed _ message => message
  | unavailable reason => "Service unavailable: " ++ reason
  | internal reason => "Internal error: " ++ reason

/-- What the caller can do about it. -/
def kind : Rejection → RejectionKind
  | invalid _ => .validation
  | unpriceable _ => .validation
  | notFound _ _ => .notFound
  | forbidden _ _ => .forbidden
  | inFlight _ => .unavailable
  | modifiedConcurrently _ _ => .unavailable
  | unavailable _ => .unavailable
  | internal _ => .unavailable
  | replayed kind _ => kind
  | _ => .stateConflict

/-- Whether the same request may succeed when it is sent again. -/
def isRetryable : Rejection → Bool
  | unavailable _ => true
  | modifiedConcurrently _ _ => true
  | _ => false

end Rejection

/-- An outcome of the till's operations. -/
abbrev Result (α : Type) := Outcome Rejection α

/-- A field rule as a step of an operation. -/
def Field.Check.run (c : Field.Check) : Result Unit := Outcome.ofCheck .invalid c

end Till
