import Till.Rejection

/-!
# Rejections as JSON

A refused request is answered with an object: the name of the rejection, its kind, whether it is
worth another try, and its message.  A rejection of a field also names what is wrong with it, and
the message of an internal one is kept back.

* `Rejection.toJson` : the answer;
* `Rejection.ofMembers?` : reads a rejection from its name and its parts.
-/

namespace Till

namespace Invalid

/-- The name of what is wrong. -/
def name : Invalid → String
  | required _ => "Required"
  | tooLong _ _ => "TooLong"
  | outOfRange _ _ _ => "OutOfRange"
  | notPositive _ => "MustBePositive"
  | malformed _ _ => "InvalidFormat"
  | duplicate _ _ => "Duplicate"

/-- Reads what is wrong with a field. -/
def ofMembers? (m : Json.Members) : Option Invalid := do
  let name ← (Json.member "variant" m).text?
  let field := (Json.member "field" m).text?
  match name with
  | "Required" => field.map required
  | "TooLong" => do
    some (tooLong (← field) (← (Json.member "max" m).nat? Json.greatest64))
  | "OutOfRange" => do
    some (outOfRange (← field) (← (Json.member "min" m).int?) (← (Json.member "max" m).int?))
  | "MustBePositive" => field.map notPositive
  | "InvalidFormat" => do some (malformed (← field) (← (Json.member "reason" m).text?))
  | "Duplicate" => do some (duplicate (← field) (← (Json.member "value" m).text?))
  | _ => none

end Invalid

namespace Rejection

/-- The name of the rejection. -/
def name : Rejection → String
  | invalid _ => "Validation"
  | unpriceable _ => "InvalidPricing"
  | shiftAlreadyOpen _ _ => "ShiftAlreadyOpen"
  | shiftClosed _ => "ShiftClosed"
  | shiftNotOpen _ _ => "ShiftNotOpen"
  | outOfStock _ _ _ => "OutOfStock"
  | priceMismatch _ _ _ => "PriceMismatch"
  | alreadyVoided _ => "AlreadyVoided"
  | voidWindowExpired _ _ => "VoidWindowExpired"
  | refundExceedsTotal _ _ _ => "RefundExceedsTotal"
  | wrongStatus _ _ _ => "InvalidTransactionStatus"
  | overReceipt _ _ _ _ => "OverReceipt"
  | orderClosed _ => "PurchaseOrderClosed"
  | notFound _ _ => "NotFound"
  | forbidden _ _ => "Forbidden"
  | inFlight _ => "RequestInFlight"
  | modifiedConcurrently _ _ => "ConcurrentModification"
  | replayed _ _ => "Replayed"
  | unavailable _ => "Unavailable"
  | internal _ => "Internal"

/-- The members that only some rejections have. -/
def details (r : Rejection) : Json.Members :=
  match r with
  | internal _ => []
  | invalid problem => [("message", .str r.message), ("detail", .str problem.name)]
  | _ => [("message", .str r.message)]

/-- The answer to a refused request. -/
def toJson (r : Rejection) : Json :=
  .obj ([("error", .str r.name), ("kind", r.kind.toJson), ("retryable", .bool r.isRetryable)] ++
    r.details)

/-- Reads a rejection that is not about a field. -/
def otherOfMembers? (m : Json.Members) : Option Rejection := do
  let text (name : String) : Option String := (Json.member name m).text?
  let int (name : String) : Option Int := (Json.member name m).int?
  match ← text "variant" with
  | "InvalidPricing" => some (unpriceable (← text "reason"))
  | "ShiftAlreadyOpen" => some (shiftAlreadyOpen (← text "cashier_id") (← text "store_id"))
  | "ShiftClosed" => some (shiftClosed (← text "id"))
  | "ShiftNotOpen" => some (shiftNotOpen (← text "cashier_id") (← text "store_id"))
  | "OutOfStock" => some (outOfStock (← text "id") (← int "available") (← int "requested"))
  | "PriceMismatch" =>
    some (priceMismatch (← text "id") (← int "catalog_cents") (← int "submitted_cents"))
  | "AlreadyVoided" => some (alreadyVoided (← text "id"))
  | "VoidWindowExpired" => some (voidWindowExpired (← text "id") (← int "window_secs"))
  | "RefundExceedsTotal" =>
    some (refundExceedsTotal (← text "id") (← int "requested") (← int "refundable"))
  | "InvalidTransactionStatus" =>
    some (wrongStatus (← text "id") (← TransactionStatus.ofJson? (Json.member "status" m))
      (← text "operation"))
  | "OverReceipt" =>
    some (overReceipt (← text "id") (← text "product_id") (← int "outstanding")
      (← int "requested"))
  | "PurchaseOrderClosed" => some (orderClosed (← text "id"))
  | "NotFound" => some (notFound (← text "entity") (← text "id"))
  | "Forbidden" => some (forbidden (← text "action") (← text "role"))
  | "RequestInFlight" => some (inFlight (← text "key"))
  | "ConcurrentModification" => some (modifiedConcurrently (← text "entity") (← text "id"))
  | "Replayed" =>
    some (replayed (← RejectionKind.ofJson? (Json.member "kind" m)) (← text "message"))
  | "Unavailable" => some (unavailable (← text "message"))
  | "Internal" => some (internal (← text "message"))
  | _ => none

/-- Reads a rejection. -/
def ofMembers? (m : Json.Members) : Option Rejection :=
  match Invalid.ofMembers? m with
  | some problem => some (invalid problem)
  | none => otherOfMembers? m

end Rejection

end Till
