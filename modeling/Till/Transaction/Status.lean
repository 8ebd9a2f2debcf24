import Till.Json.Basic

/-!
# The status of a transaction

A transaction is pending, becomes completed, and from there voided or refunded, which are final.
`TransactionStatus.canBecome` is that diagram.
-/

namespace Till

/-- The status of a transaction. -/
inductive TransactionStatus where
  /-- Priced and not yet committed. -/
  | pending
  /-- Sold. -/
  | completed
  /-- Reversed as a whole. -/
  | voided
  /-- Paid back as a whole. -/
  | refunded
  deriving DecidableEq, Repr

namespace TransactionStatus

/-- The changes that are allowed. -/
def canBecome : TransactionStatus → TransactionStatus → Bool
  | pending, completed => true
  | completed, voided => true
  | completed, refunded => true
  | _, _ => false

/-- Nothing follows on a final status. -/
def isFinal : TransactionStatus → Bool
  | voided => true
  | refunded => true
  | _ => false

/-- The name of the status. -/
def text : TransactionStatus → String
  | pending => "pending"
  | completed => "completed"
  | voided => "voided"
  | refunded => "refunded"

/-- The status of a name. -/
def ofText? : String → Option TransactionStatus
  | "pending" => some pending
  | "completed" => some completed
  | "voided" => some voided
  | "refunded" => some refunded
  | _ => none

/-- The status as JSON. -/
def toJson (s : TransactionStatus) : Json := .str s.text

/-- Reads a status. -/
def ofJson? (j : Json) : Option TransactionStatus := j.name? >>= ofText?

end TransactionStatus

end Till
