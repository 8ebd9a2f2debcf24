import Till.Json.Basic

/-!
# Payment methods

A sale is paid in cash, which passes through the drawer, or by card on another device, which does
not.
-/

namespace Till

/-- How a sale is paid. -/
inductive PaymentMethod where
  /-- Cash through the drawer. -/
  | cash
  /-- A card on another device. -/
  | externalCard
  deriving DecidableEq, Repr

namespace PaymentMethod

/-- Whether the money passes through the drawer. -/
def movesCash : PaymentMethod → Bool
  | cash => true
  | externalCard => false

/-- The name of the method. -/
def text : PaymentMethod → String
  | cash => "cash"
  | externalCard => "external_card"

/-- The method of a name. -/
def ofText? : String → Option PaymentMethod
  | "cash" => some cash
  | "external_card" => some externalCard
  | _ => none

/-- The method as JSON. -/
def toJson (m : PaymentMethod) : Json := .str m.text

/-- Reads a method. -/
def ofJson? (j : Json) : Option PaymentMethod := j.name? >>= ofText?

end PaymentMethod

end Till
