import Till.Rejection

/-!
# Actors

An actor is who sends a request: a cashier at a store with a role, perhaps with a manager's
approval.  `Actor.isElevated` says who may void, refund, price by hand and order.
-/

namespace Till

/-- The role of an actor, in ascending order. -/
inductive Role where
  /-- Sells. -/
  | cashier
  /-- Also reverses sales. -/
  | supervisor
  /-- Runs the store. -/
  | manager
  /-- Runs the system. -/
  | admin
  deriving DecidableEq, Repr

namespace Role

/-- The rank of a role. -/
def rank : Role → Nat
  | cashier => 0
  | supervisor => 1
  | manager => 2
  | admin => 3

/-- The name of the role. -/
def text : Role → String
  | cashier => "cashier"
  | supervisor => "supervisor"
  | manager => "manager"
  | admin => "admin"

/-- The role of a name. -/
def ofText? : String → Option Role
  | "cashier" => some cashier
  | "supervisor" => some supervisor
  | "manager" => some manager
  | "admin" => some admin
  | _ => none

/-- The role as JSON. -/
def toJson (r : Role) : Json := .str r.text

/-- Reads a role. -/
def ofJson? (j : Json) : Option Role := j.name? >>= ofText?

end Role

/-- Who sends a request. -/
structure Actor where
  /-- The cashier. -/
  cashier : String
  /-- The cashier's role. -/
  role : Role
  /-- The store at which the cashier works. -/
  store : String
  /-- The manager who approved this request, if any. -/
  approvedBy : Option String := none
  deriving DecidableEq, Repr

namespace Actor

/-- Supervisors and above, and everybody with a manager's approval. -/
def isElevated (a : Actor) : Bool := decide (1 ≤ a.role.rank) || a.approvedBy.isSome

/-- Refuses the action unless the actor is elevated. -/
def requireElevated (a : Actor) (action : String) : Result Unit :=
  Outcome.require a.isElevated (.forbidden action a.role.text)

/-- Who approves what the actor does: the manager, if there is one, and the cashier otherwise. -/
def approver (a : Actor) : String := a.approvedBy.getD a.cashier

/-- The actor as JSON. -/
def toJson (a : Actor) : Json :=
  .obj [("cashier_id", .str a.cashier),
    ("manager_override", match a.approvedBy with
      | some m => .obj [("approved_by", .str m)]
      | none => .null),
    ("role", a.role.toJson),
    ("store_id", .str a.store)]

/-- Reads a manager's approval. -/
def approvalOfJson? (j : Json) : Option String := do
  let m ← j.members? ["approved_by"]
  (Json.member "approved_by" m).text?

/-- Reads an actor. -/
def ofJson? (j : Json) : Option Actor := do
  let m ← j.members? ["cashier_id", "role", "store_id", "manager_override"] 1
  some {
    cashier := ← (Json.member "cashier_id" m).text?
    role := ← Role.ofJson? (Json.member "role" m)
    store := ← (Json.member "store_id" m).text?
    approvedBy := ← (Json.member "manager_override" m).nullable? approvalOfJson? }

end Actor

end Till
