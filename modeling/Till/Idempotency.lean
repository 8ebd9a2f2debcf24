import Till.Json.Kept
import Till.Json.Parser
import Till.Json.Printer
import Till.Json.Sorted
import Till.Instant.Json
import Till.Rejection

/-!
# Stored outcomes

A request with a key is executed at most once: what came of it is stored as a `StoredOutcome` in a
record that expires, and given again when the same request comes back.

* `StoredOutcome.text` and `StoredOutcome.ofText?` : the written form in which outcomes are stored;
* `StoredOutcome.replay` : gives the payload of a success again, or the refusal;
* `Claim.record` : the record of an outcome under a key.
-/

namespace Till

/-- What came of a request. -/
inductive StoredOutcome where
  /-- It succeeded with this payload. -/
  | success (payload : Json)
  /-- It was refused. -/
  | failure (kind : RejectionKind) (message : String)
  deriving Repr

/-- What came of the request with a key, until it expires. -/
structure OutcomeRecord where
  /-- The store. -/
  store : String
  /-- The cashier. -/
  cashier : String
  /-- The key of the request. -/
  key : String
  /-- The transaction that the request made. -/
  transaction : Option String
  /-- What came of it. -/
  outcome : StoredOutcome
  /-- When it was executed. -/
  createdAt : Instant
  /-- When the record is forgotten. -/
  expiresAt : Instant
  deriving Repr

/-- The right to execute the request with a key. -/
structure Claim where
  /-- The store. -/
  store : String
  /-- The cashier. -/
  cashier : String
  /-- The key of the request. -/
  key : String
  /-- When it is executed. -/
  createdAt : Instant
  /-- When its record is forgotten. -/
  expiresAt : Instant
  deriving DecidableEq, Repr

namespace StoredOutcome

/-- The outcome of a refused request. -/
def ofRejection (r : Rejection) : StoredOutcome := .failure r.kind r.message

/-- Gives the outcome again, the payload read with `read`. -/
def replay {α : Type} (read : Json → Option α) : StoredOutcome → Result α
  | success payload =>
    Outcome.ofOption (.internal "corrupt idempotent payload") (read payload)
  | failure kind message => Outcome.reject (.replayed kind message)

/-- The outcome as JSON. -/
def toJson : StoredOutcome → Json
  | success payload => .obj [("outcome", .str "success"), ("payload", payload)]
  | failure kind message =>
    .obj [("outcome", .str "failure"), ("kind", kind.toJson), ("message", .str message)]

/-- The fields of an outcome of the given name. -/
def fields : String → List String
  | "success" => ["payload"]
  | "failure" => ["kind", "message"]
  | _ => []

/-- Reads an outcome; the objects inside a payload are put in order. -/
def ofJson? (j : Json) : Option StoredOutcome := do
  let (name, m) ← j.choice? "outcome" fields
  match name with
  | "success" => (Json.find? "payload" m).map fun payload => success payload.sorted
  | "failure" =>
    some (failure (← RejectionKind.ofJson? (Json.member "kind" m))
      (← (Json.member "message" m).text?))
  | _ => none

/-- The written form of an outcome. -/
def text (o : StoredOutcome) : String := o.toJson.print

/-- Reads the written form of an outcome. -/
def ofText? (s : String) : Option StoredOutcome := Json.parse? s >>= ofJson?

/-- The outcome after it was written and read again. -/
def kept : StoredOutcome → StoredOutcome
  | success payload => success payload.kept
  | failure kind message => failure kind message

end StoredOutcome

namespace OutcomeRecord

/-- The record after its outcome was written and read again. -/
def kept (r : OutcomeRecord) : OutcomeRecord := { r with outcome := r.outcome.kept }

/-- A record is forgotten from its expiry on. -/
def isExpired (r : OutcomeRecord) (now : Instant) : Bool := decide (r.expiresAt ≤ now)

/-- The record as JSON. -/
def toJson (r : OutcomeRecord) : Json :=
  .obj [("cashier_id", .str r.cashier), ("created_at", r.createdAt.toJson),
    ("expires_at", r.expiresAt.toJson), ("key", .str r.key), ("outcome", r.outcome.toJson),
    ("store_id", .str r.store), ("transaction_id", Json.ofText? r.transaction)]

/-- Reads a record. -/
def ofJson? (j : Json) : Option OutcomeRecord := do
  let m ← j.members? ["store_id", "cashier_id", "key", "transaction_id", "outcome", "created_at",
    "expires_at"]
  some {
    store := ← (Json.member "store_id" m).text?
    cashier := ← (Json.member "cashier_id" m).text?
    key := ← (Json.member "key" m).text?
    transaction := ← (Json.member "transaction_id" m).nullable? Json.text?
    outcome := ← StoredOutcome.ofJson? (Json.member "outcome" m)
    createdAt := ← Instant.ofJson? (Json.member "created_at" m)
    expiresAt := ← Instant.ofJson? (Json.member "expires_at" m) }

end OutcomeRecord

namespace Claim

/-- The claim on a key from now on for a span of nanoseconds. -/
def make (store cashier key : String) (now : Instant) (lifetime : Int) : Result Claim := do
  let expiresAt ← now.after lifetime
  pure ⟨store, cashier, key, now, expiresAt⟩

/-- The record of an outcome under the claimed key. -/
def record (c : Claim) (transaction : Option String) (outcome : StoredOutcome) : OutcomeRecord :=
  ⟨c.store, c.cashier, c.key, transaction, outcome, c.createdAt, c.expiresAt⟩

end Claim

end Till
