import Till.Instant.Json
import Till.Payment
import Till.Rejection

/-!
# The cash drawer

A drawer event is one entry in the log of a shift.  `DrawerEvent.cashEffect` is what it adds to the
cash in the drawer: amounts paid by card add nothing, and the sign comes from the kind.
-/

namespace Till

/-- What kind of entry a drawer event is. -/
inductive DrawerKind where
  /-- Cash put into the drawer by hand. -/
  | cashIn
  /-- Cash taken out of the drawer by hand. -/
  | cashOut
  /-- A sale. -/
  | sale
  /-- A refund. -/
  | refund
  /-- The reversal of a sale. -/
  | voidReversal
  /-- The end of the shift, with the cash counted. -/
  | close
  deriving DecidableEq, Repr

namespace DrawerKind

/-- The sign of the effect on the cash in the drawer. -/
def direction : DrawerKind → Int
  | cashIn => 1
  | sale => 1
  | cashOut => -1
  | refund => -1
  | voidReversal => -1
  | close => 0

/-- The name of the kind. -/
def text : DrawerKind → String
  | cashIn => "cash_in"
  | cashOut => "cash_out"
  | sale => "sale"
  | refund => "refund"
  | voidReversal => "void_reversal"
  | close => "close"

/-- The kind of a name. -/
def ofText? : String → Option DrawerKind
  | "cash_in" => some cashIn
  | "cash_out" => some cashOut
  | "sale" => some sale
  | "refund" => some refund
  | "void_reversal" => some voidReversal
  | "close" => some close
  | _ => none

/-- The kind as JSON. -/
def toJson (k : DrawerKind) : Json := .str k.text

/-- Reads a kind. -/
def ofJson? (j : Json) : Option DrawerKind := j.name? >>= ofText?

end DrawerKind

/-- An entry before it has a place in a log. -/
structure DrawerEntry where
  /-- The kind. -/
  kind : DrawerKind
  /-- The amount in cents. -/
  amount : Int
  /-- How it was paid; entries made by hand have none and are cash. -/
  payment : Option PaymentMethod := none
  /-- What it refers to. -/
  reference : Option String := none
  deriving DecidableEq, Repr

/-- An entry in the log of a shift. -/
structure DrawerEvent where
  /-- The identifier. -/
  id : String
  /-- The shift. -/
  shift : String
  /-- The position in the log. -/
  seq : Int
  /-- The kind. -/
  kind : DrawerKind
  /-- The amount in cents. -/
  amount : Int
  /-- How it was paid. -/
  payment : Option PaymentMethod
  /-- What it refers to. -/
  reference : Option String
  /-- When it was made. -/
  createdAt : Instant
  deriving DecidableEq, Repr

namespace DrawerEntry

/-- The rules for an entry: its amount is positive, and only closing a shift makes a `close`. -/
def check (e : DrawerEntry) : Field.Check :=
  if e.kind = .close then
    .error (.malformed "kind" "close events are appended by closing the shift")
  else Field.positive "amount" e.amount

/-- The entry with its place in a log. -/
def place (e : DrawerEntry) (id shift : String) (seq : Int) (at' : Instant) : DrawerEvent :=
  ⟨id, shift, seq, e.kind, e.amount, e.payment, e.reference, at'⟩

/-- Reads an entry. -/
def ofJson? (j : Json) : Option DrawerEntry := do
  let m ← j.members? ["kind", "amount_cents", "payment_method", "reference_id"]
  some {
    kind := ← DrawerKind.ofJson? (Json.member "kind" m)
    amount := ← (Json.member "amount_cents" m).int?
    payment := ← (Json.member "payment_method" m).nullable? PaymentMethod.ofJson?
    reference := ← (Json.member "reference_id" m).nullable? Json.text? }

end DrawerEntry

namespace DrawerEvent

/-- Whether the amount passes through the drawer. -/
def movesCash (e : DrawerEvent) : Bool :=
  match e.payment with
  | some m => m.movesCash
  | none => true

/-- What the entry adds to the cash in the drawer. -/
def cashEffect (e : DrawerEvent) : Result Int :=
  if e.movesCash then Cents.exact (e.amount * e.kind.direction) else .ok 0

/-- The entry as JSON. -/
def toJson (e : DrawerEvent) : Json :=
  .obj [("amount_cents", .int e.amount), ("created_at", e.createdAt.toJson), ("id", .str e.id),
    ("kind", e.kind.toJson),
    ("payment_method", match e.payment with
      | some m => m.toJson
      | none => .null),
    ("reference_id", Json.ofText? e.reference), ("seq", .int e.seq), ("shift_id", .str e.shift)]

/-- Reads an entry. -/
def ofJson? (j : Json) : Option DrawerEvent := do
  let m ← j.members? ["id", "shift_id", "seq", "kind", "amount_cents", "payment_method",
    "reference_id", "created_at"]
  some {
    id := ← (Json.member "id" m).text?
    shift := ← (Json.member "shift_id" m).text?
    seq := ← (Json.member "seq" m).int?
    kind := ← DrawerKind.ofJson? (Json.member "kind" m)
    amount := ← (Json.member "amount_cents" m).int?
    payment := ← (Json.member "payment_method" m).nullable? PaymentMethod.ofJson?
    reference := ← (Json.member "reference_id" m).nullable? Json.text?
    createdAt := ← Instant.ofJson? (Json.member "created_at" m) }

end DrawerEvent

end Till
