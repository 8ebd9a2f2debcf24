import Till.Shift.Drawer

/-!
# Shifts

A shift is a cashier's time at a store, from an opening float of cash to the cash counted at its
end.

* `Shift.expectedCash` : the opening float and the effects of all events;
* `Shift.close` : ends a shift with a `close` event and records the variance, which is the counted
  less the expected cash;
* `Shift.requireOpen` : the gate that every operation on money passes;
* `ShiftReport.ofShift` : the totals of a shift by kind of event.
-/

namespace Till

/-- A cashier's time at a store. -/
structure Shift where
  /-- The identifier. -/
  id : String
  /-- The cashier. -/
  cashier : String
  /-- The store. -/
  store : String
  /-- When it began. -/
  openedAt : Instant
  /-- When it ended. -/
  closedAt : Option Instant
  /-- The cash at the beginning. -/
  openingCash : Int
  /-- The cash counted at the end. -/
  closingCash : Option Int
  /-- The counted less the expected cash. -/
  variance : Option Int
  /-- The log of the drawer. -/
  events : List DrawerEvent
  deriving DecidableEq, Repr

/-- The figures of a closed shift. -/
structure ShiftClosure where
  /-- The opening float and the effects of all events. -/
  expectedCash : Int
  /-- The cash counted. -/
  closingCash : Int
  /-- The counted less the expected cash. -/
  variance : Int
  deriving DecidableEq, Repr

namespace Shift

/-- Begins a shift. -/
def start (id cashier store : String) (openingCash : Int) (at' : Instant) : Result Shift := do
  (Field.cashFloat "opening_cash" openingCash).run
  pure ⟨id, cashier, store, at', none, openingCash, none, none, []⟩

/-- A shift is open until it has an end. -/
def isOpen (s : Shift) : Bool := s.closedAt.isNone

/-- Refuses unless the shift is open. -/
def checkOpen (s : Shift) : Result Unit := Outcome.require s.isOpen (.shiftClosed s.id)

/-- The shift with an entry at the end of its log, and the event. -/
def append (s : Shift) (id : String) (e : DrawerEntry) (at' : Instant) : Shift × DrawerEvent :=
  let event := e.place id s.id (s.events.length + 1) at'
  ({ s with events := s.events ++ [event] }, event)

/-- Records an entry on an open shift. -/
def record (s : Shift) (id : String) (e : DrawerEntry) (at' : Instant) :
    Result (Shift × DrawerEvent) := do
  s.checkOpen
  e.check.run
  pure (s.append id e at')

/-- The effects of all events together. -/
def netEffect (events : List DrawerEvent) : Result Int :=
  events.foldlM (fun sum e => do
    let effect ← e.cashEffect
    Cents.exact (sum + effect)) 0

/-- The cash that should be in the drawer. -/
def expectedCash (s : Shift) : Result Int := do
  let net ← netEffect s.events
  Cents.exact (s.openingCash + net)

/-- Ends an open shift with the cash counted. -/
def close (s : Shift) (id : String) (closingCash : Int) (at' : Instant) :
    Result (Shift × ShiftClosure) := do
  s.checkOpen
  (Field.cashFloat "closing_cash" closingCash).run
  let expected ← s.expectedCash
  let variance ← Cents.exact (closingCash - expected)
  let (logged, _) := s.append id { kind := .close, amount := closingCash } at'
  pure ({ logged with
    closedAt := some at'
    closingCash := some closingCash
    variance := some variance }, ⟨expected, closingCash, variance⟩)

/-- The shift if there is one and it is open. -/
def requireOpen (shift : Option Shift) (cashier store : String) : Result Shift :=
  match shift with
  | some s => if s.isOpen then .ok s else Outcome.reject (.shiftNotOpen cashier store)
  | none => Outcome.reject (.shiftNotOpen cashier store)

/-- The shift as JSON. -/
def toJson (s : Shift) : Json :=
  .obj [("cashier_id", .str s.cashier), ("closed_at", Instant.optionToJson s.closedAt),
    ("closing_cash_cents", Json.ofInt? s.closingCash),
    ("events", .arr (s.events.map DrawerEvent.toJson)), ("id", .str s.id),
    ("opened_at", s.openedAt.toJson), ("opening_cash_cents", .int s.openingCash),
    ("store_id", .str s.store), ("variance_cents", Json.ofInt? s.variance)]

/-- Reads a shift. -/
def ofJson? (j : Json) : Option Shift := do
  let m ← j.members? ["id", "cashier_id", "store_id", "opened_at", "closed_at",
    "opening_cash_cents", "closing_cash_cents", "variance_cents", "events"]
  some {
    id := ← (Json.member "id" m).text?
    cashier := ← (Json.member "cashier_id" m).text?
    store := ← (Json.member "store_id" m).text?
    openedAt := ← Instant.ofJson? (Json.member "opened_at" m)
    closedAt := ← (Json.member "closed_at" m).nullable? Instant.ofJson?
    openingCash := ← (Json.member "opening_cash_cents" m).int?
    closingCash := ← (Json.member "closing_cash_cents" m).nullable? Json.int?
    variance := ← (Json.member "variance_cents" m).nullable? Json.int?
    events := ← (Json.member "events" m).list? DrawerEvent.ofJson? }

end Shift

/-- The figures of a closed shift as JSON. -/
def ShiftClosure.toJson (c : ShiftClosure) : Json :=
  .obj [("closing_cash", .int c.closingCash), ("expected_cash", .int c.expectedCash),
    ("variance", .int c.variance)]

/-- A shift with its totals by kind of event. -/
structure ShiftReport where
  /-- The shift. -/
  shift : Shift
  /-- The opening float and the effects of all events. -/
  expectedCash : Int
  /-- Cash put in by hand. -/
  cashIn : Int
  /-- Cash taken out by hand. -/
  cashOut : Int
  /-- Sales in cash. -/
  sales : Int
  /-- Refunds in cash. -/
  refunds : Int
  /-- Reversals of sales in cash. -/
  voidReversals : Int
  /-- The counted less the expected cash, once closed. -/
  variance : Option Int
  deriving DecidableEq, Repr

namespace ShiftReport

/-- The cash that the events of one kind moved, without its sign. -/
def totalOf (kind : DrawerKind) (events : List DrawerEvent) : Result Int :=
  (events.filter fun e => decide (e.kind = kind)).foldlM (fun sum e => do
    let effect ← e.cashEffect
    let size ← Cents.exact effect.natAbs
    Cents.exact (sum + size)) 0

/-- The report on a shift. -/
def ofShift (s : Shift) : Result ShiftReport := do
  let expectedCash ← s.expectedCash
  let cashIn ← totalOf .cashIn s.events
  let cashOut ← totalOf .cashOut s.events
  let sales ← totalOf .sale s.events
  let refunds ← totalOf .refund s.events
  let voidReversals ← totalOf .voidReversal s.events
  pure ⟨s, expectedCash, cashIn, cashOut, sales, refunds, voidReversals, s.variance⟩

/-- The report as JSON. -/
def toJson (r : ShiftReport) : Json :=
  .obj [("cash_in", .int r.cashIn), ("cash_out", .int r.cashOut),
    ("cash_refunds", .int r.refunds), ("cash_sales", .int r.sales),
    ("cash_void_reversals", .int r.voidReversals), ("expected_cash", .int r.expectedCash),
    ("shift", r.shift.toJson), ("variance", Json.ofInt? r.variance)]

end ShiftReport

end Till
