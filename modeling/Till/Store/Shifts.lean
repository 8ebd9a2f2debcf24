import Till.Store.Basic

/-!
# Shifts in the store

A cashier has at most one open shift at a store.  Events are added only to open shifts, at the end
of their logs.  `Store.closeShift` ends a shift only if its log is as long as it was when the
expected cash was computed.
-/

namespace Till

namespace Store

/-- The shift with an identifier. -/
def shift? (s : Store) (id : String) : Option Shift := s.shifts.find? fun sh => sh.id == id

/-- The open shift of a cashier at a store. -/
def openShift? (s : Store) (cashier store : String) : Option Shift :=
  s.shifts.find? fun sh => sh.cashier == cashier && sh.store == store && sh.isOpen

/-- A shift at its beginning. -/
def unused (sh : Shift) : Shift :=
  { sh with closedAt := none, closingCash := none, variance := none, events := [] }

/-- Adds a shift at its beginning. -/
def addShift (s : Store) (sh : Shift) : Stored Store := do
  testNumbers (decide (0 ≤ sh.openingCash))
  Outcome.require (!(s.hasShift sh.id || (s.openShift? sh.cashier sh.store).isSome))
    (.rejected (.shiftAlreadyOpen sh.cashier sh.store))
  pure { s with shifts := s.shifts ++ [unused sh] }

/-- Puts an event into a log, by its position. -/
def placeEvent (e : DrawerEvent) : List DrawerEvent → List DrawerEvent
  | [] => [e]
  | f :: rest => if e.seq < f.seq then e :: f :: rest else f :: placeEvent e rest

/-- The position after the last of a log. -/
def nextSeq (events : List DrawerEvent) : Int :=
  match events.getLast? with
  | some e => e.seq + 1
  | none => 1

/-- Whether an event has the identifier. -/
def hasEvent (s : Store) (id : String) : Bool :=
  s.shifts.any fun sh => sh.events.any fun e => e.id == id

/-- Whether the log of a shift has an event at the position. -/
def hasPosition (s : Store) (shift : String) (seq : Int) : Bool :=
  s.shifts.any fun sh => sh.id == shift && sh.events.any fun e => e.seq == seq

/-- Changes the shift with an identifier. -/
def updateShift (s : Store) (id : String) (f : Shift → Shift) : Store :=
  { s with shifts := s.shifts.map fun sh => if sh.id == id then f sh else sh }

/-- Adds an event to the log of its shift. -/
def addEvent (s : Store) (e : DrawerEvent) : Stored Store := do
  testNumbers (decide (0 ≤ e.amount))
  testKey "drawer_events.shift_id, drawer_events.seq" (s.hasPosition e.shift e.seq)
  testKey "drawer_events.id" (s.hasEvent e.id)
  testReference (s.hasShift e.shift)
  pure (s.updateShift e.shift fun sh => { sh with events := placeEvent e sh.events })

/-- Adds an entry at the end of the log of an open shift. -/
def appendEntry (s : Store) (shift id : String) (e : DrawerEntry) (at' : Instant) :
    Stored (Store × DrawerEvent) :=
  match s.shift? shift with
  | none => Outcome.reject (.missing "Shift" shift)
  | some sh =>
    if sh.isOpen then do
      let seq ← Outcome.ofOption (.internal "the log is full") (Cents.checked (nextSeq sh.events))
      let event := e.place id shift seq at'
      let s ← s.addEvent event
      pure (s, event)
    else Outcome.reject (.rejected (.shiftClosed shift))

/-- A shift with the end that another one has. -/
def ended (sh closed : Shift) : Shift :=
  { sh with
    closedAt := closed.closedAt
    closingCash := closed.closingCash
    variance := closed.variance }

/-- Ends a shift and adds the event that ends it, which has to be the last of its log. -/
def closeShift (s : Store) (closed : Shift) : Stored Store := do
  let closing ← Outcome.ofOption (.internal "closed shift has no close event")
    (closed.events.getLast?.filter fun e => decide (e.kind = .close))
  Outcome.require closed.closedAt.isSome (.internal "closed shift has no closed_at")
  match s.shift? closed.id with
  | none => Outcome.reject (.missing "Shift" closed.id)
  | some sh =>
    if !sh.isOpen then Outcome.reject (.rejected (.shiftClosed closed.id))
    else if sh.events.length + 1 = closed.events.length then
      (s.updateShift closed.id fun sh => ended sh closed).addEvent closing
    else Outcome.reject (.rejected (.modifiedConcurrently "Shift" closed.id))

end Store

end Till
