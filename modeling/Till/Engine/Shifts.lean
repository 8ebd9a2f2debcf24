import Till.Engine.Basic
import Till.Store.Shifts

/-!
# Working with shifts

Actors open shifts for themselves.  To close, record on or look at the shift of another cashier of
the store, an actor has to be elevated.
-/

namespace Till

namespace Engine

/-- The open shift of an actor. -/
def currentShift (actor : Actor) (s : Store) : Result Shift :=
  Shift.requireOpen (s.openShift? actor.cashier actor.store) actor.cashier actor.store

/-- The shift with an identifier, for an action of an actor on it. -/
def ownedShift (actor : Actor) (id action : String) (s : Store) : Result Shift := do
  let shift ← Outcome.ofOption (.notFound "Shift" id)
    ((s.shift? id).filter fun shift => shift.store == actor.store)
  if shift.cashier = actor.cashier then pure shift
  else
    actor.requireElevated action
    pure shift

/-- Opens a shift. -/
def openShift (ids : Ids) (now : Instant) (actor : Actor) (openingCash : Int) :
    Action Store Shift := Action.transact fun s => do
  let shift ← Shift.start ids.subject actor.cashier actor.store openingCash now
  let after ← (s.addShift shift).result
  pure (shift, after)

/-- A shift as it will be when it is closed, with the figures. -/
def planClose (ids : Ids) (now : Instant) (actor : Actor) (id : String) (closingCash : Int)
    (s : Store) : Result (Shift × ShiftClosure) := do
  let shift ← ownedShift actor id "close another cashier's shift" s
  shift.close ids.event closingCash now

/-- Closes a shift; it is tried again if the log has grown meanwhile. -/
def closeShift (e : Engine) (ids : Ids) (now : Instant) (actor : Actor) (id : String)
    (closingCash : Int) : Action Store ShiftClosure :=
  e.retry.runWhen RetryPolicy.isLostRace (Action.transact fun s => do
    let (closed, closure) ← planClose ids now actor id closingCash s
    let after ← (s.closeShift closed).result
    pure (closure, after))

/-- The rules for an entry made by hand. -/
def checkManualEntry (entry : DrawerEntry) : Field.Check := do
  if entry.kind = .cashIn ∨ entry.kind = .cashOut then .ok ()
  else .error (.malformed "kind" "only cash_in and cash_out can be recorded manually")
  entry.check

/-- Records an entry made by hand. -/
def recordEntry (ids : Ids) (now : Instant) (actor : Actor) (id : String) (entry : DrawerEntry) :
    Action Store DrawerEvent := Action.transact fun s => do
  (checkManualEntry entry).run
  let shift ← ownedShift actor id "record on another cashier's shift" s
  shift.checkOpen
  let (after, event) ← (s.appendEntry shift.id ids.event entry now).result
  pure (event, after)

/-- The report on a shift. -/
def shiftReport (actor : Actor) (id : String) (s : Store) : Result ShiftReport := do
  let shift ← ownedShift actor id "view another cashier's shift" s
  ShiftReport.ofShift shift

end Engine

end Till
