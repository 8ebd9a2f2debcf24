import Till.Store.Basic

/-!
# Stored outcomes in the store

There is at most one record for a key of a cashier at a store.  From its expiry on a record is not
found any more, and gives way to a new one.  The outcome of a record is kept in its written form.
-/

namespace Till

namespace Store

/-- Whether a record belongs to a key. -/
def belongs (store cashier key : String) (r : OutcomeRecord) : Bool :=
  r.store == store && r.cashier == cashier && r.key == key

/-- Whether a record is kept beyond an instant. -/
def isLive (now : Instant) (r : OutcomeRecord) : Bool := Instant.keptBefore now r.expiresAt

/-- The live record for a key. -/
def outcome? (s : Store) (store cashier key : String) (now : Instant) : Option OutcomeRecord :=
  s.outcomes.find? fun r => belongs store cashier key r && isLive now r

/-- Forgets the record for the key of another one if it has expired. -/
def forgetExpired (s : Store) (r : OutcomeRecord) (now : Instant) : Store :=
  { s with outcomes := s.outcomes.filter fun o =>
      !(belongs r.store r.cashier r.key o && !isLive now o) }

/-- Whether there is a record for a key, live or not. -/
def hasOutcome (s : Store) (store cashier key : String) : Bool :=
  s.outcomes.any (belongs store cashier key)

/-- Adds a record unless there is a live one for its key; says whether it was added. -/
def addOutcome (s : Store) (r : OutcomeRecord) (now : Instant) : Store × Bool :=
  let s := s.forgetExpired r now
  if s.hasOutcome r.store r.cashier r.key then (s, false)
  else ({ s with outcomes := s.outcomes ++ [r.kept] }, true)

/-- Claims the key of a record for a unit of work. -/
def claimKey (s : Store) (r : OutcomeRecord) (now : Instant) : Stored Store :=
  match s.addOutcome r now with
  | (s, true) => .ok s
  | (_, false) => Outcome.reject (.rejected (.inFlight r.key))

/-- Forgets all expired records; gives their number. -/
def purge (s : Store) (now : Instant) : Store × Nat :=
  let live := s.outcomes.filter (isLive now)
  ({ s with outcomes := live }, s.outcomes.length - live.length)

end Store

end Till
