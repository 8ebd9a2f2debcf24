import Till.Rejection

/-!
# Failures of the store

`StoreError` is the store's own list of reasons; `StoreError.rejection` states them in the words
that callers see.  A business rule that a unit of work checks while it writes is a reason of the
store as well, and comes back as it is.
-/

namespace Till

/-- Why the store did not do what was asked. -/
inductive StoreError where
  /-- There is no such row. -/
  | missing (entity id : String)
  /-- A key is taken. -/
  | duplicate (field value : String)
  /-- A row refers to one that does not exist. -/
  | dangling (message : String)
  /-- The store is locked. -/
  | busy (message : String)
  /-- The store cannot be reached. -/
  | disconnected (message : String)
  /-- The tables cannot be brought up to date. -/
  | migration (message : String)
  /-- A statement failed. -/
  | statement (message : String)
  /-- All connections are taken. -/
  | exhausted
  /-- A business rule refused the unit of work. -/
  | rejected (reason : Rejection)
  /-- Stored data is not as it should be. -/
  | internal (message : String)
  deriving DecidableEq, Repr

/-- An outcome of the store. -/
abbrev Stored (α : Type) := Outcome StoreError α

namespace StoreError

/-- A row that had to be there is not. -/
def noRow : StoreError := .missing "Record" "unknown"

/-- The connections of the store are closed. -/
def closed : StoreError := .disconnected "Pool is closed"

/-- The message for the log. -/
def message : StoreError → String
  | missing entity id => entity ++ " not found: " ++ id
  | duplicate field value => "Duplicate " ++ field ++ ": '" ++ value ++ "' already exists"
  | dangling message => "Foreign key violation: " ++ message
  | busy message => "Database busy: " ++ message
  | disconnected message => "Connection failed: " ++ message
  | migration message => "Migration failed: " ++ message
  | statement message => "Query failed: " ++ message
  | exhausted => "Connection pool exhausted"
  | rejected reason => reason.message
  | internal message => "Internal database error: " ++ message

/-- Whether a key of the named table is taken. -/
def isDuplicateOf (table : String) : StoreError → Bool
  | duplicate field _ => Text.beginsWith table field
  | _ => false

/-- The reason as callers see it. -/
def rejection : StoreError → Rejection
  | missing entity id => .notFound entity id
  | duplicate field value => .invalid (.duplicate field value)
  | dangling message => .notFound "Referenced record" message
  | busy message => .unavailable message
  | disconnected message => .unavailable message
  | migration message => .internal message
  | statement message => .internal message
  | exhausted => .unavailable "connection pool exhausted"
  | rejected reason => reason
  | internal message => .internal message

end StoreError

/-- The outcome of the store as callers see it. -/
def Stored.result {α : Type} (x : Stored α) : Result α := x.mapRejection StoreError.rejection

end Till
