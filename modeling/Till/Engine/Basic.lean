import Till.Advisor
import Till.Cache
import Till.Settings.Basic
import Till.Store.CoPurchases
import Till.Store.Orders

/-!
# The engine

`Engine` holds the rules that a till works by, and `World` what it works on: the store, the clock
and the cache.  An operation gets the identifiers of what it creates as an argument, so it is a
function of its arguments and the world.
-/

namespace Till

/-- The rules that a till works by. -/
structure Engine where
  /-- The store that the till was set up for. -/
  home : String
  /-- The tax rate. -/
  rate : TaxRate
  /-- How long after a sale it can be voided, in nanoseconds. -/
  voidWindow : Int
  /-- How long the outcome of a request is remembered, in nanoseconds. -/
  keyLifetime : Int
  /-- How often a unit of work is tried again. -/
  retry : RetryPolicy
  /-- How products are suggested. -/
  advisor : Advisor
  deriving DecidableEq, Repr

/-- The identifiers for what one operation creates. -/
structure Ids where
  /-- The identifier of a shift, a transaction, a refund, a product, a supplier or an order. -/
  subject : String
  /-- The identifier of a drawer event. -/
  event : String
  /-- The identifiers of stock movements, by the position of their lines. -/
  movement : Nat → String

/-- What a till works on. -/
structure World (κ : Type) where
  /-- The store. -/
  store : Store
  /-- The time. -/
  now : Instant
  /-- The clock of the cache, in milliseconds. -/
  uptime : Nat := 0
  /-- The cache. -/
  cache : κ

/-- How a cache is used. -/
structure CacheAccess (κ : Type) where
  /-- Reads the text under a key at an instant of the clock. -/
  read : κ → Nat → String → Result (Option String) × κ
  /-- Writes a text under a key at an instant of the clock, for a lifetime. -/
  write : κ → Nat → String → String → Nat → Result Unit × κ

/-- How the caches of a till are used. -/
def Cache.access : CacheAccess Cache := ⟨Cache.read, Cache.write⟩

namespace World

variable {κ α : Type}

/-- The world at another time. -/
def atTime (w : World κ) (now : Instant) : World κ := { w with now }

/-- The world a span of nanoseconds later. -/
def later (w : World κ) (span : Int) : Result (World κ) := do
  let now ← w.now.after span
  pure (w.atTime now)

/-- A step on the store as a step on the world. -/
def onStore (step : Action Store α) : Action (World κ) α := fun w =>
  let (result, store) := step w.store
  (result, { w with store })

end World

namespace Engine

/-- The engine with the given settings; times that are too long overflow. -/
def ofSettings (s : Settings) : Result Engine := do
  let keyLifetime ← Instant.spanOfSeconds s.keyLifetime
  let voidWindow ← Instant.spanOfSeconds s.voidWindow
  pure ⟨s.storeId, s.rate, voidWindow, keyLifetime, s.retry, s.advisor⟩

/-- A unit of work on the store as a step. -/
def book (unit : Store → Stored Store) : Action Store Unit := Action.transact fun s => do
  let after ← (unit s).result
  pure ((), after)

end Engine

end Till
