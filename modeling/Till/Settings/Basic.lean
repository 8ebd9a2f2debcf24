import Till.Advisor
import Till.Cents
import Till.Retry

/-!
# Settings

`Settings` say which store a till serves, where it keeps its data, and by which rules it works.
`Settings.check` refuses settings that a till cannot work with; the first problem in a fixed order
decides.
-/

namespace Till

/-- The settings of a till. -/
structure Settings where
  /-- The store. -/
  storeId : String := "default-store"
  /-- The name of the store. -/
  storeName : String := "Default Store"
  /-- The path of the data. -/
  path : String
  /-- The most connections to the data. -/
  connections : Nat := 5
  /-- The tax rate of the store. -/
  rate : TaxRate := ⟨0⟩
  /-- How long after a sale it can be voided, in seconds. -/
  voidWindow : Int := 1800
  /-- How long the outcome of a request is remembered, in seconds. -/
  keyLifetime : Int := 86400
  /-- How often a unit of work is tried again. -/
  retry : RetryPolicy := {}
  /-- Whether products are suggested. -/
  suggests : Bool := true
  /-- How long suggestions are kept, in seconds. -/
  cacheLifetime : Nat := 300
  /-- The most suggestions. -/
  limit : Nat := 5
  /-- When fresh suggestions are put into the cache. -/
  populate : PopulateMode := .background
  /-- The cache to be shared with other tills, if any. -/
  redisUrl : Option String := none
  deriving DecidableEq, Repr

namespace Settings

/-- What makes settings unusable. -/
inductive Problem where
  /-- The store has no identifier. -/
  | noStore
  /-- There are no connections. -/
  | noConnections
  /-- The tax rate is above the whole. -/
  | taxRate (bps : Nat)
  /-- The time for voiding is negative. -/
  | voidWindow
  /-- Outcomes are forgotten too early. -/
  | keyLifetime (seconds : Int)
  /-- The waits between tries do not fit together. -/
  | waits
  /-- Suggestions are not kept at all. -/
  | cacheLifetime
  /-- There are too few or too many suggestions. -/
  | limit (n : Nat)
  /-- The address of the shared cache is of another kind. -/
  | redisUrl (url : String)
  /-- There is no such mode. -/
  | populate (mode : String)
  deriving DecidableEq, Repr

/-- The shortest time for which outcomes are remembered, in seconds. -/
def shortestKeyLifetime : Int := 3600

/-- The most suggestions that can be asked for. -/
def mostSuggestions : Nat := 50

/-- What is wrong with a setting. -/
def Problem.detail : Problem → String
  | noStore => "store.id must not be empty"
  | noConnections => "database.max_connections must be greater than 0"
  | taxRate bps => "pricing.tax_rate_bps must be within 0..=10000, got " ++ toString bps
  | voidWindow => "lifecycle.void_window_secs must not be negative"
  | keyLifetime seconds =>
    "lifecycle.idempotency_ttl_secs must be at least " ++ toString shortestKeyLifetime ++
      ", got " ++ toString seconds
  | waits => "lifecycle backoff must satisfy 0 < initial_backoff_ms <= max_backoff_ms"
  | cacheLifetime => "recommendations.ttl_secs must be greater than 0"
  | limit n => "recommendations.limit must be within 1..=50, got " ++ toString n
  | redisUrl url => "Redis URL must start with redis:// or rediss://, got: " ++ url
  | populate mode =>
    "Unknown populate mode: '" ++ mode ++ "'. Valid options: inline, background"

/-- The message that tells the operator what is wrong. -/
def Problem.message (p : Problem) : String := "Invalid configuration: " ++ p.detail

/-- Refuses settings that a till cannot work with. -/
def check (s : Settings) : Except Problem Unit :=
  if Text.isBlankText s.storeId then .error .noStore
  else if s.connections = 0 then .error .noConnections
  else if !s.rate.isValid then .error (.taxRate s.rate.bps)
  else if s.voidWindow < 0 then .error .voidWindow
  else if s.keyLifetime < shortestKeyLifetime then .error (.keyLifetime s.keyLifetime)
  else if s.retry.initialMillis = 0 ∨ s.retry.maxMillis < s.retry.initialMillis then .error .waits
  else if s.cacheLifetime = 0 then .error .cacheLifetime
  else if s.limit = 0 ∨ mostSuggestions < s.limit then .error (.limit s.limit)
  else
    match s.redisUrl with
    | some url =>
      if Text.beginsWith "redis://" url || Text.beginsWith "rediss://" url then .ok ()
      else .error (.redisUrl url)
    | none => .ok ()

/-- The mode of a name in letters of either case; a name of no mode is shown in small letters. -/
def populateMode (s : String) : Except Problem PopulateMode :=
  match PopulateMode.ofAnyCase? s with
  | some mode => .ok mode
  | none => .error (.populate (Text.lowerCase s))

/-- How the connections to the data are kept. -/
structure Pool where
  /-- The most connections. -/
  most : Nat
  /-- The connections that are always kept. -/
  least : Nat := 1
  /-- How long a locked store is waited for, in seconds. -/
  busySeconds : Nat := 5
  /-- How long an unused connection is kept, in seconds. -/
  idleSeconds : Nat := 600

/-- How the connections to the data are kept with these settings. -/
def pool (s : Settings) : Pool := { most := s.connections }

/-- The advisor with these settings. -/
def advisor (s : Settings) : Advisor :=
  ⟨s.suggests, s.cacheLifetime * 1000, s.limit, s.populate⟩

end Settings

end Till
