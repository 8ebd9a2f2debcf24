import Till.Settings.Json
import Till.Toml

/-!
# Loading and saving settings

Settings come from three places: the usual values, a file, and the environment, whose variables
win over the file.  A variable that cannot be read as its setting is passed over, and an empty
address of a shared cache means that there is none.

* `Settings.load` : the checked settings from the text of a file, if there is one, and the
  environment;
* `Settings.save` : the text of a file from which the settings can be loaded again.
-/

namespace Till

namespace Settings

/-- Why settings could not be loaded or saved. -/
inductive Failure where
  /-- The settings are unusable. -/
  | invalid (problem : Problem)
  /-- The text is not that of settings. -/
  | unreadable
  /-- The settings have no text. -/
  | unwritable
  /-- The file cannot be used. -/
  | file
  deriving DecidableEq, Repr

/-- The variables of the environment, by name. -/
abbrev Environment := String → Option String

/-- The names of the variables that settings are taken from. -/
def variableNames : List String := [
  "TALLY_STORE_ID", "TALLY_DB_PATH", "TALLY_DB_MAX_CONNECTIONS", "TALLY_TAX_RATE_BPS",
  "TALLY_VOID_WINDOW_SECS", "TALLY_IDEMPOTENCY_TTL_SECS", "TALLY_COMMIT_RETRIES",
  "TALLY_RECOMMENDATIONS_ENABLED", "TALLY_RECOMMENDATIONS_TTL_SECS", "TALLY_CACHE_POPULATE",
  "TALLY_REDIS_URL"]

/-- A whole number without a minus, up to a bound: digits, perhaps after a plus. -/
def natOf? (high : Nat) (s : String) : Option Nat :=
  let digits := match s.toList with
    | '+' :: rest => rest
    | cs => cs
  if digits.isEmpty || !digits.all Char.isDigit then none
  else if Json.ofDigits digits ≤ high then some (Json.ofDigits digits) else none

/-- A whole number that 64 bits hold: digits, perhaps after a sign. -/
def intOf? (s : String) : Option Int :=
  let (negative, digits) := Toml.splitSign s.toList
  if digits.isEmpty || !digits.all Char.isDigit then none
  else Cents.checked (if negative then -(Json.ofDigits digits : Int) else Json.ofDigits digits)

/-- A truth value. -/
def boolOf? (s : String) : Option Bool :=
  if s = "true" then some true else if s = "false" then some false else none

/-- A setting of the environment, or the given one. -/
def override {α : Type} (env : Environment) (name : String) (read : String → Option α)
    (otherwise : α) : α :=
  ((env name) >>= read).getD otherwise

/-- The address of a shared cache, or none if it is empty. -/
def redisUrlOf (s : String) : Option String := if s = "" then none else some s

/-- The settings with those of the environment. -/
def withEnvironment (s : Settings) (env : Environment) : Settings :=
  { s with
    storeId := override env "TALLY_STORE_ID" some s.storeId
    path := override env "TALLY_DB_PATH" some s.path
    connections :=
      override env "TALLY_DB_MAX_CONNECTIONS" (natOf? Json.greatest32) s.connections
    rate := ⟨override env "TALLY_TAX_RATE_BPS" (natOf? Json.greatest32) s.rate.bps⟩
    voidWindow := override env "TALLY_VOID_WINDOW_SECS" intOf? s.voidWindow
    keyLifetime := override env "TALLY_IDEMPOTENCY_TTL_SECS" intOf? s.keyLifetime
    retry := { s.retry with
      retries := override env "TALLY_COMMIT_RETRIES" (natOf? Json.greatest32) s.retry.retries }
    suggests := override env "TALLY_RECOMMENDATIONS_ENABLED" boolOf? s.suggests
    cacheLifetime :=
      override env "TALLY_RECOMMENDATIONS_TTL_SECS" (natOf? Json.greatest64) s.cacheLifetime
    populate := override env "TALLY_CACHE_POPULATE" PopulateMode.ofAnyCase? s.populate
    redisUrl := override env "TALLY_REDIS_URL" (fun url => some (redisUrlOf url)) s.redisUrl }

/-- The settings in the text of a file. -/
def ofText? (path text : String) : Option Settings := Toml.parse? text >>= ofJson? path

/-- Loads settings, given the path of the data that is used when none is named. -/
def load (path : String) (text : Option String) (env : Environment) : Except Failure Settings := do
  let s ← match text with
    | some text => (match ofText? path text with
      | some s => .ok s
      | none => .error .unreadable)
    | none => .ok { path }
  let s := s.withEnvironment env
  match s.check with
  | .ok () => .ok s
  | .error problem => .error (.invalid problem)

/-- Saves settings. -/
def save (s : Settings) : Except Failure String :=
  match Toml.render? s.tables with
  | some text => .ok text
  | none => .error .unwritable

end Settings

end Till
