import Till.Settings.Basic

/-!
# Settings as a document

Settings are written as five tables: `store`, `database`, `pricing`, `lifecycle` and
`recommendations`.  A table or a setting that is missing has its usual value, except that a table
`store` has to name the store.

* `Settings.ofJson?` : reads settings;
* `Settings.tables` : settings as tables, without the address of a shared cache if there is none.
-/

namespace Till

namespace Settings

/-- Reads the table of the store onto settings. -/
def readStore (s : Settings) (j : Json) : Option Settings := do
  let m ← j.members? ["id", "name"] 1
  some { s with
    storeId := ← (Json.member "id" m).text?
    storeName := ← Json.memberOr "name" "" Json.text? m }

/-- Reads the table of the data onto settings. -/
def readDatabase (s : Settings) (j : Json) : Option Settings := do
  let m ← j.members? ["path", "max_connections"] 2
  some { s with
    path := ← Json.memberOr "path" s.path Json.text? m
    connections := ← Json.memberOr "max_connections" s.connections (Json.nat? Json.greatest32) m }

/-- Reads the table of pricing onto settings. -/
def readPricing (s : Settings) (j : Json) : Option Settings := do
  let m ← j.members? ["tax_rate_bps"] 1
  let bps ← Json.memberOr "tax_rate_bps" s.rate.bps (Json.nat? Json.greatest32) m
  some { s with rate := ⟨bps⟩ }

/-- Reads the table of times and tries onto settings. -/
def readLifecycle (s : Settings) (j : Json) : Option Settings := do
  let m ← j.members? ["void_window_secs", "idempotency_ttl_secs", "commit_retries",
    "initial_backoff_ms", "max_backoff_ms"] 5
  let voidWindow ← Json.memberOr "void_window_secs" s.voidWindow Json.int? m
  let keyLifetime ← Json.memberOr "idempotency_ttl_secs" s.keyLifetime Json.int? m
  let retries ← Json.memberOr "commit_retries" s.retry.retries (Json.nat? Json.greatest32) m
  let initialMillis ←
    Json.memberOr "initial_backoff_ms" s.retry.initialMillis (Json.nat? Json.greatest64) m
  let maxMillis ← Json.memberOr "max_backoff_ms" s.retry.maxMillis (Json.nat? Json.greatest64) m
  some { s with voidWindow, keyLifetime, retry := ⟨retries, initialMillis, maxMillis⟩ }

/-- Reads the table of suggestions onto settings. -/
def readRecommendations (s : Settings) (j : Json) : Option Settings := do
  let m ← j.members? ["enabled", "ttl_secs", "limit", "populate", "redis_url"] 5
  some { s with
    suggests := ← Json.memberOr "enabled" s.suggests Json.bool? m
    cacheLifetime := ← Json.memberOr "ttl_secs" s.cacheLifetime (Json.nat? Json.greatest64) m
    limit := ← Json.memberOr "limit" s.limit (Json.nat? Json.greatest32) m
    populate := ← Json.memberOr "populate" s.populate PopulateMode.ofJson? m
    redisUrl := ← Json.memberOr "redis_url" s.redisUrl (Json.nullable? Json.text?) m }

/-- Reads a table, if it is there, onto settings. -/
def readTable (name : String) (read : Settings → Json → Option Settings) (m : Json.Members)
    (s : Settings) : Option Settings :=
  Json.memberOr name s (read s) m

/-- Reads settings, given the path of the data that is used when none is named. -/
def ofJson? (path : String) (j : Json) : Option Settings := do
  let m ← j.members? ["store", "database", "pricing", "lifecycle", "recommendations"] 5
  let s ← readTable "store" readStore m { path }
  let s ← readTable "database" readDatabase m s
  let s ← readTable "pricing" readPricing m s
  let s ← readTable "lifecycle" readLifecycle m s
  readTable "recommendations" readRecommendations m s

/-- Settings as tables, with the given way to write that there is no shared cache. -/
def tablesWith (s : Settings) (redisUrl : Json.Members) : List (String × Json.Members) := [
  ("store", [("id", .str s.storeId), ("name", .str s.storeName)]),
  ("database", [("path", .str s.path), ("max_connections", .int s.connections)]),
  ("pricing", [("tax_rate_bps", .int s.rate.bps)]),
  ("lifecycle", [
    ("void_window_secs", .int s.voidWindow),
    ("idempotency_ttl_secs", .int s.keyLifetime),
    ("commit_retries", .int s.retry.retries),
    ("initial_backoff_ms", .int s.retry.initialMillis),
    ("max_backoff_ms", .int s.retry.maxMillis)]),
  ("recommendations", [
    ("enabled", .bool s.suggests),
    ("ttl_secs", .int s.cacheLifetime),
    ("limit", .int s.limit),
    ("populate", .str s.populate.text)] ++ redisUrl)]

/-- Settings as tables. -/
def tables (s : Settings) : List (String × Json.Members) :=
  s.tablesWith (match s.redisUrl with
    | some url => [("redis_url", .str url)]
    | none => [])

/-- The settings as JSON. -/
def toJson (s : Settings) : Json :=
  .obj ((s.tablesWith [("redis_url", Json.ofText? s.redisUrl)]).map fun t => (t.1, .obj t.2))

end Settings

end Till
