import Till.Rejection

/-!
# The cache of suggestions

A `MemoryCache` keeps texts by key until they expire, on a clock that counts milliseconds.

* `MemoryCache.get` : the text under a key, as long as it has not expired;
* `MemoryCache.set` : puts a text under a key.  When a new key comes and the cache is full, the
  expired entries go; if it is still full, the entry that would expire first goes as well.

`Cache` is the cache that a till works with: one in memory, none at all, or one that is offline.
-/

namespace Till

/-- A text that is kept until it expires. -/
structure CacheEntry where
  /-- The key. -/
  key : String
  /-- The text. -/
  text : String
  /-- When it expires, in milliseconds. -/
  expiry : Nat
  deriving DecidableEq, Repr

/-- A cache in memory. -/
structure MemoryCache where
  /-- The most entries it keeps. -/
  capacity : Nat
  /-- The entries, by the time at which they were put in. -/
  entries : List CacheEntry := []
  deriving DecidableEq, Repr

namespace CacheEntry

/-- An entry is live before its expiry. -/
def isLive (now : Nat) (e : CacheEntry) : Bool := decide (now < e.expiry)

end CacheEntry

namespace MemoryCache

/-- An empty cache for at least one entry. -/
def ofCapacity (capacity : Nat) : MemoryCache := ⟨if capacity = 0 then 1 else capacity, []⟩

/-- An empty cache of the usual size. -/
def standard : MemoryCache := ofCapacity 4096

/-- The last instant of the clock. -/
def lastInstant : Nat := 9223372028264841216000

/-- The entry under a key. -/
def entry? (c : MemoryCache) (key : String) : Option CacheEntry :=
  c.entries.find? fun e => e.key == key

/-- The cache without the entry under a key. -/
def remove (c : MemoryCache) (key : String) : MemoryCache :=
  { c with entries := c.entries.filter fun e => !(e.key == key) }

/-- The live text under a key; an entry that has expired goes. -/
def get (c : MemoryCache) (now : Nat) (key : String) : Option String × MemoryCache :=
  match c.entry? key with
  | some e => if e.isLive now then (some e.text, c) else (none, c.remove key)
  | none => (none, c)

/-- Whether the cache is full. -/
def isFull (c : MemoryCache) : Bool := decide (c.capacity ≤ c.entries.length)

/-- The entry that expires first. -/
def soonest? : List CacheEntry → Option CacheEntry
  | [] => none
  | e :: rest =>
    match soonest? rest with
    | some f => if f.expiry < e.expiry then some f else some e
    | none => some e

/-- The cache without the entry that expires first. -/
def evict (c : MemoryCache) : MemoryCache :=
  match soonest? c.entries with
  | some e => c.remove e.key
  | none => c

/-- The cache without expired entries. -/
def prune (c : MemoryCache) (now : Nat) : MemoryCache :=
  { c with entries := c.entries.filter (CacheEntry.isLive now) }

/-- The cache with room for a key. -/
def makeRoom (c : MemoryCache) (now : Nat) (key : String) : MemoryCache :=
  if c.isFull && (c.entry? key).isNone then
    let pruned := c.prune now
    if pruned.isFull then pruned.evict else pruned
  else c

/-- Puts an entry in, in place of the one under its key. -/
def put (c : MemoryCache) (e : CacheEntry) : MemoryCache :=
  { c with entries := (c.remove e.key).entries ++ [e] }

/-- Puts a text under a key for a lifetime. -/
def set (c : MemoryCache) (now : Nat) (key text : String) (lifetime : Nat) :
    Result Unit × MemoryCache :=
  let roomy := c.makeRoom now key
  if now + lifetime ≤ lastInstant then (.ok (), roomy.put ⟨key, text, now + lifetime⟩)
  else (.error .overflow, roomy)

/-- The number of live entries. -/
def size (c : MemoryCache) (now : Nat) : Nat := (c.prune now).entries.length

end MemoryCache

/-- The cache that a till works with. -/
inductive Cache where
  /-- A cache in memory. -/
  | memory (c : MemoryCache)
  /-- No cache: nothing is kept. -/
  | absent
  /-- A cache that cannot be reached. -/
  | offline
  deriving DecidableEq, Repr

namespace Cache

/-- The refusal of a cache that cannot be reached. -/
def unreachable : Rejection := .unavailable "cache offline"

/-- Reads the text under a key. -/
def read (c : Cache) (now : Nat) (key : String) : Result (Option String) × Cache :=
  match c with
  | memory m =>
    let (found, m) := m.get now key
    (.ok found, memory m)
  | absent => (.ok none, absent)
  | offline => (Outcome.reject unreachable, offline)

/-- Writes a text under a key for a lifetime. -/
def write (c : Cache) (now : Nat) (key text : String) (lifetime : Nat) : Result Unit × Cache :=
  match c with
  | memory m =>
    let (written, m) := m.set now key text lifetime
    (written, memory m)
  | absent => (.ok (), absent)
  | offline => (Outcome.reject unreachable, offline)

/-- The number of live entries, if the cache has entries. -/
def size? (c : Cache) (now : Nat) : Option Nat :=
  match c with
  | memory m => some (m.size now)
  | absent => none
  | offline => some 0

end Cache

end Till
