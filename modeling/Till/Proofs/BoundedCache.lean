import Mathlib.Data.List.Induction
import Mathlib.Data.List.Nodup
import Till.Proofs.Rows
import Till.Cache

/-!
# A cache that keeps so much and no more

A cache in memory is read and written, one time after another, on a clock that does not go back.
Expired entries stay until they are touched or room is needed, a text is put in place of the one
under its key without a look at the size, and a new key may cost an old entry its place.

Everything is derived from what one use can do to the entries (`MemoryCache.Effect`):

* `CacheUse.effect_apply` : what a use does;
* `CacheUse.mem_apply_iff` : which live entries there are after a use, told from those before;
* `MemoryCache.Stands` : an entry was the last one to be put in under its key, and was not evicted;
* `MemoryCache.Behaves`, `MemoryCache.run_behaves` : the size, what is found, and which entry goes
  when there is no room, after any uses.
-/

namespace Till

/-- A use of a cache in memory at an instant of its clock. -/
inductive CacheUse where
  /-- The text under a key is read. -/
  | get (now : Nat) (key : String)
  /-- A text is put under a key for a lifetime. -/
  | set (now : Nat) (key text : String) (lifetime : Nat)
  deriving DecidableEq, Repr

namespace CacheUse

/-- When the cache is used. -/
def now : CacheUse → Nat
  | get now _ => now
  | set now _ _ _ => now

/-- The cache after a use. -/
def apply (c : MemoryCache) : CacheUse → MemoryCache
  | get now key => (c.get now key).2
  | set now key text lifetime => (c.set now key text lifetime).2

/-- The clock can show when an entry that is put in expires. -/
def Fits : CacheUse → Prop
  | get _ _ => True
  | set now _ _ lifetime => now + lifetime ≤ MemoryCache.lastInstant

/-- A text is put under the key. -/
def Sets (key : String) : CacheUse → Prop
  | get _ _ => False
  | set _ key' _ _ => key' = key

/-- The entry is put in. -/
def Puts (e : CacheEntry) : CacheUse → Prop
  | get _ _ => False
  | set now key text lifetime => e = ⟨key, text, now + lifetime⟩

/-- **The live entry under a key is evicted**: it is there before a use, and no entry under the key
is there afterwards. -/
def Evicts (c : MemoryCache) (key : String) (u : CacheUse) : Prop :=
  (∃ e ∈ c.entries, e.key = key ∧ u.now < e.expiry) ∧ ∀ e ∈ (u.apply c).entries, e.key ≠ key

end CacheUse

namespace MemoryCache

/-- A cache as its uses leave it: each key has one entry, and no more entries are kept than fit. -/
structure Tidy (c : MemoryCache) : Prop where
  keys : (c.entries.map CacheEntry.key).Nodup
  size : c.entries.length ≤ c.capacity
  room : 0 < c.capacity

/-- **What a use does** to the entries of a cache. -/
inductive Effect (c : MemoryCache) : CacheUse → List CacheEntry → Prop where
  /-- Reading leaves the entries alone, -/
  | read {now : Nat} {key : String} : Effect c (.get now key) c.entries
  /-- or the entry that it finds has expired and goes. -/
  | expired {now : Nat} {e : CacheEntry} (mem : e ∈ c.entries) (old : e.expiry ≤ now) :
    Effect c (.get now e.key) (c.entries.erase e)
  /-- A text takes the place of the one under its key. -/
  | replaced {now : Nat} {key text : String} {lifetime : Nat}
    (stored : ∃ e ∈ c.entries, e.key = key) :
    Effect c (.set now key text lifetime)
      (c.entries.filter (fun e => !(e.key == key)) ++ [⟨key, text, now + lifetime⟩])
  /-- An entry with a new key comes in if there is room; -/
  | added {now : Nat} {key text : String} {lifetime : Nat} (new : ∀ e ∈ c.entries, e.key ≠ key)
    (room : c.entries.length < c.capacity) :
    Effect c (.set now key text lifetime) (c.entries ++ [⟨key, text, now + lifetime⟩])
  /-- if not, the expired entries go, -/
  | pruned {now : Nat} {key text : String} {lifetime : Nat} (new : ∀ e ∈ c.entries, e.key ≠ key)
    (room : (c.entries.filter (CacheEntry.isLive now)).length < c.capacity) :
    Effect c (.set now key text lifetime)
      (c.entries.filter (CacheEntry.isLive now) ++ [⟨key, text, now + lifetime⟩])
  /-- and if none has expired, one entry goes that would have expired first. -/
  | evicted {now : Nat} {key text : String} {lifetime : Nat} {e : CacheEntry}
    (new : ∀ e ∈ c.entries, e.key ≠ key) (full : c.entries.length = c.capacity)
    (live : ∀ f ∈ c.entries, now < f.expiry) (mem : e ∈ c.entries)
    (first : ∀ f ∈ c.entries, e.expiry ≤ f.expiry) :
    Effect c (.set now key text lifetime) (c.entries.erase e ++ [⟨key, text, now + lifetime⟩])

variable {c : MemoryCache} {e f : CacheEntry} {now lifetime : Nat} {key text : String}
  {entries : List CacheEntry} {u : CacheUse}

/-! ### Looking for an entry -/

theorem entry?_eq_none_iff : c.entry? key = none ↔ ∀ e ∈ c.entries, e.key ≠ key := by
  simp [ entry?]

theorem mem_of_entry?_eq_some (h : c.entry? key = some e) : e ∈ c.entries ∧ e.key = key :=
  ⟨List.mem_of_find?_eq_some h, by simpa using List.find?_some h⟩

theorem Tidy.eq_of_key_eq (h : c.Tidy) (he : e ∈ c.entries) (hf : f ∈ c.entries)
    (hkey : e.key = f.key) : e = f :=
  List.inj_on_of_nodup_map h.keys he hf hkey

theorem Tidy.entry?_eq_some_iff (h : c.Tidy) :
    c.entry? key = some e ↔ e ∈ c.entries ∧ e.key = key := by
  refine ⟨mem_of_entry?_eq_some, ?_⟩
  rintro ⟨hmem, hkey⟩
  cases hfound : c.entry? key with
  | none => exact absurd hkey (entry?_eq_none_iff.1 hfound e hmem)
  | some f =>
    obtain ⟨hf, hfkey⟩ := mem_of_entry?_eq_some hfound
    rw [h.eq_of_key_eq hf hmem (hfkey.trans hkey.symm)]

theorem get_of_none (h : c.entry? key = none) : c.get now key = (none, c) := by
  simp [get, h]

theorem get_of_live (h : c.entry? key = some e) (hlive : now < e.expiry) :
    c.get now key = (some e.text, c) := by
  simp [get, h, CacheEntry.isLive, hlive]

theorem get_of_expired (h : c.entry? key = some e) (hold : e.expiry ≤ now) :
    c.get now key = (none, c.remove key) := by
  simp [get, h, CacheEntry.isLive, hold]

/-- **What is read** is the text of the live entry under the key. -/
theorem Tidy.get_eq_some_iff (h : c.Tidy) :
    (c.get now key).1 = some text ↔
      ∃ e ∈ c.entries, e.key = key ∧ e.text = text ∧ now < e.expiry := by
  constructor
  · intro hread
    cases hfound : c.entry? key with
    | none => simp [get_of_none hfound] at hread
    | some e =>
      obtain ⟨he, hkey⟩ := mem_of_entry?_eq_some hfound
      by_cases hlive : now < e.expiry
      · rw [get_of_live hfound hlive] at hread
        exact ⟨e, he, hkey, Option.some.inj hread, hlive⟩
      · simp [get_of_expired hfound (Nat.le_of_not_lt hlive)] at hread
  · rintro ⟨e, he, hkey, rfl, hlive⟩
    rw [get_of_live (h.entry?_eq_some_iff.2 ⟨he, hkey⟩) hlive]

/-! ### Taking entries out -/

theorem Tidy.remove_eq_erase (h : c.Tidy) (he : e ∈ c.entries) :
    (c.remove e.key).entries = c.entries.erase e := by
  rw [(List.Nodup.of_map _ h.keys).erase_eq_filter]
  refine List.filter_congr ?_
  intro f hf
  by_cases hfe : f = e
  · simp [hfe]
  · have hkey : f.key ≠ e.key := fun hkey => hfe (h.eq_of_key_eq hf he hkey)
    rw [bne, beq_false_of_ne hkey, beq_false_of_ne hfe]

theorem remove_of_new (hnew : ∀ e ∈ entries, e.key ≠ key) :
    entries.filter (fun e => !(e.key == key)) = entries := by
  rw [List.filter_eq_self]
  intro e he
  simpa using hnew e he

theorem soonest?_eq_none_iff : soonest? entries = none ↔ entries = [] := by
  cases entries with
  | nil => simp [soonest?]
  | cons e entries =>
    rw [soonest?]
    cases soonest? entries <;> simp
    split <;> simp

/-- **The entry that goes** is one that expires first. -/
theorem soonest?_eq_some (h : soonest? entries = some e) :
    e ∈ entries ∧ ∀ f ∈ entries, e.expiry ≤ f.expiry := by
  induction entries generalizing e with
  | nil => cases h
  | cons g entries ih =>
    rw [soonest?] at h
    cases hrest : soonest? entries with
    | none =>
      obtain rfl : g = e := by simpa [hrest] using h
      simp [soonest?_eq_none_iff.1 hrest]
    | some f =>
      obtain ⟨hf, hfirst⟩ := ih hrest
      simp only [hrest] at h
      by_cases hlt : f.expiry < g.expiry
      · rw [if_pos hlt] at h
        obtain rfl := Option.some.inj h
        exact ⟨List.mem_cons_of_mem _ hf, List.forall_mem_cons.2 ⟨Nat.le_of_lt hlt, hfirst⟩⟩
      · rw [if_neg hlt] at h
        obtain rfl := Option.some.inj h
        refine ⟨List.mem_cons_self, List.forall_mem_cons.2 ⟨Nat.le_refl _, ?_⟩⟩
        intro f' hf'
        have := hfirst f' hf'
        omega

/-! ### What a use does -/

theorem set_of_fits (hfits : now + lifetime ≤ lastInstant) :
    (c.set now key text lifetime).2.entries =
      (c.makeRoom now key).entries.filter (fun e => !(e.key == key)) ++
        [⟨key, text, now + lifetime⟩] := by
  simp [set, hfits, put, remove]

theorem makeRoom_of_stored (h : ∃ e ∈ c.entries, e.key = key) : c.makeRoom now key = c := by
  have hsome : c.entry? key ≠ none := by simpa [entry?_eq_none_iff] using h
  simp [makeRoom, Option.isNone_iff_eq_none, hsome]

theorem makeRoom_of_room (h : c.entries.length < c.capacity) : c.makeRoom now key = c := by
  simp [makeRoom, isFull, h]

theorem makeRoom_of_full (hnew : ∀ e ∈ c.entries, e.key ≠ key)
    (hfull : c.capacity ≤ c.entries.length) :
    c.makeRoom now key = if (c.prune now).isFull then (c.prune now).evict else c.prune now := by
  simp [makeRoom, isFull, hfull, entry?_eq_none_iff.2 hnew]

/-- A cache that is full after expired entries went is full of live ones. -/
theorem Tidy.full_of_prune (h : c.Tidy) (hfull : (c.prune now).isFull = true) :
    c.prune now = c ∧ c.entries.length = c.capacity ∧ ∀ f ∈ c.entries, now < f.expiry := by
  have hle : c.capacity ≤ (c.entries.filter (CacheEntry.isLive now)).length :=
    of_decide_eq_true hfull
  have hfilter := List.length_filter_le (CacheEntry.isLive now) c.entries
  have hsize := h.size
  have hlive : ∀ f ∈ c.entries, CacheEntry.isLive now f = true :=
    List.length_filter_eq_length_iff.1 (by omega)
  refine ⟨?_, by omega, fun f hf => of_decide_eq_true (hlive f hf)⟩
  rw [prune, List.filter_eq_self.2 hlive]

theorem Tidy.evict_eq_erase (h : c.Tidy) (hne : c.entries ≠ []) :
    ∃ e ∈ c.entries, (∀ f ∈ c.entries, e.expiry ≤ f.expiry) ∧
      c.evict.entries = c.entries.erase e := by
  cases hsoonest : soonest? c.entries with
  | none => exact absurd (soonest?_eq_none_iff.1 hsoonest) hne
  | some e =>
    obtain ⟨he, hfirst⟩ := soonest?_eq_some hsoonest
    refine ⟨e, he, hfirst, ?_⟩
    rw [evict, hsoonest]
    exact h.remove_eq_erase he

theorem Tidy.effect_set (h : c.Tidy) (hfits : now + lifetime ≤ lastInstant) :
    Effect c (.set now key text lifetime) (c.set now key text lifetime).2.entries := by
  rw [set_of_fits hfits]
  by_cases hstored : ∃ e ∈ c.entries, e.key = key
  · rw [makeRoom_of_stored hstored]
    exact .replaced hstored
  · have hnew : ∀ e ∈ c.entries, e.key ≠ key := by simpa using hstored
    by_cases hroom : c.entries.length < c.capacity
    · rw [makeRoom_of_room hroom, remove_of_new hnew]
      exact .added hnew hroom
    · rw [makeRoom_of_full hnew (Nat.le_of_not_lt hroom)]
      by_cases hfull : (c.prune now).isFull = true
      · obtain ⟨hpruned, hlength, hlive⟩ := h.full_of_prune hfull
        have hne : c.entries ≠ [] := List.ne_nil_of_length_pos (hlength ▸ h.room)
        obtain ⟨e, he, hfirst, herase⟩ := h.evict_eq_erase hne
        rw [if_pos hfull, hpruned, herase,
          remove_of_new fun f hf => hnew f (List.mem_of_mem_erase hf)]
        exact .evicted hnew hlength hlive he hfirst
      · have hless : (c.entries.filter (CacheEntry.isLive now)).length < c.capacity :=
          Nat.lt_of_not_le fun hle => hfull (decide_eq_true hle)
        rw [if_neg hfull, prune, remove_of_new fun f hf => hnew f (List.mem_of_mem_filter hf)]
        exact .pruned hnew hless

theorem Tidy.effect_get (h : c.Tidy) : Effect c (.get now key) (c.get now key).2.entries := by
  cases hfound : c.entry? key with
  | none =>
    rw [get_of_none hfound]
    exact .read
  | some e =>
    obtain ⟨he, rfl⟩ := mem_of_entry?_eq_some hfound
    by_cases hlive : now < e.expiry
    · rw [get_of_live hfound hlive]
      exact .read
    · rw [get_of_expired hfound (Nat.le_of_not_lt hlive), h.remove_eq_erase he]
      exact .expired he (Nat.le_of_not_lt hlive)

end MemoryCache

namespace CacheUse

open MemoryCache

variable {c : MemoryCache} {e f : CacheEntry} {key : String} {entries : List CacheEntry}
  {u : CacheUse}

/-- **What a use does.** -/
theorem effect_apply (h : c.Tidy) (hfits : u.Fits) : Effect c u (u.apply c).entries := by
  cases u with
  | get now key => exact h.effect_get
  | set now key text lifetime => exact h.effect_set hfits

theorem capacity_apply (c : MemoryCache) (u : CacheUse) : (u.apply c).capacity = c.capacity := by
  have hroom : ∀ now key, (c.makeRoom now key).capacity = c.capacity := by
    intro now key
    simp only [makeRoom, evict]
    split
    · split
      · split <;> rfl
      · rfl
    · rfl
  cases u with
  | get now key =>
    rw [apply, MemoryCache.get]
    split
    · split <;> rfl
    · rfl
  | set now key text lifetime =>
    rw [apply, MemoryCache.set]
    split <;> exact hroom now key

/-- The entries after a use have keys of their own, and there are no more than fit. -/
theorem tidy_of_effect (h : c.Tidy) (heffect : Effect c u entries) :
    (entries.map CacheEntry.key).Nodup ∧ entries.length ≤ c.capacity := by
  have hsize := h.size
  -- Taking entries out leaves keys different, and a new key is none of them.
  have hsub : ∀ {es : List CacheEntry}, es.Sublist c.entries → (es.map CacheEntry.key).Nodup :=
    fun hes => h.keys.sublist (hes.map _)
  have hnew : ∀ {es : List CacheEntry} {e : CacheEntry}, es.Sublist c.entries →
      (∀ f ∈ es, f.key ≠ e.key) → ((es ++ [e]).map CacheEntry.key).Nodup := by
    intro es e hes hne
    refine Rows.nodup_concat (hsub hes) ?_
    intro hmem
    obtain ⟨f, hf, hkey⟩ := List.mem_map.1 hmem
    exact hne f hf hkey
  cases heffect with
  | read => exact ⟨h.keys, hsize⟩
  | expired mem old =>
    exact ⟨hsub List.erase_sublist, (List.length_erase_le).trans hsize⟩
  | @replaced now key text lifetime stored =>
    obtain ⟨e, he, hkey⟩ := stored
    have hless : (c.entries.filter fun e => !(e.key == key)).length < c.entries.length := by
      refine List.length_filter_lt_length_iff_exists.2 ⟨e, he, ?_⟩
      simp [hkey]
    refine ⟨hnew List.filter_sublist ?_, by simp; omega⟩
    intro f hf
    simpa using (List.mem_filter.1 hf).2
  | added new room => exact ⟨hnew (List.Sublist.refl _) new, by simp; omega⟩
  | pruned new room =>
    exact ⟨hnew List.filter_sublist fun f hf => new f (List.mem_of_mem_filter hf), by simp; omega⟩
  | evicted new full live mem first =>
    have hroom := h.room
    refine ⟨hnew List.erase_sublist fun f hf => new f (List.mem_of_mem_erase hf), ?_⟩
    rw [List.length_append, List.length_erase_of_mem mem, List.length_singleton]
    omega

theorem tidy_apply (h : c.Tidy) (hfits : u.Fits) : (u.apply c).Tidy := by
  obtain ⟨hkeys, hsize⟩ := tidy_of_effect h (effect_apply h hfits)
  exact ⟨hkeys, capacity_apply c u ▸ hsize, capacity_apply c u ▸ h.room⟩

/-- An entry after a use was put in, or it was there before and no text was put under its key. -/
theorem mem_of_effect (heffect : Effect c u entries) (he : e ∈ entries) :
    u.Puts e ∨ e ∈ c.entries ∧ ¬u.Sets e.key := by
  have hset : ∀ {es : List CacheEntry} {now key text lifetime}, u = .set now key text lifetime →
      (∀ f ∈ es, f ∈ c.entries ∧ f.key ≠ key) → e ∈ es ++ [⟨key, text, now + lifetime⟩] →
      u.Puts e ∨ e ∈ c.entries ∧ ¬u.Sets e.key := by
    rintro es now key text lifetime rfl hes hmem
    rcases List.mem_append.1 hmem with hmem | hmem
    · obtain ⟨hold, hne⟩ := hes e hmem
      exact .inr ⟨hold, Ne.symm hne⟩
    · exact .inl (List.mem_singleton.1 hmem)
  cases heffect with
  | read => exact .inr ⟨he, id⟩
  | expired mem old => exact .inr ⟨List.mem_of_mem_erase he, id⟩
  | replaced stored =>
    refine hset rfl ?_ he
    intro f hf
    simpa using List.mem_filter.1 hf
  | added new room => exact hset rfl (fun f hf => ⟨hf, new f hf⟩) he
  | pruned new room =>
    refine hset rfl ?_ he
    intro f hf
    exact ⟨List.mem_of_mem_filter hf, new f (List.mem_of_mem_filter hf)⟩
  | evicted new full live mem first =>
    refine hset rfl ?_ he
    intro f hf
    exact ⟨List.mem_of_mem_erase hf, new f (List.mem_of_mem_erase hf)⟩

theorem mem_of_puts (heffect : Effect c u entries) (hputs : u.Puts e) : e ∈ entries := by
  cases heffect with
  | read => exact hputs.elim
  | expired => exact hputs.elim
  | replaced | added | pruned | evicted =>
    obtain rfl := hputs
    exact List.mem_append_right _ (List.mem_singleton_self _)

/-- **The live entries after a use**: the one that was put in, and those that were there before, if
their keys got no other text and they were not evicted. -/
theorem mem_apply_iff (h : c.Tidy) (hfits : u.Fits) (hlive : u.now < e.expiry) :
    e ∈ (u.apply c).entries ↔
      u.Puts e ∨ e ∈ c.entries ∧ ¬u.Sets e.key ∧ ¬u.Evicts c e.key := by
  have hafter : ∀ {f}, f ∈ (u.apply c).entries → u.Puts f ∨ f ∈ c.entries ∧ ¬u.Sets f.key :=
    mem_of_effect (effect_apply h hfits)
  constructor
  · intro he
    refine (hafter he).imp_right ?_
    rintro ⟨hold, hset⟩
    exact ⟨hold, hset, fun hevicts => hevicts.2 e he rfl⟩
  · rintro (hputs | ⟨hold, hset, hevicts⟩)
    · exact mem_of_puts (effect_apply h hfits) hputs
    · by_contra hgone
      refine hevicts ⟨⟨e, hold, rfl, hlive⟩, ?_⟩
      -- Another entry under the key would have been put in, or there would have been two before.
      intro f hf hkey
      rcases hafter hf with hputs | ⟨hf', -⟩
      · cases u with
        | get now key => exact hputs
        | set now key text lifetime =>
          obtain rfl := hputs
          exact hset hkey
      · exact hgone (h.eq_of_key_eq hf' hold hkey ▸ hf)

/-- **A use evicts** only if it brings a new key into a cache full of live entries; then exactly one
entry goes, and it would have expired first. -/
structure MakesRoom (c : MemoryCache) (u : CacheUse) (e new : CacheEntry) : Prop where
  puts : u.Puts new
  fresh : ∀ f ∈ c.entries, f.key ≠ new.key
  full : c.entries.length = c.capacity
  live : ∀ f ∈ c.entries, u.now < f.expiry
  mem : e ∈ c.entries
  first : ∀ f ∈ c.entries, e.expiry ≤ f.expiry
  after : (u.apply c).entries = c.entries.erase e ++ [new]

theorem makesRoom_of_evicts (h : c.Tidy) (hfits : u.Fits) (hevicts : u.Evicts c key) :
    ∃ e new, e.key = key ∧ u.MakesRoom c e new := by
  obtain ⟨⟨e, he, rfl, hlive⟩, hgone⟩ := hevicts
  have heffect := effect_apply h hfits
  have hnot : e ∉ (u.apply c).entries := fun hmem => hgone e hmem rfl
  generalize hafter : (u.apply c).entries = after at heffect hgone hnot
  -- In all cases but the last one a live entry stays, or the new one has its key.
  cases heffect with
  | read => exact absurd he hnot
  | @expired now f mem old =>
    have hne : e ≠ f := by
      rintro rfl
      exact absurd hlive (Nat.not_lt.2 old)
    exact absurd ((List.mem_erase_of_ne hne).2 he) hnot
  | @replaced now key text lifetime stored =>
    by_cases hkey : e.key = key
    · exact absurd hkey.symm (hgone ⟨key, text, now + lifetime⟩ (by simp))
    · exact absurd (List.mem_append_left _ (List.mem_filter.2 ⟨he, by simpa using hkey⟩)) hnot
  | added new room => exact absurd (List.mem_append_left _ he) hnot
  | @pruned now key text lifetime new room =>
    have hkept : e ∈ c.entries.filter (CacheEntry.isLive now) :=
      List.mem_filter.2 ⟨he, decide_eq_true hlive⟩
    exact absurd (List.mem_append_left _ hkept) hnot
  | @evicted now key text lifetime f new full live mem first =>
    by_cases hef : e = f
    · obtain rfl := hef
      exact ⟨e, _, rfl, rfl, new, full, live, mem, first, hafter⟩
    · exact absurd (List.mem_append_left _ ((List.mem_erase_of_ne hef).2 he)) hnot

/-- **A text that takes the place of another one** leaves the other entries alone. -/
theorem mem_apply_of_stored (h : c.Tidy) (hfits : u.Fits) (hstored : ∃ e ∈ c.entries, u.Sets e.key)
    (he : e ∈ c.entries) (hset : ¬u.Sets e.key) : e ∈ (u.apply c).entries := by
  obtain ⟨f, hf, hsets⟩ := hstored
  have heffect := effect_apply h hfits
  generalize (u.apply c).entries = after at heffect
  cases heffect with
  | read => exact he
  | expired => exact hsets.elim
  | replaced stored =>
    refine List.mem_append_left _ (List.mem_filter.2 ⟨he, ?_⟩)
    simpa using Ne.symm hset
  | added new | pruned new | evicted new => exact absurd hsets.symm (new f hf)

end CacheUse

namespace MemoryCache

variable {c : MemoryCache} {e f : CacheEntry} {uses : List CacheUse} {u : CacheUse}

/-! ### One use after another -/

/-- The cache after uses. -/
def run (c : MemoryCache) (uses : List CacheUse) : MemoryCache := uses.foldl CacheUse.apply c

/-- **An entry stands** after uses: it was put in by the last use that put a text under its key, and
no use evicted it since. -/
def Stands (c : MemoryCache) (uses : List CacheUse) (e : CacheEntry) : Prop :=
  ∃ before u since, uses = before ++ u :: since ∧ u.Puts e ∧
    (∀ u' ∈ since, ¬u'.Sets e.key) ∧
    ∀ mid u' rest, since = mid ++ u' :: rest → ¬u'.Evicts (c.run (before ++ u :: mid)) e.key

@[simp] theorem run_nil (c : MemoryCache) : c.run [] = c := rfl

theorem run_concat (c : MemoryCache) (uses : List CacheUse) (u : CacheUse) :
    c.run (uses ++ [u]) = u.apply (c.run uses) := by
  simp [run]

theorem not_stands_nil (c : MemoryCache) (e : CacheEntry) : ¬c.Stands [] e := by
  rintro ⟨before, u, since, huses, -⟩
  simp at huses

/-- **What stands after one more use.** -/
theorem stands_concat_iff :
    c.Stands (uses ++ [u]) e ↔
      u.Puts e ∨ c.Stands uses e ∧ ¬u.Sets e.key ∧ ¬u.Evicts (c.run uses) e.key := by
  constructor
  · rintro ⟨before, u', since, huses, hputs, hset, hevicts⟩
    rcases Rows.append_cons_eq_concat huses with ⟨-, -, rfl⟩ | ⟨since, rfl, rfl⟩
    · exact .inl hputs
    · refine .inr ⟨⟨before, u', since, rfl, hputs, ?_, ?_⟩, hset u (by simp), ?_⟩
      · exact fun v hv => hset v (List.mem_append_left _ hv)
      · exact fun mid v rest hsince => hevicts mid v (rest ++ [u]) (by simp [hsince])
      · exact hevicts since u [] rfl
  · rintro (hputs | ⟨⟨before, u', since, rfl, hputs, hset, hevicts⟩, hset', hevicts'⟩)
    · exact ⟨uses, u, [], rfl, hputs, by simp, by simp⟩
    · refine ⟨before, u', since ++ [u], by simp, hputs, ?_, ?_⟩
      · intro v hv
        rcases List.mem_append.1 hv with hv | hv
        · exact hset v hv
        · exact List.mem_singleton.1 hv ▸ hset'
      · intro mid v rest hsince
        rcases Rows.append_cons_eq_concat hsince with ⟨-, rfl, rfl⟩ | ⟨rest, -, rfl⟩
        · exact hevicts'
        · exact hevicts mid v rest rfl

theorem tidy_ofCapacity (capacity : Nat) : (ofCapacity capacity).Tidy where
  keys := List.nodup_nil
  size := Nat.zero_le _
  room := by
    simp only [ofCapacity]
    split <;> omega

theorem capacity_ofCapacity (capacity : Nat) : (ofCapacity capacity).capacity = max capacity 1 := by
  simp only [ofCapacity]
  split <;> omega

theorem capacity_run (c : MemoryCache) (uses : List CacheUse) :
    (c.run uses).capacity = c.capacity := by
  induction uses using List.reverseRecOn with
  | nil => rfl
  | append_singleton uses u ih => rw [run_concat, CacheUse.capacity_apply, ih]

/-- **After any uses** keys differ and no more entries are kept than fit. -/
theorem tidy_run (h : c.Tidy) (hfits : ∀ u ∈ uses, u.Fits) : (c.run uses).Tidy := by
  induction uses using List.reverseRecOn with
  | nil => exact h
  | append_singleton uses u ih =>
    rw [run_concat]
    exact CacheUse.tidy_apply (ih fun v hv => hfits v (List.mem_append_left _ hv))
      (hfits u (by simp))

/-- **The live entries are those that stand**, at any instant after the uses. -/
theorem mem_run_iff {capacity now : Nat} (hfits : ∀ u ∈ uses, u.Fits)
    (hnow : ∀ u ∈ uses, u.now ≤ now) (hlive : now < e.expiry) :
    e ∈ ((ofCapacity capacity).run uses).entries ↔ (ofCapacity capacity).Stands uses e := by
  induction uses using List.reverseRecOn with
  | nil => simp [ofCapacity, not_stands_nil]
  | append_singleton uses u ih =>
    rw [List.forall_mem_append] at hfits hnow
    obtain ⟨hfits, hlast⟩ := hfits
    rw [List.forall_mem_singleton] at hlast
    have hlive' : u.now < e.expiry := Nat.lt_of_le_of_lt (hnow.2 u (by simp)) hlive
    rw [run_concat, stands_concat_iff, ← ih hfits hnow.1]
    exact CacheUse.mem_apply_iff (tidy_run (tidy_ofCapacity capacity) hfits) hlast hlive'

/-- **A cache behaves** after uses. -/
structure Behaves (capacity : Nat) (uses : List CacheUse) : Prop where
  /-- No more entries are kept than fit; at least one fits. -/
  size : ((ofCapacity capacity).run uses).entries.length ≤ max capacity 1
  /-- What is read under a key was put there last, has not expired and was not evicted since. -/
  reads : ∀ {now key text}, (∀ u ∈ uses, u.now ≤ now) →
    ((((ofCapacity capacity).run uses).get now key).1 = some text ↔
      ∃ e, (ofCapacity capacity).Stands uses e ∧ e.key = key ∧ e.text = text ∧ now < e.expiry)
  /-- A text for a key that is stored leaves all entries of other keys alone. -/
  overwrites : ∀ {u : CacheUse}, u.Fits →
    (∃ e ∈ ((ofCapacity capacity).run uses).entries, u.Sets e.key) →
    ∀ e ∈ ((ofCapacity capacity).run uses).entries, ¬u.Sets e.key →
      e ∈ (u.apply ((ofCapacity capacity).run uses)).entries
  /-- A use evicts only to make room, and then one entry that would have expired first. -/
  evicts : ∀ {u : CacheUse} {key}, u.Fits → u.Evicts ((ofCapacity capacity).run uses) key →
    ((ofCapacity capacity).run uses).entries.length = max capacity 1 ∧
      ∃ e new, e.key = key ∧ u.MakesRoom ((ofCapacity capacity).run uses) e new

/-- **A cache behaves after any uses**, of any size, as long as its clock can show when entries
expire. -/
theorem run_behaves (capacity : Nat) {uses : List CacheUse} (hfits : ∀ u ∈ uses, u.Fits) :
    Behaves capacity uses := by
  have htidy : ((ofCapacity capacity).run uses).Tidy := tidy_run (tidy_ofCapacity capacity) hfits
  have hcapacity : ((ofCapacity capacity).run uses).capacity = max capacity 1 := by
    rw [capacity_run, capacity_ofCapacity]
  refine ⟨hcapacity ▸ htidy.size, ?_, ?_, ?_⟩
  · intro now key text hnow
    rw [htidy.get_eq_some_iff]
    refine exists_congr fun e => ?_
    constructor
    · rintro ⟨he, hkey, htext, hlive⟩
      exact ⟨(mem_run_iff hfits hnow hlive).1 he, hkey, htext, hlive⟩
    · rintro ⟨hstands, hkey, htext, hlive⟩
      exact ⟨(mem_run_iff hfits hnow hlive).2 hstands, hkey, htext, hlive⟩
  · exact fun hu hstored e he hset => CacheUse.mem_apply_of_stored htidy hu hstored he hset
  · intro u key hu hevicts
    obtain ⟨e, new, hkey, hroom⟩ := CacheUse.makesRoom_of_evicts htidy hu hevicts
    exact ⟨hroom.full.trans hcapacity, e, new, hkey, hroom⟩

/-- With room for two, a third key costs the entry its place that would have expired first, and the
other one is still found. -/
theorem run_behaves_third :
    let uses : List CacheUse := [.set 0 "k-1" "first" 5, .set 1 "k-2" "second" 9]
    let third : CacheUse := .set 2 "k-3" "third" 9
    Behaves 2 (uses ++ [third]) ∧ third.Evicts ((ofCapacity 2).run uses) "k-1" ∧
      (((ofCapacity 2).run (uses ++ [third])).get 3 "k-2").1 = some "second" := by
  refine ⟨run_behaves 2 ?_, ?_, by decide⟩
  · simp [CacheUse.Fits, lastInstant]
  · unfold CacheUse.Evicts
    decide

end MemoryCache

end Till
