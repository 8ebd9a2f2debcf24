import Mathlib.Data.List.Induction
import Till.Engine.Basic
import Till.Proofs.CacheKeys
import Till.Proofs.JsonText
import Till.Proofs.Payloads

/-!
# A cache that advisors share

Advisors look into one cache, each under the key of its request, and put there what they computed.
What they find was written under the same key (`Consultation.ask_spec`), so an advisor gives what
was computed for its own store and its own set of products as long as keys tell requests from each
other.

* `Recommendations.ofText?_text` : recommendations survive being cached;
* `Consultation.TellsApart` : keys tell requests of a kind from each other, and a shared cache does;
* `Consultation.tellsApart_of_plain` : it does so for requests without separators in them;
* `Consultation.not_tellsApart_accepted` : it does not for all well-formed requests.
-/

namespace Till

/-! ### Recommendations in the cache -/

namespace Recommendations

variable {r : Recommendations}

theorem exact_toJson (h : ∀ i ∈ r.items, Cents.Fits i.score) : Json.Exact 3 r.toJson := by
  refine .obj (List.forall_mem_cons.2 ⟨.str .., List.forall_mem_cons.2 ⟨.arr ?_, by simp⟩⟩)
  intro j hj
  obtain ⟨i, hi, rfl⟩ := List.mem_map.1 hj
  obtain ⟨low, high⟩ := h i hi
  refine .obj (List.forall_mem_cons.2 ⟨.str .., List.forall_mem_cons.2 ⟨.int low ?_, by simp⟩⟩)
  exact high.trans (by decide)

theorem ofJson?_toJson (h : ∀ i ∈ r.items, Cents.Fits i.score) : ofJson? r.toJson = some r := by
  have hitem : ∀ i ∈ r.items, Suggestion.ofJson? i.toJson = some i := by
    intro i hi
    simp [Suggestion.ofJson?, Suggestion.toJson, Json.membersOnce?, Json.members?, Json.member,
      Json.find?, Json.int?_int (h i hi)]
  simp [ofJson?, toJson, Json.membersOnce?, Json.members?, Json.member, Json.find?,
    Json.list?_map hitem]

/-- **Recommendations survive being cached.** -/
theorem ofText?_text (h : ∀ i ∈ r.items, Cents.Fits i.score) : ofText? r.text = some r := by
  rw [ofText?, text, Json.parseLoosely?_print (exact_toJson h)]
  exact ofJson?_toJson h

end Recommendations

/-! ### What a cache holds -/

namespace MemoryCache

variable {m : MemoryCache} {now lifetime : Nat} {key text : String} {e : CacheEntry}

theorem mem_of_mem_remove (h : e ∈ (m.remove key).entries) : e ∈ m.entries :=
  (List.mem_filter.1 h).1

theorem mem_of_get_eq_some (h : (m.get now key).1 = some text) :
    ∃ e ∈ m.entries, e.key = key ∧ e.text = text := by
  unfold get at h
  split at h
  · next e hfound =>
    split at h
    · exact ⟨e, List.mem_of_find?_eq_some hfound, by simpa using List.find?_some hfound,
        Option.some.inj h⟩
    · cases h
  · cases h

theorem mem_of_mem_get (h : e ∈ (m.get now key).2.entries) : e ∈ m.entries := by
  unfold get at h
  split at h
  · split at h
    · exact h
    · exact mem_of_mem_remove h
  · exact h

theorem mem_of_mem_evict (h : e ∈ m.evict.entries) : e ∈ m.entries := by
  unfold evict at h
  split at h
  · exact mem_of_mem_remove h
  · exact h

/-- Room is made by leaving entries out. -/
theorem mem_of_mem_makeRoom (h : e ∈ (m.makeRoom now key).entries) : e ∈ m.entries := by
  have hprune : ∀ {e}, e ∈ (m.prune now).entries → e ∈ m.entries :=
    fun h => (List.mem_filter.1 h).1
  simp only [makeRoom] at h
  split_ifs at h
  · exact hprune (mem_of_mem_evict h)
  · exact hprune h
  · exact h

theorem mem_of_mem_set (h : e ∈ (m.set now key text lifetime).2.entries) :
    e ∈ m.entries ∨ e.key = key ∧ e.text = text := by
  simp only [set] at h
  split at h
  · rcases List.mem_append.1 h with hold | hnew
    · exact .inl (mem_of_mem_makeRoom (mem_of_mem_remove hold))
    · rw [List.mem_singleton.1 hnew]
      exact .inr ⟨rfl, rfl⟩
  · exact .inl (mem_of_mem_makeRoom h)

end MemoryCache

namespace Cache

variable {c : Cache} {now lifetime : Nat} {key text key' text' : String}

/-- The cache holds a text under a key. -/
def Holds (key text : String) : Cache → Prop
  | memory m => ∃ e ∈ m.entries, e.key = key ∧ e.text = text
  | absent => False
  | offline => False

/-- What a cache gives, it holds. -/
theorem holds_of_read (h : (c.read now key).1 = .ok (some text)) : c.Holds key text := by
  cases c with
  | memory m => exact MemoryCache.mem_of_get_eq_some (Except.ok.inj h)
  | absent => cases h
  | offline => cases h

/-- Reading brings nothing into a cache. -/
theorem holds_read (h : (c.read now key).2.Holds key' text') : c.Holds key' text' := by
  cases c with
  | memory m =>
    obtain ⟨e, he, hkey⟩ := h
    exact ⟨e, MemoryCache.mem_of_mem_get he, hkey⟩
  | absent => exact h
  | offline => exact h

/-- Writing brings the written text into a cache, under its key. -/
theorem holds_write (h : (c.write now key text lifetime).2.Holds key' text') :
    c.Holds key' text' ∨ key' = key ∧ text' = text := by
  cases c with
  | memory m =>
    obtain ⟨e, he, rfl, rfl⟩ := h
    exact (MemoryCache.mem_of_mem_set he).imp_left fun he => ⟨e, he, rfl, rfl⟩
  | absent => exact .inl h
  | offline => exact .inl h

end Cache

/-! ### Consultations -/

/-- A cache that advisors share, and its clock. -/
structure SharedCache where
  /-- The cache. -/
  cache : Cache
  /-- The clock, in milliseconds. -/
  uptime : Nat

/-- An advisor is asked about the products of a store. -/
structure Consultation where
  /-- The time since the cache was last used, in milliseconds. -/
  wait : Nat
  /-- The advisor. -/
  advisor : Advisor
  /-- What the source of the advisor suggests for the products of a store. -/
  source : String → List String → Nat → Result (List Suggestion)
  /-- Scores fit 64 bits. -/
  fits : ∀ {store products limit items}, source store products limit = .ok items →
    ∀ i ∈ items, Cents.Fits i.score
  /-- The store. -/
  store : String
  /-- The products. -/
  products : List String

namespace Consultation

/-- How the advisor uses the cache. -/
def access (q : Consultation) : AdvisorAccess SharedCache where
  read key := fun s =>
    let (found, cache) := s.cache.read s.uptime key
    (found, { s with cache })
  write key text lifetime := fun s =>
    let (written, cache) := s.cache.write s.uptime key text lifetime
    (written, { s with cache })
  suggest store products limit := Action.query fun _ => q.source store products limit

/-- The advisor answers. -/
def ask (q : Consultation) : Action SharedCache Recommendations := fun s =>
  q.advisor.recommend q.access q.store q.products { s with uptime := s.uptime + q.wait }

/-- The shared cache after consultations. -/
def run (qs : List Consultation) (s : SharedCache) : SharedCache :=
  qs.foldl (fun s q => (q.ask s).2) s

/-- The key that the advisor looks under. -/
def key (q : Consultation) : String := Advisor.cacheKey q.store q.products

/-- **What is computed** for a consultation: what the source suggests for its products, each asked
for once, under the name of its store. -/
structure Computes (q : Consultation) (r : Recommendations) : Prop where
  store : r.store = q.store
  items : q.source q.store (Text.sortedDistinct q.products) q.advisor.limit = .ok r.items

/-- Two consultations about one store and one set of products. -/
def SameRequest (q q' : Consultation) : Prop :=
  q.store = q'.store ∧ ∀ p, p ∈ q.products ↔ p ∈ q'.products

/-- **Requests of a kind are told apart**: their keys are equal exactly for one store and one set of
products, and with a cache that they share, which was empty before, an advisor gives no suggestions
or those that were computed for its own store and set of products. -/
structure TellsApart (kind : String → List String → Prop) : Prop where
  keys : ∀ {store store' products products'}, kind store products → kind store' products' →
    (Advisor.cacheKey store products = Advisor.cacheKey store' products' ↔
      store = store' ∧ ∀ p, p ∈ products ↔ p ∈ products')
  answers : ∀ {s : SharedCache} {qs : List Consultation} {q : Consultation} {r : Recommendations},
    (∀ key text, ¬s.cache.Holds key text) → (∀ q' ∈ qs ++ [q], kind q'.store q'.products) →
    (q.ask (run qs s)).1 = .ok r →
      r = Recommendations.none q.store ∨ ∃ q' ∈ qs ++ [q], q'.SameRequest q ∧ q'.Computes r

variable {q : Consultation} {p : String → String → Prop} {s : SharedCache} {r : Recommendations}

/-- All texts of the shared cache are of a kind, with their keys. -/
def AllHeld (p : String → String → Prop) (s : SharedCache) : Prop :=
  ∀ {key text}, s.cache.Holds key text → p key text

/-- **What an advisor gives** if all texts of the cache are of a kind: no suggestions, those that it
computes, or those in a text of that kind under its key. -/
inductive Gives (q : Consultation) (p : String → String → Prop) : Recommendations → Prop where
  | nothing : Gives q p (Recommendations.none q.store)
  | computed {r : Recommendations} (computes : q.Computes r) : Gives q p r
  | found {r : Recommendations} {text : String} (held : p q.key text)
    (read : Recommendations.ofText? text = some r) : Gives q p r

/-- Keeping fresh suggestions writes their text under the key. -/
theorem keep_spec (hheld : AllHeld p s) (hfresh : p q.key r.text) :
    AllHeld p (q.advisor.keep q.access q.key r s).2 ∧
      ∀ r', (q.advisor.keep q.access q.key r s).1 = .ok r' → r' = r := by
  have hwritten : AllHeld p (q.access.write q.key r.text q.advisor.lifetime s).2 := by
    intro key text h
    rcases Cache.holds_write h with h | ⟨rfl, rfl⟩
    · exact hheld h
    · exact hfresh
  unfold Advisor.keep
  split
  · next heq =>
    rw [heq] at hwritten
    exact ⟨hwritten, nofun⟩
  · next heq _ =>
    rw [heq] at hwritten
    exact ⟨hwritten, fun r' h => (Except.ok.inj h).symm⟩

theorem compute_spec (hheld : AllHeld p s) (hfresh : ∀ r, q.Computes r → p q.key r.text) :
    AllHeld p (q.advisor.compute q.access q.key q.store (Text.sortedDistinct q.products) s).2 ∧
      ∀ r, (q.advisor.compute q.access q.key q.store (Text.sortedDistinct q.products) s).1 = .ok r →
        q.Gives p r := by
  unfold Advisor.compute
  split
  · next items s' heq =>
    obtain ⟨hsource, rfl⟩ := Prod.mk.inj heq
    have hcomputes : q.Computes ⟨q.store, items⟩ := ⟨rfl, hsource⟩
    obtain ⟨hkept, hgiven⟩ := keep_spec hheld (hfresh _ hcomputes)
    exact ⟨hkept, fun r h => (hgiven r h) ▸ .computed hcomputes⟩
  · next heq =>
    obtain ⟨-, rfl⟩ := Prod.mk.inj heq
    exact ⟨hheld, fun r h => Except.ok.inj h ▸ .nothing⟩
  · next heq =>
    obtain ⟨-, rfl⟩ := Prod.mk.inj heq
    exact ⟨hheld, nofun⟩

theorem lookUp_spec (hheld : AllHeld p s) (hfresh : ∀ r, q.Computes r → p q.key r.text) :
    AllHeld p (q.advisor.lookUp q.access q.key q.store (Text.sortedDistinct q.products) s).2 ∧
      ∀ r, (q.advisor.lookUp q.access q.key q.store (Text.sortedDistinct q.products) s).1 = .ok r →
        q.Gives p r := by
  have hread : AllHeld p (q.access.read q.key s).2 := fun h => hheld (Cache.holds_read h)
  unfold Advisor.lookUp
  split
  · next text s' heq =>
    rw [heq] at hread
    have hfound : s.cache.Holds q.key text := Cache.holds_of_read (congrArg Prod.fst heq)
    split
    · next kept htext => exact ⟨hread, fun r h => Except.ok.inj h ▸ .found (hheld hfound) htext⟩
    · exact compute_spec hread hfresh
  · next heq =>
    rw [heq] at hread
    exact compute_spec hread hfresh
  · next heq =>
    rw [heq] at hread
    exact compute_spec hread hfresh
  · next heq =>
    rw [heq] at hread
    exact ⟨hread, nofun⟩

/-- **A consultation** leaves the texts of the cache of their kind if what it computes is. -/
theorem ask_spec (hheld : AllHeld p s) (hfresh : ∀ r, q.Computes r → p q.key r.text) :
    AllHeld p (q.ask s).2 ∧ ∀ r, (q.ask s).1 = .ok r → q.Gives p r := by
  unfold ask Advisor.recommend
  split
  · exact ⟨hheld, nofun⟩
  · split
    · exact ⟨hheld, fun r h => Except.ok.inj h ▸ .nothing⟩
    · exact lookUp_spec hheld hfresh

/-! ### Runs -/

variable {qs : List Consultation}

/-- A text that was written for one of the consultations, under its key. -/
def WrittenFor (qs : List Consultation) (key text : String) : Prop :=
  ∃ q ∈ qs, ∃ r, q.Computes r ∧ key = q.key ∧ text = r.text

/-- A consultation adds a text that was written for it. -/
theorem ask_written (q : Consultation) (hwritten : AllHeld (WrittenFor qs) s) :
    AllHeld (WrittenFor (qs ++ [q])) (q.ask s).2 ∧
      ∀ r, (q.ask s).1 = .ok r → q.Gives (WrittenFor (qs ++ [q])) r := by
  refine ask_spec ?_ ?_
  · intro key text h
    obtain ⟨q', hq', hr⟩ := hwritten h
    exact ⟨q', List.mem_append_left _ hq', hr⟩
  · intro r computes
    exact ⟨q, by simp, r, computes, rfl, rfl⟩

/-- **All texts of a cache** that was empty were written for the consultations of the run. -/
theorem run_written (hempty : ∀ key text, ¬s.cache.Holds key text) (qs : List Consultation) :
    AllHeld (WrittenFor qs) (run qs s) := by
  induction qs using List.reverseRecOn with
  | nil => exact fun h => absurd h (hempty _ _)
  | append_singleton qs q ih =>
    rw [run, List.foldl_append]
    exact (ask_written q ih).1

/-- **What an advisor gives** after consultations around an empty cache: no suggestions, or those
that were computed for a request with the same key. -/
theorem ask_run (hempty : ∀ key text, ¬s.cache.Holds key text)
    (h : (q.ask (run qs s)).1 = .ok r) :
    r = Recommendations.none q.store ∨ ∃ q' ∈ qs ++ [q], q'.key = q.key ∧ q'.Computes r := by
  cases (ask_written q (run_written hempty qs)).2 r h with
  | nothing => exact .inl rfl
  | computed computes => exact .inr ⟨q, by simp, rfl, computes⟩
  | found held read =>
    obtain ⟨q', hq', r', computes, hkey, rfl⟩ := held
    rw [Recommendations.ofText?_text (q'.fits computes.items)] at read
    exact .inr ⟨q', hq', hkey.symm, Option.some.inj read ▸ computes⟩

/-- **Plain requests are told apart**, whatever kind of them is made. -/
theorem tellsApart_of_plain {kind : String → List String → Prop}
    (hplain : ∀ store products, kind store products → Advisor.Plain store products) :
    TellsApart kind where
  keys h h' := Advisor.cacheKey_eq_iff (hplain _ _ h) (hplain _ _ h')
  answers := by
    intro s qs q r hempty hkind h
    refine (ask_run hempty h).imp_right ?_
    rintro ⟨q', hq', hkey, computes⟩
    have hq := hplain _ _ (hkind q (by simp))
    have hsame := (Advisor.cacheKey_eq_iff (hplain _ _ (hkind q' hq')) hq).1 hkey
    exact ⟨q', hq', hsame, computes⟩

/-- Two stores and two products have a key for each of the sets that are asked for. -/
theorem tellsApart_twoStores :
    Advisor.cacheKey "s-1" ["p-b", "p-a", "p-b"] = Advisor.cacheKey "s-1" ["p-a", "p-b"] ∧
      Advisor.cacheKey "s-1" ["p-a"] ≠ Advisor.cacheKey "s-2" ["p-a"] := by
  let kind (store : String) (products : List String) : Prop :=
    store ∈ ["s-1", "s-2"] ∧ products ∈ [["p-b", "p-a", "p-b"], ["p-a", "p-b"], ["p-a"]]
  have hplain : ∀ store products, kind store products → Advisor.Plain store products := by
    rintro store products ⟨hstore, hproducts⟩
    refine ⟨Advisor.accepted_iff.2 ⟨?_, ?_⟩, ?_, ?_⟩
    · revert store
      decide
    · revert products
      decide
    · revert store
      decide
    · revert products
      decide
  have hapart := tellsApart_of_plain hplain
  constructor
  · refine (hapart.keys ⟨by decide, by decide⟩ ⟨by decide, by decide⟩).2 ⟨rfl, ?_⟩
    intro p
    simp only [List.mem_cons, List.not_mem_nil]
    tauto
  · intro heq
    have hstore := ((hapart.keys ⟨by decide, by decide⟩ ⟨by decide, by decide⟩).1 heq).1
    exact absurd hstore (by decide)

/-! ### Requests that are not told apart -/

/-- An advisor that waits for the cache, and its source, which suggests tea, are asked about the
products of a store. -/
def aboutTea (store : String) (products : List String) : Consultation where
  wait := 0
  advisor := { populate := .inline }
  source := fun _ _ _ => .ok [⟨"tea", 1⟩]
  fits := by
    rintro _ _ _ _ heq
    obtain rfl := Except.ok.inj heq
    decide
  store := store
  products := products

/-- What is computed for the store `a`. -/
def teaForA : Recommendations := ⟨"a", [⟨"tea", 1⟩]⟩

/-- The cache after the store `a` was asked for: the suggestions stand under the key of its
request. -/
theorem ask_a :
    (aboutTea "a" ["b:c"]).ask ⟨.memory .standard, 0⟩ =
      (.ok teaForA,
        ⟨.memory ⟨4096, [⟨Advisor.cacheKey "a" ["b:c"], teaForA.text, 300000⟩]⟩, 0⟩) := by
  have hcheck := Advisor.cacheKey_colon.1
  rw [Advisor.Accepted] at hcheck
  simp only [ask, Advisor.recommend, aboutTea, Field.Check.run, hcheck, Outcome.ofCheck]
  rfl

/-- The store `a:b` is given what was computed for the store `a`. -/
theorem ask_aColon :
    ((aboutTea "a:b" ["c"]).ask (run [aboutTea "a" ["b:c"]] ⟨.memory .standard, 0⟩)).1 =
      .ok teaForA := by
  obtain ⟨-, hcheck, hkey⟩ := Advisor.cacheKey_colon
  rw [Advisor.Accepted] at hcheck
  have hread : Recommendations.ofText? teaForA.text = some teaForA :=
    Recommendations.ofText?_text (by decide)
  rw [run, List.foldl_cons, ask_a, List.foldl_nil]
  simp only [ask, Advisor.recommend, aboutTea, Field.Check.run, hcheck, Outcome.ofCheck]
  simp [Advisor.lookUp, access, Cache.read, MemoryCache.get, MemoryCache.entry?, CacheEntry.isLive,
    hkey, hread]

/-- **Well-formed requests are not all told apart**: the store `a:b` is given what was computed for
the store `a`. -/
theorem not_tellsApart_accepted : ¬TellsApart Advisor.Accepted := by
  intro h
  have hempty : ∀ key text, ¬(Cache.memory .standard).Holds key text := by
    rintro key text ⟨e, he, -⟩
    cases he
  have haccepted : ∀ q ∈ [aboutTea "a" ["b:c"]] ++ [aboutTea "a:b" ["c"]],
      Advisor.Accepted q.store q.products := by
    simpa using ⟨Advisor.cacheKey_colon.1, Advisor.cacheKey_colon.2.1⟩
  rcases h.answers hempty haccepted ask_aColon with hnone | ⟨q, -, ⟨hstore, -⟩, hcomputes⟩
  · cases congrArg Recommendations.items hnone
  · -- What is computed for the store names the store.
    have hname : "a" = "a:b" := hcomputes.store.trans hstore
    exact absurd hname (by decide)

end Consultation

end Till
