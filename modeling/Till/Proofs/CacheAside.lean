import Till.Proofs.Advice
import Till.Proofs.BoundedCache
import Till.Proofs.SharedCache
import Till.Proofs.Unadvised

/-!
# Looking into a cache first

An advisor looks under the key of a request, asks the source of suggestions only if nothing readable
is there, and then puts what it was given under the same key.  The cache may hold anything, and may
refuse, and so may the source: each request is answered, and nothing but fresh suggestions is put
into the cache.

An answer is told together with the contacts that it takes; `Advisor.noted` keeps a log of these.

* `Advisor.Serves` : an answer, and the contacts on the way to it;
* `Advisor.Serves.recommend` : what is served is what an advisor does;
* `Advisor.exists_serves` : each request is served, whatever refuses;
* `Consultation.ask_again` : with a cache in memory, a request that is made again has the same
  answer until that expires;
* `Advisor.CacheAside`, `Advisor.cacheAside` : all of this for any cache and any source.
-/

namespace Till

/-- A contact of an advisor with its surroundings. -/
inductive Contact where
  /-- The cache was read. -/
  | read (key : String)
  /-- A text was to be put into the cache. -/
  | write (key text : String) (lifetime : Nat)
  /-- The source was asked for suggestions. -/
  | suggest (store : String) (products : List String) (limit : Nat)
  deriving DecidableEq, Repr

namespace Advisor

variable {σ τ : Type}

/-- Access that keeps a log of all contacts. -/
def noted (access : AdvisorAccess σ) : AdvisorAccess (σ × List Contact) where
  read key := fun (s, log) =>
    let (found, s) := access.read key s
    (found, s, log ++ [.read key])
  write key text lifetime := fun (s, log) =>
    let (written, s) := access.write key text lifetime s
    (written, s, log ++ [.write key text lifetime])
  suggest store products limit := fun (s, log) =>
    let (suggested, s) := access.suggest store products limit s
    (suggested, s, log ++ [.suggest store products limit])

/-! ### What is served -/

/-- **Nothing readable is found** under a key: no text, one that is not readable, or a refusal. -/
inductive Misses (access : AdvisorAccess σ) (key : String) (s : σ) : σ → Prop where
  | absent {mid : σ} (read : access.read key s = (.ok none, mid)) : Misses access key s mid
  | unreadable {text : String} {mid : σ} (read : access.read key s = (.ok (some text), mid))
    (unreadable : Recommendations.ofText? text = none) : Misses access key s mid
  | refused (problem : Rejection) {mid : σ}
    (read : access.read key s = (.error (.rejected problem), mid)) : Misses access key s mid

/-- **A request is served**: the answer, the contacts that it took, and the state afterwards. -/
inductive Serves (a : Advisor) (access : AdvisorAccess σ) (store : String) (products : List String)
    (s : σ) : Recommendations → List Contact → σ → Prop where
  /-- For no products there are no suggestions. -/
  | nothing (unasked : products = []) :
    Serves a access store products s (Recommendations.none store) [] s
  /-- A readable text in the cache is the answer, and nothing else is done. -/
  | found {text : String} {r : Recommendations} {after : σ} (asked : products ≠ [])
    (read : access.read (cacheKey store products) s = (.ok (some text), after))
    (readable : Recommendations.ofText? text = some r) :
    Serves a access store products s r [.read (cacheKey store products)] after
  /-- If not, the source is asked.  If it refuses, there are no suggestions, -/
  | refused (problem : Rejection) {ids : List String} {mid after : σ} (asked : products ≠ [])
    (misses : Misses access (cacheKey store products) s mid) (inOrder : Text.InOrder products ids)
    (suggest : access.suggest store ids a.limit mid = (.error (.rejected problem), after)) :
    Serves a access store products s (Recommendations.none store)
      [.read (cacheKey store products), .suggest store ids a.limit] after
  /-- and what it suggests is the answer, which is put into the cache, readable, under the key that
  was read.  It does not matter if the cache refuses it. -/
  | computed {ids : List String} {items : List Suggestion} {written : Result Unit}
    {mid late after : σ} (asked : products ≠ [])
    (misses : Misses access (cacheKey store products) s mid) (inOrder : Text.InOrder products ids)
    (suggest : access.suggest store ids a.limit mid = (.ok items, late))
    (readable : Recommendations.ofText? (Recommendations.text ⟨store, items⟩) = some ⟨store, items⟩)
    (write : access.write (cacheKey store products) (Recommendations.text ⟨store, items⟩)
      a.lifetime late = (written, after))
    (safe : written ≠ .error .overflow) :
    Serves a access store products s ⟨store, items⟩
      [.read (cacheKey store products), .suggest store ids a.limit,
        .write (cacheKey store products) (Recommendations.text ⟨store, items⟩) a.lifetime] after

variable {a : Advisor} {view : σ → τ} {v : τ} {access : AdvisorAccess σ}
  {key store text : String} {products products' : List String} {s mid after later next : σ}
  {r : Recommendations} {contacts : List Contact} {lifetime : Nat}

@[simp] theorem noted_read (key : String) (s : σ) (log : List Contact) :
    (noted access).read key (s, log) =
      ((access.read key s).1, (access.read key s).2, log ++ [.read key]) := rfl

@[simp] theorem noted_write (key text : String) (lifetime : Nat) (s : σ) (log : List Contact) :
    (noted access).write key text lifetime (s, log) =
      ((access.write key text lifetime s).1, (access.write key text lifetime s).2,
        log ++ [.write key text lifetime]) := rfl

@[simp] theorem noted_suggest (store : String) (ids : List String) (limit : Nat) (s : σ)
    (log : List Contact) :
    (noted access).suggest store ids limit (s, log) =
      ((access.suggest store ids limit s).1, (access.suggest store ids limit s).2,
        log ++ [.suggest store ids limit]) := rfl

theorem Misses.lookUp (h : Misses access key s mid) (a : Advisor) (store : String)
    (ids : List String) :
    a.lookUp access key store ids s = a.compute access key store ids mid := by
  cases h with
  | absent read => simp [Advisor.lookUp, read]
  | unreadable read unreadable => simp [Advisor.lookUp, read, unreadable]
  | refused problem read => simp [Advisor.lookUp, read]

theorem Misses.noted (h : Misses access key s mid) (log : List Contact) :
    Misses (noted access) key (s, log) (mid, log ++ [.read key]) := by
  cases h with
  | absent read => exact .absent (by simp [read])
  | unreadable read unreadable => exact .unreadable (by simp only [noted_read, read]) unreadable
  | refused problem read => exact .refused problem (by simp only [noted_read, read])

theorem recommend_of_accepted (henabled : a.enabled = true) (haccepted : Accepted store products)
    (access : AdvisorAccess σ) (s : σ) :
    a.recommend access store products s =
      if products.isEmpty then (.ok (Recommendations.none store), s)
      else a.lookUp access (cacheKey store products) store (Text.sortedDistinct products) s := by
  rw [Accepted] at haccepted
  simp [recommend, Field.Check.run, haccepted, Outcome.ofCheck, henabled]

/-- **What is served is what the advisor does.** -/
theorem Serves.recommend (h : Serves a access store products s r contacts after)
    (henabled : a.enabled = true) (hinline : a.populate = .inline)
    (haccepted : Accepted store products) :
    a.recommend access store products s = (.ok r, after) := by
  rw [recommend_of_accepted henabled haccepted]
  cases h with
  | nothing unasked => simp [unasked]
  | found asked read readable => simp [asked, lookUp, read, readable]
  | refused problem asked misses inOrder suggest =>
    obtain rfl := Text.inOrder_iff.1 inOrder
    simp [asked, misses.lookUp, compute, suggest]
  | computed asked misses inOrder suggest readable write safe =>
    obtain rfl := Text.inOrder_iff.1 inOrder
    simp only [List.isEmpty_iff, asked, if_false, misses.lookUp, compute, suggest, keep, hinline,
      write]
    split <;> simp_all

/-- The contacts of a request are those that the log shows. -/
theorem Serves.noted (h : Serves a access store products s r contacts after) (log : List Contact) :
    Serves a (noted access) store products (s, log) r contacts (after, log ++ contacts) := by
  cases h with
  | nothing unasked => simpa using Serves.nothing unasked
  | found asked read readable => exact .found asked (by simp only [noted_read, read]) readable
  | refused problem asked misses inOrder suggest =>
    refine .refused problem asked (misses.noted log) inOrder ?_
    simp only [noted_suggest, suggest, List.append_assoc, List.cons_append, List.nil_append]
  | @computed ids items written mid late _ asked misses inOrder suggest readable write safe =>
    have hsuggest : (Advisor.noted access).suggest store ids a.limit
        (mid, log ++ [.read (cacheKey store products)]) =
        (.ok items, late,
          log ++ [.read (cacheKey store products), .suggest store ids a.limit]) := by
      simp [suggest]
    exact .computed asked (misses.noted log) inOrder hsuggest readable (by simp [write]) safe

/-! ### All requests are served -/

/-- **Access may be relied on** by an advisor in the states of a view: no number leaves its range
there, and the scores of suggestions fit 64 bits.  Each action may refuse. -/
structure Reliable (a : Advisor) (view : σ → τ) (v : τ) (access : AdvisorAccess σ) : Prop where
  keeps : AccessKeeps view access
  safe : AccessSafe a view v access
  scores : ∀ {store ids limit s items}, (access.suggest store ids limit s).1 = .ok items →
    ∀ i ∈ items, Cents.Fits i.score

/-- Reading finds something readable or misses. -/
theorem Reliable.read_cases (h : Reliable a view v access) (hs : view s = v) (key : String) :
    (∃ text r after, access.read key s = (.ok (some text), after) ∧
        Recommendations.ofText? text = some r) ∨
      ∃ mid, Misses access key s mid ∧ view mid = v := by
  have hkeeps := h.keeps.read key s
  have hsafe := h.safe.read key s hs
  rcases hread : access.read key s with ⟨(problem | _) | none | text, mid⟩
  all_goals
    rw [hread] at hkeeps hsafe
  · exact .inr ⟨mid, .refused problem hread, hkeeps.trans hs⟩
  · exact absurd rfl hsafe
  · exact .inr ⟨mid, .absent hread, hkeeps.trans hs⟩
  · cases htext : Recommendations.ofText? text with
    | none => exact .inr ⟨mid, .unreadable hread htext, hkeeps.trans hs⟩
    | some r => exact .inl ⟨text, r, mid, rfl, htext⟩

/-- **Each request is served**, whatever is found in the cache and whatever refuses. -/
theorem exists_serves (h : Reliable a view v access) (hinline : a.populate = .inline)
    (hs : view s = v) (store : String) (products : List String) :
    ∃ r contacts after, Serves a access store products s r contacts after := by
  by_cases hasked : products = []
  · exact ⟨_, _, s, .nothing hasked⟩
  have hinOrder := Text.inOrder_sortedDistinct products
  rcases h.read_cases hs (cacheKey store products) with
    ⟨text, r, after, hread, htext⟩ | ⟨mid, hmisses, hmid⟩
  · exact ⟨r, _, after, .found hasked hread htext⟩
  -- Nothing is found, so the source is asked.
  have hkeeps := h.keeps.suggest store (Text.sortedDistinct products) a.limit mid
  have hsafe := h.safe.suggest store (Text.sortedDistinct products) a.limit mid hmid
  rcases hsuggest : access.suggest store (Text.sortedDistinct products) a.limit mid with
    ⟨(problem | _) | items, late⟩
  · exact ⟨_, _, late, .refused problem hasked hmisses hinOrder hsuggest⟩
  · exact absurd (congrArg Prod.fst hsuggest) hsafe
  · rw [hsuggest] at hkeeps
    have hreadable : Recommendations.ofText? (Recommendations.text ⟨store, items⟩) =
        some ⟨store, items⟩ :=
      Recommendations.ofText?_text (h.scores (congrArg Prod.fst hsuggest))
    exact ⟨_, _, _, .computed hasked hmisses hinOrder hsuggest hreadable rfl
      (h.safe.write hinline _ _ late (hkeeps.trans hmid))⟩

/-! ### Requests that are alike -/

theorem Accepted.congr (h : Accepted store products) (hset : ∀ p, p ∈ products ↔ p ∈ products') :
    Accepted store products' := by
  obtain ⟨hstore, hproducts⟩ := accepted_iff.1 h
  exact accepted_iff.2 ⟨hstore, fun p hp => hproducts p ((hset p).2 hp)⟩

/-- **Only the set of products counts**, in all that is done. -/
theorem recommend_congr (henabled : a.enabled = true) (haccepted : Accepted store products)
    (hset : ∀ p, p ∈ products ↔ p ∈ products') (access : AdvisorAccess σ) :
    a.recommend access store products = a.recommend access store products' := by
  have haccepted' : Accepted store products' := haccepted.congr hset
  have hempty : products.isEmpty = products'.isEmpty := by
    rw [Bool.eq_iff_iff, List.isEmpty_iff, List.isEmpty_iff, List.eq_nil_iff_forall_not_mem,
      List.eq_nil_iff_forall_not_mem]
    exact forall_congr' fun p => not_congr (hset p)
  funext s
  rw [recommend_of_accepted henabled haccepted, recommend_of_accepted henabled haccepted', hempty,
    cacheKey_congr store hset, Text.sortedDistinct_eq_iff.2 hset]

/-- **What was put into the cache is the answer** as long as it is read there. -/
theorem Serves.again (h : Serves a access store products s r contacts after)
    (hwritten : .write key text lifetime ∈ contacts)
    (hread : access.read key later = (.ok (some text), next)) :
    Serves a access store products later r [.read key] next := by
  cases h with
  | nothing | found | refused => simp at hwritten
  | computed asked misses inOrder suggest readable write safe =>
    obtain ⟨rfl, rfl, rfl⟩ : key = cacheKey store products ∧ _ ∧ _ := by simpa using hwritten
    exact .found asked hread readable

end Advisor

namespace MemoryCache

/-- **What was put into a cache is found** until it expires. -/
theorem get_set {c : MemoryCache} {now now' lifetime : Nat} {key text : String}
    (hfits : now + lifetime ≤ lastInstant) (hlive : now' < now + lifetime) :
    ((c.set now key text lifetime).2.get now' key).1 = some text := by
  have hfound : MemoryCache.entry? (c.set now key text lifetime).2 key =
      some ⟨key, text, now + lifetime⟩ := by
    have hnone : List.find? (fun e => e.key == key)
        ((c.makeRoom now key).entries.filter fun e => !(e.key == key)) = none := by
      simp
    rw [ entry?, set_of_fits hfits, List.find?_append, hnone]
    simp
  rw [get_of_live hfound hlive]

end MemoryCache

namespace Consultation

open Advisor

variable {q q' : Consultation} {m : MemoryCache} {uptime : Nat} {items : List Suggestion}

/-- **A shared cache may be relied on** as long as its clock can show when an entry expires. -/
theorem reliable (hfits : uptime + q.advisor.lifetime ≤ MemoryCache.lastInstant)
    (hsource : ∀ store ids limit, q.source store ids limit ≠ .error .overflow) :
    Reliable q.advisor SharedCache.uptime uptime q.access where
  keeps := ⟨fun _ _ => rfl, fun _ _ _ _ => rfl, fun _ _ _ _ => rfl⟩
  safe := by
    have hsafe := Cache.access_safe fun _ : q.advisor.populate = .inline => hfits
    refine ⟨?_, ?_, fun store ids limit _ _ => hsource store ids limit⟩
    · rintro key s rfl
      exact hsafe.read s.cache key
    · rintro hinline key text s rfl
      exact hsafe.write hinline s.cache key text
  scores := fun h => q.fits h

theorem access_read {key : String} {found : Option String} (h : (m.get uptime key).1 = found) :
    q.access.read key ⟨.memory m, uptime⟩ =
      (.ok found, ⟨.memory (m.get uptime key).2, uptime⟩) := h ▸ rfl

theorem access_write (q : Consultation) (m : MemoryCache) (uptime : Nat) (key text : String)
    (lifetime : Nat) :
    q.access.write key text lifetime ⟨.memory m, uptime⟩ =
      ((m.set uptime key text lifetime).1,
        ⟨.memory (m.set uptime key text lifetime).2, uptime⟩) := rfl

/-- What is served if a cache in memory has no text for a request. -/
theorem serves_of_miss (hasked : q.products ≠ [])
    (hfits : uptime + q.advisor.lifetime ≤ MemoryCache.lastInstant)
    (hmiss : (m.get uptime q.key).1 = none)
    (hsource : q.source q.store (Text.sortedDistinct q.products) q.advisor.limit = .ok items) :
    Serves q.advisor q.access q.store q.products ⟨.memory m, uptime⟩ ⟨q.store, items⟩
      [.read q.key, .suggest q.store (Text.sortedDistinct q.products) q.advisor.limit,
        .write q.key (Recommendations.text ⟨q.store, items⟩) q.advisor.lifetime]
      ⟨.memory ((m.get uptime q.key).2.set uptime q.key (Recommendations.text ⟨q.store, items⟩)
        q.advisor.lifetime).2, uptime⟩ := by
  have hsuggest : q.access.suggest q.store (Text.sortedDistinct q.products) q.advisor.limit
      ⟨.memory (m.get uptime q.key).2, uptime⟩ =
        (.ok items, ⟨.memory (m.get uptime q.key).2, uptime⟩) := by
    rw [← hsource]
    rfl
  refine .computed hasked (.absent (access_read hmiss)) (Text.inOrder_sortedDistinct q.products)
    hsuggest (Recommendations.ofText?_text (q.fits hsource)) (access_write ..) ?_
  simp [MemoryCache.set, hfits]

/-- What is served if a cache in memory has a readable text for a request. -/
theorem serves_of_hit {text : String} {r : Recommendations} (hasked : q.products ≠ [])
    (hhit : (m.get uptime q.key).1 = some text)
    (hreadable : Recommendations.ofText? text = some r) :
    Serves q.advisor q.access q.store q.products ⟨.memory m, uptime⟩ r [.read q.key]
      ⟨.memory (m.get uptime q.key).2, uptime⟩ :=
  .found hasked (access_read hhit) hreadable

/-- **A request that is made again** before the lifetime is over has the same answer, whatever the
source would suggest by then, if a cache in memory had no text for it at first. -/
theorem ask_again (henabled : q.advisor.enabled = true) (hinline : q.advisor.populate = .inline)
    (haccepted : Accepted q.store q.products) (hasked : q.products ≠ [])
    (hfits : uptime + q.wait + q.advisor.lifetime ≤ MemoryCache.lastInstant)
    (hmiss : (m.get (uptime + q.wait) q.key).1 = none)
    (hsource : q.source q.store (Text.sortedDistinct q.products) q.advisor.limit = .ok items)
    (hsame : q.SameRequest q') (henabled' : q'.advisor.enabled = true)
    (hinline' : q'.advisor.populate = .inline) (hsoon : q'.wait < q.advisor.lifetime) :
    (q.ask ⟨.memory m, uptime⟩).1 = .ok ⟨q.store, items⟩ ∧
      (q'.ask (q.ask ⟨.memory m, uptime⟩).2).1 = .ok ⟨q.store, items⟩ := by
  obtain ⟨hstore, hset⟩ := hsame
  have hkey : q'.key = q.key := by rw [key, key, ← hstore, cacheKey_congr q.store hset]
  have haccepted' : Accepted q'.store q'.products := hstore ▸ haccepted.congr hset
  have hasked' : q'.products ≠ [] := by
    obtain ⟨p, hp⟩ := List.exists_mem_of_ne_nil _ hasked
    exact List.ne_nil_of_mem ((hset p).1 hp)
  have hask : q.ask ⟨.memory m, uptime⟩ = (.ok ⟨q.store, items⟩, _) :=
    (serves_of_miss hasked hfits hmiss hsource).recommend henabled hinline haccepted
  rw [hask]
  refine ⟨rfl, ?_⟩
  -- The text that was put in has not expired.
  have hhit : (((m.get (uptime + q.wait) q.key).2.set (uptime + q.wait) q.key
      (Recommendations.text ⟨q.store, items⟩) q.advisor.lifetime).2.get
        (uptime + q.wait + q'.wait) q'.key).1 = some (Recommendations.text ⟨q.store, items⟩) := by
    rw [hkey]
    exact MemoryCache.get_set hfits (Nat.add_lt_add_left hsoon _)
  have hserves := serves_of_hit hasked' hhit (Recommendations.ofText?_text (q.fits hsource))
  exact congrArg Prod.fst (hserves.recommend henabled' hinline' haccepted')

end Consultation

/-! ### Requests, one after another -/

namespace Advisor

variable {σ τ : Type} {a : Advisor} {view : σ → τ} {v : τ} {access : AdvisorAccess σ}

/-- **Requests are served from the cache first** by an advisor, in the states of a view. -/
structure CacheAside (a : Advisor) (view : σ → τ) (v : τ) (access : AdvisorAccess σ) : Prop where
  /-- An accepted request is served; it has an answer, and the log shows the contacts. -/
  serves : ∀ {store products s}, Accepted store products → view s = v →
    ∃ r contacts after, Serves a access store products s r contacts after ∧
      a.recommend access store products s = (.ok r, after) ∧
      ∀ log, a.recommend (noted access) store products (s, log) =
        (.ok r, after, log ++ contacts)
  /-- It is served as all others for the same set of products. -/
  alike : ∀ {store products products'}, Accepted store products →
    (∀ p, p ∈ products ↔ p ∈ products') →
    a.recommend access store products = a.recommend access store products' ∧
      a.recommend (noted access) store products = a.recommend (noted access) store products'
  /-- If a text was put into the cache and is read there, a request for the same set of products has
  the same answer, and reading is all that is done. -/
  again : ∀ {store products products' s r contacts after key text lifetime later next},
    Accepted store products → view s = v → (∀ p, p ∈ products ↔ p ∈ products') →
    a.recommend (noted access) store products (s, []) = (.ok r, after, contacts) →
    .write key text lifetime ∈ contacts → access.read key later = (.ok (some text), next) →
    a.recommend (noted access) store products' (later, []) = (.ok r, next, [.read key])

/-- **Requests are served from the cache first** by an advisor that suggests anything and waits for
the cache. -/
theorem cacheAside (h : Reliable a view v access) (henabled : a.enabled = true)
    (hinline : a.populate = .inline) : CacheAside a view v access where
  serves := by
    intro store products s haccepted hs
    obtain ⟨r, contacts, after, hserves⟩ := exists_serves h hinline hs store products
    exact ⟨r, contacts, after, hserves, hserves.recommend henabled hinline haccepted,
      fun log => (hserves.noted log).recommend henabled hinline haccepted⟩
  alike := fun haccepted hset =>
    ⟨recommend_congr henabled haccepted hset _, recommend_congr henabled haccepted hset _⟩
  again := by
    intro store products products' s r contacts after key text lifetime later next haccepted hs hset
      hfirst hwritten hread
    obtain ⟨r', contacts', after', hserves⟩ := exists_serves h hinline hs store products
    have hnoted := (hserves.noted []).recommend henabled hinline haccepted
    obtain ⟨hr, -, hcontacts⟩ : r' = r ∧ after' = after ∧ contacts' = contacts := by
      simpa [hfirst] using hnoted.symm
    subst hr hcontacts
    have hagain := (hserves.again hwritten hread).noted []
    rw [← recommend_congr henabled haccepted hset]
    exact hagain.recommend henabled hinline haccepted

/-- Tea is suggested to a store that asks for two products, and the suggestion is put into the
cache; a second request for the two finds it there. -/
theorem cacheAside_aboutTea :
    let q := Consultation.aboutTea "s-1" ["p-b", "p-a", "p-b"]
    CacheAside q.advisor SharedCache.uptime 0 q.access ∧
      ∃ r after next,
        q.advisor.recommend (noted q.access) "s-1" ["p-b", "p-a", "p-b"]
          (⟨.memory .standard, 0⟩, []) =
            (.ok r, after, [.read q.key, .suggest "s-1" ["p-a", "p-b"] 5,
              .write q.key r.text 300000]) ∧
        q.advisor.recommend (noted q.access) "s-1" ["p-a", "p-b"] (after, []) =
          (.ok r, next, [.read q.key]) := by
  intro q
  have hlive : 0 + 300000 ≤ MemoryCache.lastInstant := by decide
  have haside : CacheAside q.advisor SharedCache.uptime 0 q.access :=
    cacheAside (Consultation.reliable hlive nofun) rfl rfl
  have haccepted : Accepted "s-1" ["p-b", "p-a", "p-b"] := accepted_iff.2 (by decide)
  have hids : Text.sortedDistinct q.products = ["p-a", "p-b"] :=
    Text.inOrder_iff.1 ⟨by decide, by simp [q, Consultation.aboutTea]⟩
  have hset : ∀ p, p ∈ ["p-b", "p-a", "p-b"] ↔ p ∈ ["p-a", "p-b"] := by
    intro p
    simp only [List.mem_cons, List.not_mem_nil]
    tauto
  have hserves := Consultation.serves_of_miss (q := q) (m := .standard) (by decide) hlive rfl rfl
  rw [hids] at hserves
  have hfirst := (hserves.noted []).recommend rfl rfl haccepted
  exact ⟨haside, _, _, _, hfirst, haside.again haccepted rfl hset hfirst
    (List.mem_cons_of_mem _ (List.mem_cons_of_mem _ List.mem_cons_self))
    (Consultation.access_read (MemoryCache.get_set hlive (by decide)))⟩

end Advisor

end Till
