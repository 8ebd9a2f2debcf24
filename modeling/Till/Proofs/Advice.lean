import Till.Engine.Checkout

/-!
# Advice leaves the store alone

Giving suggestions reads and writes a cache and asks the store for sales, and changes nothing else.

* `Advisor.recommend_keeps` : what all access leaves alone, giving suggestions leaves alone;
* `Advisor.recommend_answers` : a well-formed request is answered, if no number leaves its range;
* `Advisor.recommend_ne_rejected` : a well-formed request is not refused;
* `Engine.withSuggestions_cases` : the receipt of a sale;
* `Engine.checkout_eq`, `Engine.checkout_of_error` : a checkout is a sale, and after a sale that was
  made advice is asked for;
* `Engine.checkout_store` : the store after a checkout is that after the sale.
-/

namespace Till

namespace Advisor

variable {σ τ : Type} {view : σ → τ} {access : AdvisorAccess σ}

/-- **Access leaves a view of the state alone** in all its actions. -/
structure AccessKeeps (view : σ → τ) (access : AdvisorAccess σ) : Prop where
  read : ∀ key s, view (access.read key s).2 = view s
  write : ∀ key text lifetime s, view (access.write key text lifetime s).2 = view s
  suggest : ∀ store products limit s, view (access.suggest store products limit s).2 = view s

theorem keep_keeps (h : AccessKeeps view access) (a : Advisor) (key : String)
    (fresh : Recommendations) (s : σ) : view (a.keep access key fresh s).2 = view s := by
  have hwrite := h.write key fresh.text a.lifetime s
  unfold keep
  generalize access.write key fresh.text a.lifetime s = written at hwrite
  obtain ⟨result, after⟩ := written
  split <;> simp_all

theorem compute_keeps (h : AccessKeeps view access) (a : Advisor) (key store : String)
    (products : List String) (s : σ) :
    view (a.compute access key store products s).2 = view s := by
  have hsuggest := h.suggest store products a.limit s
  unfold compute
  split
  · next heq => rw [keep_keeps h, ← hsuggest, heq]
  · next heq => rw [← hsuggest, heq]
  · next heq => rw [← hsuggest, heq]

theorem lookUp_keeps (h : AccessKeeps view access) (a : Advisor) (key store : String)
    (products : List String) (s : σ) :
    view (a.lookUp access key store products s).2 = view s := by
  have hread := h.read key s
  unfold lookUp
  split
  · next heq =>
    split
    · rw [← hread, heq]
    · rw [compute_keeps h, ← hread, heq]
  · next heq => rw [compute_keeps h, ← hread, heq]
  · next heq => rw [compute_keeps h, ← hread, heq]
  · next heq => rw [← hread, heq]

theorem recommend_keeps (h : AccessKeeps view access) (a : Advisor) (store : String)
    (products : List String) (s : σ) :
    view (a.recommend access store products s).2 = view s := by
  unfold recommend
  split
  · rfl
  · split
    · rfl
    · exact lookUp_keeps h ..

/-! ### Advice that never overflows -/

/-- **Access is safe** for an advisor in the states of a view: no number leaves its range there.  Of
what is put into the cache only that counts which the advisor waits for. -/
structure AccessSafe (a : Advisor) (view : σ → τ) (v : τ) (access : AdvisorAccess σ) : Prop where
  read : ∀ key s, view s = v → (access.read key s).1 ≠ .error .overflow
  write : a.populate = .inline → ∀ key text s, view s = v →
    (access.write key text a.lifetime s).1 ≠ .error .overflow
  suggest : ∀ store products limit s, view s = v →
    (access.suggest store products limit s).1 ≠ .error .overflow

variable {a : Advisor} {v : τ}

theorem keep_answers (h : AccessSafe a view v access) (key : String) (fresh : Recommendations)
    {s : σ} (hs : view s = v) : (a.keep access key fresh s).1 = .ok fresh := by
  unfold keep
  split
  · next hinline hwritten => exact absurd (congrArg Prod.fst hwritten) (h.write hinline _ _ s hs)
  · rfl

theorem compute_answers (keeps : AccessKeeps view access) (h : AccessSafe a view v access)
    (key store : String) (products : List String) {s : σ} (hs : view s = v) :
    ∃ r, (a.compute access key store products s).1 = .ok r := by
  have hsuggest := keeps.suggest store products a.limit s
  unfold compute
  split
  · next heq =>
    rw [heq, hs] at hsuggest
    exact ⟨_, keep_answers h key _ hsuggest⟩
  · exact ⟨_, rfl⟩
  · next heq => exact absurd (congrArg Prod.fst heq) (h.suggest _ _ _ s hs)

theorem lookUp_answers (keeps : AccessKeeps view access) (h : AccessSafe a view v access)
    (key store : String) (products : List String) {s : σ} (hs : view s = v) :
    ∃ r, (a.lookUp access key store products s).1 = .ok r := by
  have hread := keeps.read key s
  unfold lookUp
  split
  · next heq =>
    rw [heq, hs] at hread
    split
    · exact ⟨_, rfl⟩
    · exact compute_answers keeps h key store products hread
  · next heq =>
    rw [heq, hs] at hread
    exact compute_answers keeps h key store products hread
  · next heq =>
    rw [heq, hs] at hread
    exact compute_answers keeps h key store products hread
  · next heq => exact absurd (congrArg Prod.fst heq) (h.read key s hs)

/-- **A well-formed request is answered**, whatever the cache holds, and whether or not it and the
source of suggestions refuse. -/
theorem recommend_answers (keeps : AccessKeeps view access) (h : AccessSafe a view v access)
    {store : String} {products : List String} (hcheck : checkRequest store products = .ok ())
    {s : σ} (hs : view s = v) : ∃ r, (a.recommend access store products s).1 = .ok r := by
  unfold recommend
  rw [Field.Check.run, hcheck]
  simp only [Outcome.ofCheck]
  split
  · exact ⟨_, rfl⟩
  · exact lookUp_answers keeps h _ store _ hs

/-! ### Advice that is not refused -/

theorem keep_ne_rejected (a : Advisor) (access : AdvisorAccess σ) (key : String)
    (fresh : Recommendations) (s : σ) (problem : Rejection) :
    (a.keep access key fresh s).1 ≠ .error (.rejected problem) := by
  unfold keep
  split <;> nofun

theorem compute_ne_rejected (a : Advisor) (access : AdvisorAccess σ) (key store : String)
    (products : List String) (s : σ) (problem : Rejection) :
    (a.compute access key store products s).1 ≠ .error (.rejected problem) := by
  unfold compute
  split
  · apply keep_ne_rejected
  · nofun
  · nofun

theorem lookUp_ne_rejected (a : Advisor) (access : AdvisorAccess σ) (key store : String)
    (products : List String) (s : σ) (problem : Rejection) :
    (a.lookUp access key store products s).1 ≠ .error (.rejected problem) := by
  unfold lookUp
  split
  · split
    · nofun
    · apply compute_ne_rejected
  · apply compute_ne_rejected
  · apply compute_ne_rejected
  · nofun

/-- **A well-formed request is not refused**, whatever the cache and the source of suggestions
refuse. -/
theorem recommend_ne_rejected (a : Advisor) (access : AdvisorAccess σ) {store : String}
    {products : List String} (hcheck : checkRequest store products = .ok ()) (s : σ)
    (problem : Rejection) :
    (a.recommend access store products s).1 ≠ .error (.rejected problem) := by
  unfold recommend
  rw [Field.Check.run, hcheck]
  simp only [Outcome.ofCheck]
  split
  · nofun
  · apply lookUp_ne_rejected

/-- **An advisor that fills the cache in the background** never overflows, if the cache can be read
and asking for suggestions never does. -/
theorem recommend_ne_overflow {a : Advisor} (hbackground : a.populate = .background)
    (hread : ∀ key s, (access.read key s).1 ≠ .error .overflow)
    (hsuggest : ∀ store products limit s,
      (access.suggest store products limit s).1 ≠ .error .overflow) (store : String)
    (products : List String) (s : σ) :
    (a.recommend access store products s).1 ≠ .error .overflow := by
  have keeps : AccessKeeps (fun _ => ()) access :=
    ⟨fun _ _ => rfl, fun _ _ _ _ => rfl, fun _ _ _ _ => rfl⟩
  have safe : AccessSafe a (fun _ => ()) () access :=
    ⟨fun key s _ => hread key s, fun hinline => by simp [hbackground] at hinline,
      fun store products limit s _ => hsuggest store products limit s⟩
  cases hcheck : checkRequest store products with
  | ok =>
    obtain ⟨r, hr⟩ := recommend_answers keeps safe hcheck (s := s) rfl
    rw [hr]
    nofun
  | error problem =>
    simp [recommend, Field.Check.run, hcheck, Outcome.ofCheck, Outcome.reject]

end Advisor

namespace Engine

variable {κ : Type}

theorem advisorAccess_keeps (c : CacheAccess κ) :
    Advisor.AccessKeeps (fun w : World κ => (w.store, w.now)) (advisorAccess c) :=
  ⟨fun _ _ => rfl, fun _ _ _ _ => rfl, fun _ _ _ _ => rfl⟩

@[simp] theorem recommend_store (e : Engine) (c : CacheAccess κ) (actor : Actor) (cart : Cart)
    (w : World κ) : (e.recommend c actor cart w).2.store = w.store :=
  congrArg Prod.fst (Advisor.recommend_keeps (advisorAccess_keeps c) ..)

/-- **Suggestions never undo a sale**: the receipt is that of the transaction, unless a number of
the suggestions leaves its range, and the store stays as it is. -/
theorem withSuggestions_cases (e : Engine) (c : CacheAccess κ) (t : Transaction) (w : World κ) :
    ((∃ r, (e.withSuggestions c t w).1 = .ok ⟨t, r⟩) ∨
        (e.withSuggestions c t w).1 = .error .overflow) ∧
      (e.withSuggestions c t w).2.store = w.store := by
  have hkeeps := Advisor.recommend_keeps (advisorAccess_keeps c) e.advisor t.store
    (t.lines.map (·.product)) w
  unfold withSuggestions
  split
  · next r _ heq =>
    rw [heq] at hkeeps
    exact ⟨.inl ⟨r, rfl⟩, congrArg Prod.fst hkeeps⟩
  · next heq =>
    rw [heq] at hkeeps
    exact ⟨.inl ⟨_, rfl⟩, congrArg Prod.fst hkeeps⟩
  · next heq =>
    rw [heq] at hkeeps
    exact ⟨.inr rfl, congrArg Prod.fst hkeeps⟩

/-- A checkout is a sale, and then advice is asked for. -/
theorem checkout_eq (e : Engine) (c : CacheAccess κ) (ids : Ids) (actor : Actor) (cart : Cart)
    (key : String) {w : World κ} {t : Transaction} {after : Store}
    (h : e.sellOnce ids w.now actor cart key w.store = (.ok t, after)) :
    e.checkout c ids actor cart key w = e.withSuggestions c t { w with store := after } := by
  simp only [checkout, Action.andThen, World.onStore, h]

theorem checkout_of_error (e : Engine) (c : CacheAccess κ) (ids : Ids) (actor : Actor) (cart : Cart)
    (key : String) {w : World κ} {fault : Fault Rejection} {after : Store}
    (h : e.sellOnce ids w.now actor cart key w.store = (.error fault, after)) :
    e.checkout c ids actor cart key w = (.error fault, { w with store := after }) := by
  simp only [checkout, Action.andThen, World.onStore, h]

theorem checkout_store (e : Engine) (c : CacheAccess κ) (ids : Ids) (actor : Actor) (cart : Cart)
    (key : String) (w : World κ) :
    (e.checkout c ids actor cart key w).2.store =
      (e.sellOnce ids w.now actor cart key w.store).2 := by
  rcases hsold : e.sellOnce ids w.now actor cart key w.store with ⟨fault | t, after⟩
  · rw [checkout_of_error e c ids actor cart key hsold]
  · rw [checkout_eq e c ids actor cart key hsold]
    exact (e.withSuggestions_cases c t _).2

end Engine

end Till
