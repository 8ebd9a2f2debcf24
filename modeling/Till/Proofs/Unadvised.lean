import Mathlib.Data.List.Forall2
import Till.Proofs.AtMostOnce

/-!
# Advice never influences what is sold

Two tills that differ in nothing but their advice do the same to the store: it does not matter
whether they suggest anything, how much of it, for how long it is kept, and in which cache.  What
they answer differs in nothing but the suggestions.

The reason is that a request is dealt with on the store alone (`Engine.deal`), and advice is added
to the answer afterwards:

* `Engine.handle_snd` : the world after a request, up to the cache;
* `Engine.handle_unadvised` : the answer, up to advice;
* `Engine.run_sellsAlike` : both, for two tills after the same work.
-/

namespace Till

/-! ### Answers up to advice -/

/-- The answer without advice. -/
def Reply.withoutAdvice : Reply → Reply
  | .receipt r => .receipt ⟨r.transaction, .none r.transaction.store⟩
  | .recommendations _ => .recommendations (.none "")
  | reply => reply

/-- Whether advice is a part of the answer to a request. -/
def Request.seeksAdvice : Request → Bool
  | .checkout _ _ | .recommend _ => true
  | _ => false

/-- **A cache is safe** for an advisor at an instant of its clock: reading it never overflows, and
neither does writing if the advisor waits for it. -/
structure Advisor.SafeWith {κ : Type} (a : Advisor) (c : CacheAccess κ) (uptime : Nat) : Prop where
  read : ∀ cache key, (c.read cache uptime key).1 ≠ .error .overflow
  write : a.populate = .inline → ∀ cache key text,
    (c.write cache uptime key text a.lifetime).1 ≠ .error .overflow

/-- The caches of a till are safe as long as their clock can show when an entry expires. -/
theorem Cache.access_safe {a : Advisor} {uptime : Nat}
    (h : a.populate = .inline → uptime + a.lifetime ≤ MemoryCache.lastInstant) :
    a.SafeWith Cache.access uptime where
  read cache key := by
    cases cache <;> simp [access, read, Outcome.reject]
  write hinline cache key text := by
    cases cache with
    | memory m => simp [access, write, MemoryCache.set, h hinline]
    | absent => simp [access, write]
    | offline => simp [access, write, Outcome.reject]

namespace Action

variable {σ α β : Type}

theorem mapAnswer_fst (f : α → β) (step : Action σ α) (s : σ) :
    (step.mapAnswer f s).1 = f <$> (step s).1 := by
  unfold mapAnswer
  split <;> next h => rw [h]; rfl

/-- An answer that has no advice in it is left as it is. -/
theorem map_mapAnswer {f : α → β} {g : β → β} (h : ∀ a, g (f a) = f a) (step : Action σ α) (s : σ) :
    g <$> (step.mapAnswer f s).1 = (step.mapAnswer f s).1 := by
  rw [mapAnswer_fst]
  cases (step s).1 with
  | ok a => exact congrArg Except.ok (h a)
  | error => rfl

end Action

namespace Engine

/-! ### Requests without advice -/

/-- The request of an actor, dealt with on the store alone and answered without advice. -/
def deal (e : Engine) (ids : Ids) (actor : Actor) (now : Instant) : Request → Action Store Reply
  | .openShift cash => (openShift ids now actor cash).mapAnswer .shift
  | .closeShift id cash => (e.closeShift ids now actor id cash).mapAnswer .closure
  | .recordEntry id entry => (recordEntry ids now actor id entry).mapAnswer .event
  | .currentShift => (Action.query (currentShift actor)).mapAnswer .shift
  | .shiftReport id => (Action.query (shiftReport actor id)).mapAnswer .report
  | .checkout cart key =>
    (e.sellOnce ids now actor cart key).mapAnswer fun t => .receipt ⟨t, .none t.store⟩
  | .void id reason => (e.void ids now actor id reason).mapAnswer .transaction
  | .refund id amount reason => (e.refund ids now actor id amount reason).mapAnswer .refund
  | .transaction id => (Action.query (transaction actor id)).mapAnswer .transaction
  | .refunds id => (Action.query (refunds actor id)).mapAnswer .refunds
  | .transactions start stop =>
    (Action.query fun s => .ok (s.transactionsWithin actor.store start stop)).mapAnswer
      .transactions
  | .recommend cart =>
    (Action.query fun _ => (Advisor.checkRequest actor.store cart.products).run).mapAnswer
      fun _ => .recommendations (.none "")
  | .registerProduct p => (registerProduct ids now actor p).mapAnswer .product
  | .product id => (Action.query (product actor id)).mapAnswer .product
  | .registerSupplier p => (registerSupplier ids now actor p).mapAnswer .supplier
  | .createOrder o => (createOrder ids now actor o).mapAnswer .order
  | .receiveOrder id lines => (receiveOrder ids now actor id lines).mapAnswer .order
  | .order id => (Action.query (order actor id)).mapAnswer .order
  | .stockLevel id =>
    (Action.query fun s => (s.stockLevel actor.store id).result).mapAnswer .stockLevel
  | .stockMovements id =>
    (Action.query fun s => .ok (s.movementsOf actor.store id)).mapAnswer .stockMovements

variable {κ κ₁ κ₂ α : Type}

/-- The answer of `Engine.deal` has no advice in it. -/
theorem deal_unadvised (e : Engine) (ids : Ids) (actor : Actor) (now : Instant) (r : Request)
    (s : Store) :
    Reply.withoutAdvice <$> (e.deal ids actor now r s).1 = (e.deal ids actor now r s).1 := by
  cases r <;> simp only [deal] <;> refine Action.map_mapAnswer ?_ _ _ <;> intro _ <;> rfl

theorem change_eq (reply : α → Reply) (step : Action Store α) (w : World κ) :
    change reply step w =
      ((step.mapAnswer reply w.store).1, { w with store := (step.mapAnswer reply w.store).2 }) := by
  simp only [change, World.onStore, Action.mapAnswer]
  rcases step w.store with ⟨_ | _, _⟩ <;> rfl

/-- A request that seeks no advice is dealt with on the store alone. -/
theorem handle_eq_deal (e : Engine) (c : CacheAccess κ) (ids : Ids) (actor : Actor) {r : Request}
    (hadvice : r.seeksAdvice = false) (w : World κ) :
    e.handle c ids actor r w =
      ((e.deal ids actor w.now r w.store).1,
        { w with store := (e.deal ids actor w.now r w.store).2 }) := by
  cases r with
  | checkout | recommend => cases hadvice
  | _ => exact change_eq _ _ w

/-! ### The world after a request -/

/-- Giving suggestions changes the cache and nothing else. -/
theorem advisorAccess_keeps_all (c : CacheAccess κ) :
    Advisor.AccessKeeps (fun w : World κ => (w.store, w.now, w.uptime)) (advisorAccess c) :=
  ⟨fun _ _ => rfl, fun _ _ _ _ => rfl, fun _ _ _ _ => rfl⟩

theorem recommend_snd (a : Advisor) (c : CacheAccess κ) (store : String) (products : List String)
    (w : World κ) :
    ∃ cache, (a.recommend (advisorAccess c) store products w).2 = { w with cache } := by
  have hkeeps := Advisor.recommend_keeps (advisorAccess_keeps_all c) a store products w
  generalize (a.recommend (advisorAccess c) store products w).2 = after at hkeeps
  obtain ⟨_, _, _, cache⟩ := after
  obtain ⟨rfl, rfl, rfl⟩ : _ = w.store ∧ _ = w.now ∧ _ = w.uptime := by simpa using hkeeps
  exact ⟨cache, rfl⟩

theorem withSuggestions_snd (e : Engine) (c : CacheAccess κ) (t : Transaction) (w : World κ) :
    ∃ cache, (e.withSuggestions c t w).2 = { w with cache } := by
  obtain ⟨cache, hafter⟩ := recommend_snd e.advisor c t.store (t.lines.map (·.product)) w
  refine ⟨cache, ?_⟩
  unfold withSuggestions
  split <;> next heq => rw [← hafter, heq]

/-- **The world after a request** is that after it was dealt with on the store alone, up to the
cache. -/
theorem handle_snd (e : Engine) (c : CacheAccess κ) (ids : Ids) (actor : Actor) (r : Request)
    (w : World κ) :
    ∃ cache, (e.handle c ids actor r w).2 =
      { w with store := (e.deal ids actor w.now r w.store).2, cache } := by
  cases hadvice : r.seeksAdvice with
  | false => exact ⟨w.cache, by rw [handle_eq_deal e c ids actor hadvice]⟩
  | true =>
    cases r with
    | checkout cart key =>
      simp only [handle, deal, mapAnswer_snd]
      rcases hsell : e.sellOnce ids w.now actor cart key w.store with ⟨fault | t, after⟩
      · exact ⟨w.cache, by rw [checkout_of_error e c ids actor cart key hsell]⟩
      · rw [checkout_eq e c ids actor cart key hsell]
        exact withSuggestions_snd e c t _
    | recommend cart =>
      simp only [handle, deal, mapAnswer_snd]
      exact recommend_snd e.advisor c actor.store cart.products w
    | _ => cases hadvice

/-! ### The answer to a request -/

/-- Where a cache is safe, so is the access of an advisor to it. -/
theorem advisorAccess_safe {a : Advisor} {c : CacheAccess κ} {uptime : Nat}
    (safe : a.SafeWith c uptime) :
    Advisor.AccessSafe a World.uptime uptime (advisorAccess c) where
  read key w hw := by
    rw [← hw] at safe
    exact safe.read w.cache key
  write hinline key text w hw := by
    rw [← hw] at safe
    exact safe.write hinline w.cache key text
  suggest _ _ _ _ _ := nofun

/-- Asking for advice leaves the clock of the cache alone. -/
theorem advisorAccess_keeps_uptime (c : CacheAccess κ) :
    Advisor.AccessKeeps (World.uptime : World κ → Nat) (advisorAccess c) :=
  ⟨fun _ _ => rfl, fun _ _ _ _ => rfl, fun _ _ _ _ => rfl⟩

/-- **A well-formed request for advice is answered**, whatever the cache holds. -/
theorem recommend_answers {a : Advisor} {c : CacheAccess κ} {w : World κ}
    (safe : a.SafeWith c w.uptime) {store : String} {products : List String}
    (hcheck : Advisor.checkRequest store products = .ok ()) :
    ∃ r, (a.recommend (advisorAccess c) store products w).1 = .ok r :=
  Advisor.recommend_answers (advisorAccess_keeps_uptime c) (advisorAccess_safe safe) hcheck rfl

/-- A sale with the suggestions that an advisor gives through any access to a cache and to a source
of suggestions, none if it gives none. -/
def receiptFrom {σ : Type} (a : Advisor) (access : AdvisorAccess σ) (t : Transaction) :
    Action σ Receipt := fun s =>
  match a.recommend access t.store (t.lines.map (·.product)) s with
  | (.ok r, s) => (.ok ⟨t, r⟩, s)
  | (.error (.rejected _), s) => (.ok ⟨t, Recommendations.none t.store⟩, s)
  | (.error .overflow, s) => (.error .overflow, s)

theorem withSuggestions_eq (e : Engine) (c : CacheAccess κ) (t : Transaction) :
    e.withSuggestions c t = receiptFrom e.advisor (advisorAccess c) t := by
  funext w
  rw [withSuggestions, receiptFrom]
  split <;> next heq => rw [heq]

/-- **A sale gets its receipt**, whether or not the cache and the source of suggestions refuse. -/
theorem receiptFrom_answers {σ τ : Type} {view : σ → τ} {v : τ} {access : AdvisorAccess σ}
    {a : Advisor} (keeps : Advisor.AccessKeeps view access)
    (safe : a.AccessSafe view v access) (t : Transaction) {s : σ} (hs : view s = v) :
    ∃ r, (receiptFrom a access t s).1 = .ok ⟨t, r⟩ := by
  unfold receiptFrom
  split
  · exact ⟨_, rfl⟩
  · exact ⟨_, rfl⟩
  · next heq =>
    -- A malformed request is refused, and a well-formed one is answered.
    exfalso
    have hfirst := congrArg Prod.fst heq
    cases hcheck : Advisor.checkRequest t.store (t.lines.map (·.product)) with
    | ok =>
      obtain ⟨r, hr⟩ := Advisor.recommend_answers keeps safe hcheck hs
      rw [hr] at hfirst
      cases hfirst
    | error problem =>
      simp [Advisor.recommend, Field.Check.run, hcheck, Outcome.ofCheck, Outcome.reject] at hfirst

theorem withSuggestions_answers {e : Engine} {c : CacheAccess κ} {w : World κ}
    (safe : e.advisor.SafeWith c w.uptime) (t : Transaction) :
    ∃ r, (e.withSuggestions c t w).1 = .ok ⟨t, r⟩ := by
  rw [withSuggestions_eq]
  exact receiptFrom_answers (advisorAccess_keeps_uptime c) (advisorAccess_safe safe) t rfl

/-- **A sale that is made is answered with its receipt.** -/
theorem handle_checkout_of_sold {e : Engine} {c : CacheAccess κ} {ids : Ids} {actor : Actor}
    {cart : Cart} {key : String} {w : World κ} {t : Transaction}
    (safe : e.advisor.SafeWith c w.uptime)
    (h : (e.sellOnce ids w.now actor cart key w.store).1 = .ok t) :
    ∃ r, (e.handle c ids actor (.checkout cart key) w).1 = .ok (.receipt ⟨t, r⟩) := by
  rcases hsell : e.sellOnce ids w.now actor cart key w.store with ⟨result, after⟩
  rw [hsell] at h
  obtain rfl : result = .ok t := h
  obtain ⟨r, hr⟩ := withSuggestions_answers (w := { w with store := after }) safe t
  refine ⟨r, ?_⟩
  simp only [handle, Action.mapAnswer_fst, checkout_eq e c ids actor cart key hsell, hr]
  rfl

/-- A sale that is made is answered with its receipt, or looking for advice overflows. -/
theorem handle_checkout_cases {e : Engine} {c : CacheAccess κ} {ids : Ids} {actor : Actor}
    {cart : Cart} {key : String} {w : World κ} {t : Transaction} {after : Store}
    (h : e.sellOnce ids w.now actor cart key w.store = (.ok t, after)) :
    (∃ r, (e.handle c ids actor (.checkout cart key) w).1 = .ok (.receipt ⟨t, r⟩)) ∨
      (e.handle c ids actor (.checkout cart key) w).1 = .error .overflow := by
  simp only [handle, Action.mapAnswer_fst, checkout_eq e c ids actor cart key h]
  rcases (e.withSuggestions_cases c t { w with store := after }).1 with ⟨r, hr⟩ | hoverflow
  · exact .inl ⟨r, by rw [hr]; rfl⟩
  · exact .inr (by rw [hoverflow]; rfl)

/-- A well-formed request for advice is answered, or looking for advice overflows. -/
theorem handle_recommend_cases (e : Engine) (c : CacheAccess κ) (ids : Ids) {actor : Actor}
    {cart : Cart} (hcheck : Advisor.checkRequest actor.store cart.products = .ok ()) (w : World κ) :
    (∃ r, (e.handle c ids actor (.recommend cart) w).1 = .ok (.recommendations r)) ∨
      (e.handle c ids actor (.recommend cart) w).1 = .error .overflow := by
  have hrejected := Advisor.recommend_ne_rejected e.advisor (advisorAccess c) hcheck w
  simp only [handle, Action.mapAnswer_fst, recommend]
  rcases hadvised : (e.advisor.recommend (advisorAccess c) actor.store cart.products w).1
    with (problem | _) | r
  · exact absurd hadvised (hrejected problem)
  · exact .inr rfl
  · exact .inl ⟨r, rfl⟩

theorem handle_recommend_answers {e : Engine} {c : CacheAccess κ} {ids : Ids} {actor : Actor}
    {cart : Cart} {w : World κ} (safe : e.advisor.SafeWith c w.uptime)
    (hcheck : Advisor.checkRequest actor.store cart.products = .ok ()) :
    ∃ r, (e.handle c ids actor (.recommend cart) w).1 = .ok (.recommendations r) := by
  obtain ⟨r, hr⟩ := recommend_answers safe hcheck
  exact ⟨r, by simp only [handle, Action.mapAnswer_fst, recommend, hr]; rfl⟩

/-- **The answer to a request** is that of dealing with it on the store alone, up to advice, if it
is answered at all or the cache is safe. -/
theorem handle_unadvised {e : Engine} {c : CacheAccess κ} {ids : Ids} {actor : Actor} {r : Request}
    {w : World κ} (answered : (e.handle c ids actor r w).1 ≠ .error .overflow ∨
      (r.seeksAdvice = true → e.advisor.SafeWith c w.uptime)) :
    Reply.withoutAdvice <$> (e.handle c ids actor r w).1 =
      (e.deal ids actor w.now r w.store).1 := by
  cases hadvice : r.seeksAdvice with
  | false => rw [handle_eq_deal e c ids actor hadvice, deal_unadvised]
  | true =>
    cases r with
    | checkout cart key =>
      rcases hsell : e.sellOnce ids w.now actor cart key w.store with ⟨fault | t, after⟩
      · simp only [handle, deal, Action.mapAnswer, checkout_of_error e c ids actor cart key hsell,
          hsell]
        rfl
      · obtain ⟨r, hr⟩ :
            ∃ r, (e.handle c ids actor (.checkout cart key) w).1 = .ok (.receipt ⟨t, r⟩) :=
          answered.elim (handle_checkout_cases hsell).resolve_right fun safe =>
            handle_checkout_of_sold (safe rfl) (congrArg Prod.fst hsell)
        simp only [hr, deal, Action.mapAnswer, hsell]
        rfl
    | recommend cart =>
      cases hcheck : Advisor.checkRequest actor.store cart.products with
      | ok =>
        obtain ⟨r, hr⟩ :
            ∃ r, (e.handle c ids actor (.recommend cart) w).1 = .ok (.recommendations r) :=
          answered.elim (handle_recommend_cases e c ids hcheck w).resolve_right fun safe =>
            handle_recommend_answers (safe rfl) hcheck
        simp only [hr, deal, Action.mapAnswer, Action.query, Field.Check.run, hcheck,
          Outcome.ofCheck]
        rfl
      | error problem =>
        simp only [handle, deal, Action.mapAnswer, Action.query, recommend, Advisor.recommend,
          Field.Check.run, hcheck, Outcome.ofCheck, Outcome.reject]
        rfl
    | _ => cases hadvice

/-! ### Two tills after the same work -/

/-- The engine with another advisor. -/
def advisedBy (e : Engine) (a : Advisor) : Engine := { e with advisor := a }

/-- Advice has no part in dealing with a request. -/
theorem deal_advisedBy (e : Engine) (a : Advisor) (ids : Ids) (actor : Actor) (now : Instant)
    (r : Request) : (e.advisedBy a).deal ids actor now r = e.deal ids actor now r := by
  cases r <;> rfl

end Engine

/-- **Two steps are the same work**: the same request with the same identifiers, or the same time.
What happens to the caches is of no account. -/
inductive Step.SameWork {κ₁ κ₂ : Type} : Step κ₁ → Step κ₂ → Prop
  /-- The same request. -/
  | request (ids : Ids) (actor : Actor) (r : Request) :
    SameWork (.request ids actor r) (.request ids actor r)
  /-- Expired outcomes are forgotten. -/
  | purge : SameWork .purge .purge
  /-- The same time. -/
  | time (now : Instant) : SameWork (.time now) (.time now)
  /-- The caches and their clocks change. -/
  | caching (uptime₁ uptime₂ : Nat) (cache₁ : κ₁) (cache₂ : κ₂) :
    SameWork (.caching uptime₁ cache₁) (.caching uptime₂ cache₂)

theorem Step.SameWork.refl {κ : Type} (step : Step κ) : step.SameWork step := by
  cases step <;> constructor

/-- **Two worlds agree** but for their caches. -/
structure World.Agrees {κ₁ κ₂ : Type} (w₁ : World κ₁) (w₂ : World κ₂) : Prop where
  store : w₁.store = w₂.store
  now : w₁.now = w₂.now

namespace Engine

variable {κ₁ κ₂ : Type} {e : Engine} {a₁ a₂ : Advisor} {c₁ : CacheAccess κ₁} {c₂ : CacheAccess κ₂}
  {w₁ : World κ₁} {w₂ : World κ₂}

/-- **Two tills sell alike** in worlds that differ in nothing but their caches. -/
structure SellsAlike (e : Engine) (a₁ a₂ : Advisor) (c₁ : CacheAccess κ₁) (c₂ : CacheAccess κ₂)
    (w₁ : World κ₁) (w₂ : World κ₂) : Prop where
  /-- They keep the same at the same time, -/
  agrees : w₁.Agrees w₂
  /-- they answer requests the same up to advice, -/
  answers : ∀ ids actor (r : Request),
    (r.seeksAdvice = true → a₁.SafeWith c₁ w₁.uptime ∧ a₂.SafeWith c₂ w₂.uptime) →
      Reply.withoutAdvice <$> ((e.advisedBy a₁).handle c₁ ids actor r w₁).1 =
        Reply.withoutAdvice <$> ((e.advisedBy a₂).handle c₂ ids actor r w₂).1
  /-- they forget as many outcomes, -/
  purges : (purge w₁).1 = (purge w₂).1
  /-- and a sale that is made is answered with its receipt, -/
  receipts : a₁.SafeWith c₁ w₁.uptime → ∀ ids actor cart key t,
    (e.sellOnce ids w₁.now actor cart key w₁.store).1 = .ok t →
      ∃ advice, ((e.advisedBy a₁).handle c₁ ids actor (.checkout cart key) w₁).1 =
        .ok (.receipt ⟨t, advice⟩)
  /-- whatever the cache and the source of suggestions refuse. -/
  degrades : ∀ (σ : Type) (access : AdvisorAccess σ) (s : σ) (t : Transaction),
    a₁.AccessSafe (fun _ => ()) () access →
      ∃ advice, (receiptFrom a₁ access t s).1 = .ok ⟨t, advice⟩

/-- What agrees before the same work agrees after it. -/
theorem apply_agrees (h : w₁.Agrees w₂) {step₁ : Step κ₁} {step₂ : Step κ₂}
    (hstep : step₁.SameWork step₂) :
    ((e.advisedBy a₁).apply c₁ w₁ step₁).Agrees ((e.advisedBy a₂).apply c₂ w₂ step₂) := by
  cases hstep with
  | request ids actor r =>
    obtain ⟨cache₁, h₁⟩ := (e.advisedBy a₁).handle_snd c₁ ids actor r w₁
    obtain ⟨cache₂, h₂⟩ := (e.advisedBy a₂).handle_snd c₂ ids actor r w₂
    simp only [apply, h₁, h₂, deal_advisedBy]
    exact ⟨by rw [h.store, h.now], h.now⟩
  | purge => exact ⟨by simp only [apply, purge, h.store, h.now], h.now⟩
  | time now => exact ⟨h.store, rfl⟩
  | caching => exact ⟨h.store, h.now⟩

theorem run_agrees (h : w₁.Agrees w₂) {steps₁ : List (Step κ₁)} {steps₂ : List (Step κ₂)}
    (hsteps : List.Forall₂ Step.SameWork steps₁ steps₂) :
    ((e.advisedBy a₁).run c₁ w₁ steps₁).Agrees ((e.advisedBy a₂).run c₂ w₂ steps₂) := by
  induction hsteps generalizing w₁ w₂ with
  | nil => exact h
  | cons hstep _ ih => exact ih (apply_agrees h hstep)

theorem sellsAlike_of_agrees (e : Engine) (a₁ a₂ : Advisor) (c₁ : CacheAccess κ₁)
    (c₂ : CacheAccess κ₂) (h : w₁.Agrees w₂) : e.SellsAlike a₁ a₂ c₁ c₂ w₁ w₂ where
  agrees := h
  answers ids actor r safe := by
    rw [handle_unadvised (.inr fun hseeks => (safe hseeks).1),
      handle_unadvised (.inr fun hseeks => (safe hseeks).2), deal_advisedBy, deal_advisedBy,
      h.store, h.now]
  purges := by simp only [purge, h.store, h.now]
  receipts safe _ _ _ _ _ hsold := handle_checkout_of_sold (e := e.advisedBy a₁) safe hsold
  degrades _ _ _ t safe :=
    receiptFrom_answers ⟨fun _ _ => rfl, fun _ _ _ _ => rfl, fun _ _ _ _ => rfl⟩ safe t rfl

/-- **Advice never influences what is sold**: tills that differ in their advisors and caches only
sell alike after the same work. -/
theorem run_sellsAlike (e : Engine) (a₁ a₂ : Advisor) (c₁ : CacheAccess κ₁) (c₂ : CacheAccess κ₂)
    {start₁ : World κ₁} {start₂ : World κ₂} (hstart : start₁.Agrees start₂)
    {steps₁ : List (Step κ₁)} {steps₂ : List (Step κ₂)}
    (hsteps : List.Forall₂ Step.SameWork steps₁ steps₂) :
    e.SellsAlike a₁ a₂ c₁ c₂ ((e.advisedBy a₁).run c₁ start₁ steps₁)
      ((e.advisedBy a₂).run c₂ start₂ steps₂) :=
  sellsAlike_of_agrees e a₁ a₂ c₁ c₂ (run_agrees hstart hsteps)

/-- A till that keeps its suggestions in memory sells like one that gives none and cannot reach its
cache. -/
theorem run_sellsAlike_offline :
    let advisor : Advisor := { populate := .inline }
    let start : Cache → World Cache := World.empty ⟨0⟩
    let steps := DoubleSale.steps ⟨0⟩
    (start (.memory .standard)).Agrees (start .offline) ∧
      List.Forall₂ Step.SameWork steps steps ∧
      (DoubleSale.till 60).SellsAlike advisor { enabled := false } Cache.access Cache.access
        (((DoubleSale.till 60).advisedBy advisor).run Cache.access (start (.memory .standard))
          steps)
        (((DoubleSale.till 60).advisedBy { enabled := false }).run Cache.access (start .offline)
          steps) := by
  intro advisor start steps
  have hagree : (start (.memory .standard)).Agrees (start .offline) := ⟨rfl, rfl⟩
  have hsteps : List.Forall₂ Step.SameWork steps steps :=
    List.forall₂_same.2 fun step _ => .refl step
  exact ⟨hagree, hsteps, run_sellsAlike _ _ _ Cache.access Cache.access hagree hsteps⟩

end Engine

end Till
