import Till.Engine.Sales

/-!
# Suggestions and receipts

A till suggests products that were bought together with those of a cart.  A receipt is a sale with
suggestions; that there are none to give never turns a sale into a failure.
-/

namespace Till

/-- A sale with suggestions. -/
structure Receipt where
  /-- The sale. -/
  transaction : Transaction
  /-- The suggestions. -/
  recommendations : Recommendations
  deriving DecidableEq, Repr

namespace Engine

variable {κ : Type}

/-- What the advisor needs, given by a cache and the sales of the store. -/
def advisorAccess (c : CacheAccess κ) : AdvisorAccess (World κ) where
  read key := fun w =>
    let (found, cache) := c.read w.cache w.uptime key
    (found, { w with cache })
  write key text lifetime := fun w =>
    let (written, cache) := c.write w.cache w.uptime key text lifetime
    (written, { w with cache })
  suggest store products limit := Action.query fun w =>
    .ok (w.store.coPurchases store products limit)

/-- Suggestions for the products of a cart. -/
def recommend (e : Engine) (c : CacheAccess κ) (actor : Actor) (cart : Cart) :
    Action (World κ) Recommendations :=
  e.advisor.recommend (advisorAccess c) actor.store cart.products

/-- A sale with suggestions, which are empty if there are none to give. -/
def withSuggestions (e : Engine) (c : CacheAccess κ) (t : Transaction) :
    Action (World κ) Receipt := fun w =>
  match e.advisor.recommend (advisorAccess c) t.store (t.lines.map (·.product)) w with
  | (.ok r, w) => (.ok ⟨t, r⟩, w)
  | (.error (.rejected _), w) => (.ok ⟨t, Recommendations.none t.store⟩, w)
  | (.error .overflow, w) => (.error .overflow, w)

/-- Sells a cart at most once under a key and gives the receipt. -/
def checkout (e : Engine) (c : CacheAccess κ) (ids : Ids) (actor : Actor) (cart : Cart)
    (key : String) : Action (World κ) Receipt := fun w =>
  (World.onStore (e.sellOnce ids w.now actor cart key)).andThen (e.withSuggestions c) w

end Engine

end Till
