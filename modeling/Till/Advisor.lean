import Till.Action
import Till.Field
import Till.Json.Parser
import Till.Json.Printer
import Till.Suggestion
import Till.Text.LowerCase

/-!
# Giving suggestions

The advisor suggests products for a set of products.  It looks into a cache first, asks for fresh
suggestions if nothing readable is there, and puts those into the cache.  Suggestions are advice: a
cache or a source of suggestions that refuses is passed over.

* `Advisor.cacheKey` : the key of a request, which depends on the set of products only;
* `Advisor.recommend` : the suggestions, given through `AdvisorAccess` the cache and the source.
-/

namespace Till

/-- When fresh suggestions are put into the cache. -/
inductive PopulateMode where
  /-- Before the answer is given. -/
  | inline
  /-- Besides, without waiting for it. -/
  | background
  deriving DecidableEq, Repr

namespace PopulateMode

/-- The name of the mode. -/
def text : PopulateMode → String
  | .inline => "inline"
  | .background => "background"

/-- The mode of a name. -/
def ofText? : String → Option PopulateMode
  | "inline" => some .inline
  | "background" => some .background
  | _ => none

/-- The mode of a name in letters of either case. -/
def ofAnyCase? (s : String) : Option PopulateMode := ofText? (Text.lowerCase s)

/-- Reads a mode. -/
def ofJson? (j : Json) : Option PopulateMode := j.name? >>= ofText?

end PopulateMode

/-- How the advisor works. -/
structure Advisor where
  /-- Whether it suggests anything. -/
  enabled : Bool := true
  /-- How long suggestions are kept, in milliseconds. -/
  lifetime : Nat := 300000
  /-- The most suggestions. -/
  limit : Nat := 5
  /-- When fresh suggestions are put into the cache. -/
  populate : PopulateMode := .background
  deriving DecidableEq, Repr

/-- What the advisor needs from its surroundings, as actions on their state. -/
structure AdvisorAccess (σ : Type) where
  /-- Reads the cached text under a key. -/
  read (key : String) : Action σ (Option String)
  /-- Puts a text under a key into the cache for a lifetime. -/
  write (key text : String) (lifetime : Nat) : Action σ Unit
  /-- Fresh suggestions for the products of a store. -/
  suggest (store : String) (products : List String) (limit : Nat) : Action σ (List Suggestion)

namespace Recommendations

/-- The written form of recommendations. -/
def text (r : Recommendations) : String := r.toJson.print

/-- Reads the written form of recommendations.  Members that are not theirs need only have the form
of members. -/
def ofText? (s : String) : Option Recommendations := Json.parseLoosely? s >>= ofJson?

end Recommendations

namespace Advisor

variable {σ : Type}

/-- The key of a request. -/
def cacheKey (store : String) (products : List String) : String :=
  "reco:" ++ store ++ ":" ++ ",".intercalate (Text.sortedDistinct products)

/-- The rules for a request. -/
def checkRequest (store : String) (products : List String) : Field.Check := do
  Field.identifier "store_id" store
  Field.each (Field.identifier "product_id") products

/-- Puts fresh suggestions into the cache and gives them. -/
def keep (a : Advisor) (access : AdvisorAccess σ) (key : String) (fresh : Recommendations) :
    Action σ Recommendations := fun s =>
  match a.populate, access.write key fresh.text a.lifetime s with
  | .inline, (.error .overflow, s) => (.error .overflow, s)
  | _, (_, s) => (.ok fresh, s)

/-- Asks for fresh suggestions. -/
def compute (a : Advisor) (access : AdvisorAccess σ) (key store : String)
    (products : List String) : Action σ Recommendations := fun s =>
  match access.suggest store products a.limit s with
  | (.ok items, s) => a.keep access key ⟨store, items⟩ s
  | (.error (.rejected _), s) => (.ok (Recommendations.none store), s)
  | (.error .overflow, s) => (.error .overflow, s)

/-- Looks into the cache, and asks for fresh suggestions if nothing readable is there. -/
def lookUp (a : Advisor) (access : AdvisorAccess σ) (key store : String)
    (products : List String) : Action σ Recommendations := fun s =>
  match access.read key s with
  | (.ok (some text), s) =>
    match Recommendations.ofText? text with
    | some kept => (.ok kept, s)
    | none => a.compute access key store products s
  | (.ok none, s) => a.compute access key store products s
  | (.error (.rejected _), s) => a.compute access key store products s
  | (.error .overflow, s) => (.error .overflow, s)

/-- The suggestions for the products of a store. -/
def recommend (a : Advisor) (access : AdvisorAccess σ) (store : String) (products : List String) :
    Action σ Recommendations := fun s =>
  match (checkRequest store products).run with
  | .error e => (.error e, s)
  | .ok () =>
    if !a.enabled || products.isEmpty then (.ok (Recommendations.none store), s)
    else
      a.lookUp access (cacheKey store products) store (Text.sortedDistinct products) s

end Advisor

end Till
