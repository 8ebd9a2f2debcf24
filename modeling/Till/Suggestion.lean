import Till.Json.Basic

/-!
# Suggestions

A suggestion is a product with the number of sales that speak for it.  `Recommendations` are the
suggestions made to a store; they are cached in their written form.
-/

namespace Till

/-- A product that may be offered as well. -/
structure Suggestion where
  /-- The product. -/
  product : String
  /-- How many sales speak for it. -/
  score : Int
  deriving DecidableEq, Repr

/-- The suggestions made to a store. -/
structure Recommendations where
  /-- The store. -/
  store : String
  /-- The suggestions, the best first. -/
  items : List Suggestion
  deriving DecidableEq, Repr

namespace Suggestion

/-- The suggestion as JSON. -/
def toJson (s : Suggestion) : Json :=
  .obj [("product_id", .str s.product), ("score", .int s.score)]

/-- Reads a suggestion. -/
def ofJson? (j : Json) : Option Suggestion := do
  let m ← j.membersOnce? ["product_id", "score"]
  some {
    product := ← (Json.member "product_id" m).text?
    score := ← (Json.member "score" m).int? }

end Suggestion

namespace Recommendations

/-- No suggestions. -/
def none (store : String) : Recommendations := ⟨store, []⟩

/-- The recommendations as JSON. -/
def toJson (r : Recommendations) : Json :=
  .obj [("store_id", .str r.store), ("items", .arr (r.items.map Suggestion.toJson))]

/-- Reads recommendations. -/
def ofJson? (j : Json) : Option Recommendations := do
  let m ← j.membersOnce? ["store_id", "items"]
  some {
    store := ← (Json.member "store_id" m).text?
    items := ← (Json.member "items" m).list? Suggestion.ofJson? }

end Recommendations

end Till
