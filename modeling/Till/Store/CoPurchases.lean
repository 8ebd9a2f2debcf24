import Till.Store.Ledger
import Till.Suggestion

/-!
# Products bought together

A product is suggested beside others if it was sold together with one of them.  Its score is the
number of those sales, voided ones not counted.
-/

namespace Till

namespace Store

/-- Whether a sale of a store counts for the products. -/
def countsFor (store : String) (products : List String) (t : Transaction) : Bool :=
  t.store == store && decide (t.status ≠ .voided) && t.lines.any fun l => products.contains l.product

/-- The sales of a store that count for the products. -/
def salesWith (s : Store) (store : String) (products : List String) : List Transaction :=
  s.transactions.filter (countsFor store products)

/-- The products sold in sales, without the given ones. -/
def companions (products : List String) (sales : List Transaction) : List String :=
  (Text.sortedDistinct (sales.flatMap fun t => t.lines.map (·.product))).filter fun p =>
    !products.contains p

/-- The number of sales with a product. -/
def salesOf (product : String) (sales : List Transaction) : Int :=
  (sales.filter fun t => t.lines.any fun l => l.product == product).length

/-- Whether one suggestion comes before another or has the same place: by score, then by product. -/
def isSuggestedFirst (a b : Suggestion) : Bool :=
  if a.score > b.score then true
  else if a.score < b.score then false
  else !Text.before b.product a.product

/-- The products sold together with the given ones, the best first, at most `limit`. -/
def coPurchases (s : Store) (store : String) (products : List String) (limit : Nat) :
    List Suggestion :=
  let sales := s.salesWith store products
  (((companions products sales).map fun p => (⟨p, salesOf p sales⟩ : Suggestion)).mergeSort
    isSuggestedFirst).take limit

end Store

end Till
