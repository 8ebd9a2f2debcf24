import Till.Store.Catalog

/-!
# Stock in the store

The stock of a product at a store is the sum of its movements.  The store adds up what left before
what came, so the level cannot be told if the units that left alone do not fit 64 bits.

`Store.testAvailable` is the test that keeps stock from being oversold: for each product it compares
all units that are to leave with the level before any of them has left.
-/

namespace Till

namespace Store

/-- The movements of a product at a store. -/
def movementsOf (s : Store) (store product : String) : List StockMovement :=
  s.movements.filter fun m => m.store == store && m.product == product

/-- The movements behind which a transaction or an order stands. -/
def movementsFor (s : Store) (reference : String) : List StockMovement :=
  s.movements.filter fun m => m.reference == reference

/-- The sum of changes, those below zero first. -/
def sumOfChanges (deltas : List Int) : Stored Int :=
  let leaving := (deltas.filter fun d => decide (d < 0)).foldr (· + ·) 0
  let all := deltas.foldr (· + ·) 0
  if Cents.least ≤ leaving ∧ all ≤ Cents.greatest then .ok all
  else Outcome.reject (.statement "integer overflow")

/-- The stock of a product at a store. -/
def stockLevel (s : Store) (store product : String) : Stored Int :=
  sumOfChanges ((s.movementsOf store product).map (·.delta))

/-- Adds a movement. -/
def addMovement (s : Store) (m : StockMovement) : Stored Store := do
  testNumbers (decide (m.delta ≠ 0))
  testKey "stock_movements.id" (s.movements.any fun n => n.id == m.id)
  testReference (s.hasProduct m.product)
  pure { s with movements := s.movements ++ [m] }

/-- Adds movements one by one. -/
def addMovements (s : Store) : List StockMovement → Stored Store
  | [] => .ok s
  | m :: rest => do
    let s ← s.addMovement m
    s.addMovements rest

/-- How many units of a product are to leave. -/
def unitsLeaving (movements : List StockMovement) (product : String) : Stored Int :=
  Cents.total (((movements.filter fun m => decide (m.delta < 0) && m.product == product)).map
    fun m => -m.delta)

/-- The products of which units are to leave, in order. -/
def productsLeaving (movements : List StockMovement) : List String :=
  Text.sortedDistinct ((movements.filter fun m => decide (m.delta < 0)).map (·.product))

/-- What is to leave, product by product. -/
def demand (movements : List StockMovement) : Stored (List (String × Int)) :=
  (productsLeaving movements).mapM fun product => do
    let units ← unitsLeaving movements product
    pure (product, units)

/-- Tests that so many units of a product are there. -/
def testUnits (s : Store) (store product : String) (requested : Int) : Stored Unit :=
  match s.activeProduct? store product with
  | none => Outcome.reject (.missing "Product" product)
  | some _ => do
    let available ← s.stockLevel store product
    Outcome.require (decide (requested ≤ available))
      (.rejected (.outOfStock product available requested))

/-- Tests a demand, product by product. -/
def testDemand (s : Store) (store : String) : List (String × Int) → Stored Unit
  | [] => .ok ()
  | (product, requested) :: rest => do
    s.testUnits store product requested
    s.testDemand store rest

/-- Tests that everything that is to leave is there. -/
def testAvailable (s : Store) (store : String) (movements : List StockMovement) : Stored Unit := do
  let demanded ← demand movements
  s.testDemand store demanded

end Store

end Till
