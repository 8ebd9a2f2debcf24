import Till.Store.Basic

/-!
# Products and suppliers in the store

A product is found by its identifier within its store.  Its stock keeping unit is unique within its
store, and its identifier among all products.
-/

namespace Till

namespace Store

/-- The product of a store. -/
def product? (s : Store) (store id : String) : Option Product :=
  s.products.find? fun p => p.id == id && p.store == store

/-- The product of a store if it is sold. -/
def activeProduct? (s : Store) (store id : String) : Option Product :=
  s.products.find? fun p => p.id == id && p.store == store && p.isActive

/-- Whether a store has a product with the stock keeping unit. -/
def hasSku (s : Store) (store sku : String) : Bool :=
  s.products.any fun p => p.store == store && p.sku == sku

/-- Adds a product. -/
def addProduct (s : Store) (p : Product) : Stored Store := do
  testNumbers (decide (0 ≤ p.unitPrice))
  Outcome.require (!s.hasSku p.store p.sku) (.duplicate "sku" p.sku)
  testKey "products.id" (s.hasProduct p.id)
  pure { s with products := s.products ++ [p] }

/-- The supplier of a store. -/
def supplier? (s : Store) (store id : String) : Option Supplier :=
  s.suppliers.find? fun p => p.id == id && p.store == store

/-- Whether there is a supplier with the identifier, at whatever store. -/
def hasSupplier (s : Store) (id : String) : Bool := s.suppliers.any fun p => p.id == id

/-- Adds a supplier. -/
def addSupplier (s : Store) (p : Supplier) : Stored Store := do
  testKey "suppliers.id" (s.hasSupplier p.id)
  pure { s with suppliers := s.suppliers ++ [p] }

end Store

end Till
