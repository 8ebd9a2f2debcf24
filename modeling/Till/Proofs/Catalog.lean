import Till.Proofs.Receipts

/-!
# What becomes of products, suppliers and orders

Products and suppliers are added and never changed.  An order is added, and then units of it arrive;
who ordered what from whom stays.

* `CatalogChange`, `Change.catalog` : what a change does to these tables;
* `PurchaseOrder.Precedes` : an order is an earlier state of another one;
* `CatalogChange.products_prefix`, `CatalogChange.suppliers_prefix`, `CatalogChange.precedes` :
  nothing is lost.
-/

namespace Till

/-! ### Rows that are there -/

namespace Store

/-- **A store carries a product**: one with this identifier is registered there. -/
def Carries (s : Store) (store id : String) : Prop := ∃ p ∈ s.products, p.id = id ∧ p.store = store

/-- **A store is supplied** by a supplier that is registered there. -/
def SuppliedBy (s : Store) (store id : String) : Prop :=
  ∃ p ∈ s.suppliers, p.id = id ∧ p.store = store

variable {s : Store} {store id : String}

theorem carries_of_product? (h : (s.product? store id).isSome = true) : s.Carries store id := by
  obtain ⟨p, hfound⟩ := Option.isSome_iff_exists.1 h
  refine ⟨p, List.mem_of_find?_eq_some hfound, ?_⟩
  simpa using List.find?_some hfound

theorem carries_of_activeProduct? (h : (s.activeProduct? store id).isSome = true) :
    s.Carries store id := by
  obtain ⟨p, hfound⟩ := Option.isSome_iff_exists.1 h
  refine ⟨p, List.mem_of_find?_eq_some hfound, ?_⟩
  have htest := List.find?_some hfound
  simp only [Bool.and_eq_true, beq_iff_eq] at htest
  exact htest.1

theorem suppliedBy_of_supplier? (h : (s.supplier? store id).isSome = true) :
    s.SuppliedBy store id := by
  obtain ⟨p, hfound⟩ := Option.isSome_iff_exists.1 h
  refine ⟨p, List.mem_of_find?_eq_some hfound, ?_⟩
  simpa using List.find?_some hfound

/-- An order is found under its identifier. -/
theorem order?_of_mem {o : PurchaseOrder} (k : s.Keyed) (ho : o ∈ s.orders) :
    s.order? o.store o.id = some o := by
  cases hfound : s.order? o.store o.id with
  | none =>
    have hnone := List.find?_eq_none.1 hfound o ho
    simp at hnone
  | some o' =>
    obtain ⟨ho', hid, -⟩ := order?_eq_some hfound
    rw [List.inj_on_of_nodup_map k.orders ho' ho hid]

end Store

/-! ### Orders -/

/-- A line as it was ordered. -/
def OrderLine.asOrdered (l : OrderLine) : OrderLine := { l with received := 0 }

/-- **An order is an earlier state** of another one. -/
structure PurchaseOrder.Precedes (o later : PurchaseOrder) : Prop where
  /-- Who ordered where, from whom and when stays. -/
  same : later =
    { o with lines := later.lines, status := later.status, updatedAt := later.updatedAt }
  /-- So does what was ordered. -/
  ordered : later.lines.map OrderLine.asOrdered = o.lines.map OrderLine.asOrdered

theorem PurchaseOrder.Precedes.refl (o : PurchaseOrder) : o.Precedes o := ⟨rfl, rfl⟩

/-- The products of an order stay. -/
theorem PurchaseOrder.Precedes.products {o later : PurchaseOrder} (h : o.Precedes later) :
    later.lines.map OrderLine.product = o.lines.map OrderLine.product := by
  have hordered := congrArg (List.map OrderLine.product) h.ordered
  rwa [List.map_map, List.map_map] at hordered

theorem Store.map_asOrdered_receiveAll {order : String} {rs : List ReceiptLine}
    {lines after : List OrderLine} (h : receiveAll order rs lines = .ok after) :
    after.map OrderLine.asOrdered = lines.map OrderLine.asOrdered := by
  rw [receiveAll_eq_map h, List.map_map]
  rfl

/-! ### What a change does -/

theorem Engine.requireProducts_eq_ok {s : Store} {store : String} {products : List String}
    {u : Unit} :
    requireProducts s store products = .ok u ↔
      ∀ id ∈ products, (s.product? store id).isSome = true := by
  induction products with
  | nil => simp [requireProducts]
  | cons id products ih =>
    simp only [requireProducts, Outcome.bind_eq_ok, Outcome.require_eq_ok, ih,
      List.forall_mem_cons, exists_const]

/-- **What a change does to products, suppliers and orders.** -/
inductive CatalogChange (s after : Store) : Prop
  /-- Nothing. -/
  | none (products : after.products = s.products) (suppliers : after.suppliers = s.suppliers)
      (orders : after.orders = s.orders)
  /-- A product is added. -/
  | product {p : Product} (fresh : s.hasProduct p.id = false)
      (products : after.products = s.products ++ [p]) (suppliers : after.suppliers = s.suppliers)
      (orders : after.orders = s.orders)
  /-- A supplier is added. -/
  | supplier {p : Supplier} (fresh : s.hasSupplier p.id = false)
      (products : after.products = s.products) (suppliers : after.suppliers = s.suppliers ++ [p])
      (orders : after.orders = s.orders)
  /-- An order is added, from a supplier of its store and about products of its store. -/
  | ordered {o : PurchaseOrder} (supplied : s.SuppliedBy o.store o.supplier)
      (carried : ∀ l ∈ o.lines, s.Carries o.store l.product)
      (products : after.products = s.products) (suppliers : after.suppliers = s.suppliers)
      (orders : after.orders = s.orders ++ [o])
  /-- Units of an order arrive. -/
  | received {o : PurchaseOrder} {f : PurchaseOrder → PurchaseOrder} (mem : o ∈ s.orders)
      (precedes : o.Precedes (f o))
      (products : after.products = s.products) (suppliers : after.suppliers = s.suppliers)
      (orders : after.orders = Rows.update (·.id) o.id f s.orders)

/-- **Every change does one of these things to products, suppliers and orders.** -/
theorem Change.catalog {e : Engine} {now : Instant} {s after : Store} (h : Change e now s after) :
    CatalogChange s after := by
  cases h with
  | shiftOpened start added =>
    obtain ⟨-, -, -, rfl⟩ := Store.addShift_eq_ok.1 added
    exact .none rfl rfl rfl
  | productAdded check added =>
    obtain ⟨-, -, hfresh, rfl⟩ := Store.addProduct_eq_ok.1 added
    exact .product hfresh rfl rfl rfl
  | supplierAdded check added =>
    obtain ⟨hfresh, rfl⟩ := Store.addSupplier_eq_ok.1 added
    exact .supplier hfresh rfl rfl rfl
  | @orderAdded ids actor o _ elevated check products added supplier =>
    obtain ⟨-, -, -, -, rfl⟩ := Store.addOrder_eq_ok.1 added
    refine .ordered (Store.suppliedBy_of_supplier? supplier) ?_ rfl rfl rfl
    intro l hl
    obtain ⟨line, hline, rfl⟩ := List.mem_map.1 hl
    have hproducts := Engine.requireProducts_eq_ok.1 products
    exact Store.carries_of_product? (hproducts _ (List.mem_map_of_mem hline))
  | @received ids actor lines o received u booked check owned receive unit fits =>
    have hid : u.order = o.id := by rw [unit]
    have hprecedes : o.Precedes (Store.bookedOrder o booked u.receivedAt) :=
      ⟨rfl, Store.map_asOrdered_receiveAll fits.lines⟩
    exact .received (f := fun o => Store.bookedOrder o booked u.receivedAt)
      (Store.order?_eq_some fits.found).1 hprecedes rfl rfl (hid ▸ rfl)
  | shiftClosed | entryRecorded | sold | refused | voided | refunded | purged =>
    exact .none rfl rfl rfl

namespace CatalogChange

variable {s after : Store}

/-- Products are only added. -/
theorem products_prefix (h : CatalogChange s after) : s.products <+: after.products := by
  cases h with
  | product fresh products => exact products ▸ List.prefix_append _ _
  | none products | supplier _ products | ordered _ _ products | received _ _ products =>
    exact products ▸ List.prefix_refl _

/-- So are suppliers. -/
theorem suppliers_prefix (h : CatalogChange s after) : s.suppliers <+: after.suppliers := by
  cases h with
  | supplier fresh products suppliers => exact suppliers ▸ List.prefix_append _ _
  | none _ suppliers | product _ _ suppliers | ordered _ _ _ suppliers
  | received _ _ _ suppliers => exact suppliers ▸ List.prefix_refl _

/-- **Every order is an earlier state** of an order after a change. -/
theorem precedes (h : CatalogChange s after) (k : s.Keyed) :
    ∀ o ∈ s.orders, ∃ later ∈ after.orders, o.Precedes later := by
  intro o ho
  cases h with
  | none _ _ orders | product _ _ _ orders | supplier _ _ _ orders =>
    exact ⟨o, orders ▸ ho, .refl o⟩
  | ordered _ _ _ _ orders => exact ⟨o, orders ▸ List.mem_append_left _ ho, .refl o⟩
  | @received o' f mem precedes _ _ orders =>
    rw [orders]
    by_cases hid : o.id = o'.id
    · obtain rfl := List.inj_on_of_nodup_map k.orders ho mem hid
      exact ⟨f o, (Rows.mem_update k.orders mem).2 (.inl rfl), precedes⟩
    · exact ⟨o, (Rows.mem_update k.orders mem).2 (.inr ⟨ho, hid⟩), .refl o⟩

end CatalogChange

/-- A store carries what it has carried. -/
theorem Store.Carries.mono {s after : Store} {store id : String} (h : s.Carries store id)
    (hproducts : s.products <+: after.products) : after.Carries store id := by
  obtain ⟨p, hp, hid⟩ := h
  exact ⟨p, hproducts.subset hp, hid⟩

/-- It is supplied by whom it was supplied. -/
theorem Store.SuppliedBy.mono {s after : Store} {store id : String} (h : s.SuppliedBy store id)
    (hsuppliers : s.suppliers <+: after.suppliers) : after.SuppliedBy store id := by
  obtain ⟨p, hp, hid⟩ := h
  exact ⟨p, hsuppliers.subset hp, hid⟩

end Till
