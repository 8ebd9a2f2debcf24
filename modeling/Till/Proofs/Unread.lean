import Till.Proofs.Confined

/-!
# Only sales read stored outcomes

Every other request does the same whatever outcomes are stored, and leaves them as they are: it
commutes with putting other ones in their place.  So does all of a sale that comes after its key was
claimed, and so does giving suggestions.

* `Store.commitClaimed_withOutcomes` : the rest of a sale;
* `Engine.withSuggestions_unread` : giving suggestions with a sale;
* `Engine.handle_unread` : every request that is not one to sell.
-/

namespace Till

/-- The store with other outcomes. -/
def Store.withOutcomes (s : Store) (rs : List OutcomeRecord) : Store := { s with outcomes := rs }

/-- The world with other stored outcomes. -/
def World.withOutcomes {κ : Type} (w : World κ) (rs : List OutcomeRecord) : World κ :=
  { w with store := w.store.withOutcomes rs }

/-! ### Writing rows -/

namespace Store

variable {s : Store} {rs : List OutcomeRecord}

theorem addProduct_withOutcomes (p : Product) :
    (s.withOutcomes rs).addProduct p = (·.withOutcomes rs) <$> s.addProduct p := by
  simp only [addProduct, map_bind, map_pure]
  rfl

theorem addSupplier_withOutcomes (p : Supplier) :
    (s.withOutcomes rs).addSupplier p = (·.withOutcomes rs) <$> s.addSupplier p := by
  simp only [addSupplier, map_bind, map_pure]
  rfl

theorem testOrderLines_withOutcomes (before : List String) (lines : List OrderLine) :
    (s.withOutcomes rs).testOrderLines before lines = s.testOrderLines before lines := by
  induction lines generalizing before with
  | nil => rfl
  | cons l lines ih =>
    simp only [testOrderLines, ih]
    rfl

theorem addOrder_withOutcomes (o : PurchaseOrder) :
    (s.withOutcomes rs).addOrder o = (·.withOutcomes rs) <$> s.addOrder o := by
  simp only [addOrder, testOrderLines_withOutcomes, map_bind, map_pure]
  rfl

theorem addShift_withOutcomes (sh : Shift) :
    (s.withOutcomes rs).addShift sh = (·.withOutcomes rs) <$> s.addShift sh := by
  simp only [addShift, map_bind, map_pure]
  rfl

theorem addEvent_withOutcomes (ev : DrawerEvent) :
    (s.withOutcomes rs).addEvent ev = (·.withOutcomes rs) <$> s.addEvent ev := by
  simp only [addEvent, map_bind, map_pure]
  rfl

theorem appendEntry_withOutcomes (shift entryId : String) (entry : DrawerEntry) (now : Instant) :
    (s.withOutcomes rs).appendEntry shift entryId entry now =
      Prod.map (·.withOutcomes rs) id <$> s.appendEntry shift entryId entry now := by
  have hfound : (s.withOutcomes rs).shift? shift = s.shift? shift := rfl
  simp only [appendEntry, hfound]
  split
  · rfl
  · split
    · refine Outcome.bind_eq_map_of_eq rfl fun seq _ => ?_
      exact Outcome.bind_eq_map (addEvent_withOutcomes _) fun _ _ => rfl
    · rfl

theorem closeShift_withOutcomes (closed : Shift) :
    (s.withOutcomes rs).closeShift closed = (·.withOutcomes rs) <$> s.closeShift closed := by
  refine Outcome.bind_eq_map_of_eq rfl fun closing _ => ?_
  refine Outcome.bind_eq_map_of_eq rfl fun _ _ => ?_
  have hfound : (s.withOutcomes rs).shift? closed.id = s.shift? closed.id := rfl
  simp only [hfound]
  split
  · rfl
  · split
    · rfl
    · split
      · exact addEvent_withOutcomes (s := s.updateShift closed.id (ended · closed)) closing
      · rfl

theorem addMovement_withOutcomes (m : StockMovement) :
    (s.withOutcomes rs).addMovement m = (·.withOutcomes rs) <$> s.addMovement m := by
  simp only [addMovement, map_bind, map_pure]
  rfl

theorem addMovements_withOutcomes (ms : List StockMovement) :
    (s.withOutcomes rs).addMovements ms = (·.withOutcomes rs) <$> s.addMovements ms := by
  induction ms generalizing s with
  | nil => rfl
  | cons m ms ih => exact Outcome.bind_eq_map (addMovement_withOutcomes m) fun _ _ => ih

theorem testLines_withOutcomes (before : List Int) (lines : List LineItem) :
    (s.withOutcomes rs).testLines before lines = s.testLines before lines := by
  induction lines generalizing before with
  | nil => rfl
  | cons l lines ih =>
    simp only [testLines, ih]
    rfl

theorem addTransaction_withOutcomes (t : Transaction) :
    (s.withOutcomes rs).addTransaction t = (·.withOutcomes rs) <$> s.addTransaction t := by
  simp only [addTransaction, testLines_withOutcomes, map_bind, map_pure]
  rfl

theorem addRefund_withOutcomes (r : Refund) :
    (s.withOutcomes rs).addRefund r = (·.withOutcomes rs) <$> s.addRefund r := by
  simp only [addRefund, map_bind, map_pure]
  rfl

theorem testPrices_withOutcomes (store : String) (lines : List LineItem) :
    (s.withOutcomes rs).testPrices store lines = s.testPrices store lines := by
  induction lines with
  | nil => rfl
  | cons l lines ih =>
    simp only [testPrices, ih]
    rfl

theorem testDemand_withOutcomes (store : String) (demanded : List (String × Int)) :
    (s.withOutcomes rs).testDemand store demanded = s.testDemand store demanded := by
  induction demanded with
  | nil => rfl
  | cons d demanded ih =>
    simp only [testDemand, ih]
    rfl

/-! ### The units of work -/

/-- The rest of booking a sale, once its key was claimed. -/
def commitClaimed (s : Store) (u : SaleUnit) : Stored Store := do
  let t := u.transaction
  s.testCatalogPrices t
  s.testAvailable t.store u.movements
  let s ← s.addTransaction t
  let s ← s.addMovements u.movements
  let (s, _) ← s.appendEntry t.shift u.entryId u.entry t.createdAt
  pure s

theorem commitSale_eq (s : Store) (u : SaleUnit) :
    s.commitSale u = s.claimKey u.record u.transaction.createdAt >>= (·.commitClaimed u) := rfl

theorem commitClaimed_withOutcomes (u : SaleUnit) :
    (s.withOutcomes rs).commitClaimed u = (·.withOutcomes rs) <$> s.commitClaimed u := by
  refine Outcome.bind_eq_map_of_eq ?_ fun _ _ => ?_
  · simp only [testCatalogPrices, testPrices_withOutcomes]
  refine Outcome.bind_eq_map_of_eq ?_ fun _ _ => ?_
  · simp only [testAvailable, testDemand_withOutcomes]
  refine Outcome.bind_eq_map (addTransaction_withOutcomes _) fun added _ => ?_
  refine Outcome.bind_eq_map (addMovements_withOutcomes _) fun moved _ => ?_
  exact Outcome.bind_eq_map (appendEntry_withOutcomes ..) fun _ _ => rfl

theorem commitVoid_withOutcomes (u : VoidUnit) :
    (s.withOutcomes rs).commitVoid u = (·.withOutcomes rs) <$> s.commitVoid u := by
  have hfound : (s.withOutcomes rs).transaction? u.store u.transaction =
    s.transaction? u.store u.transaction := rfl
  simp only [commitVoid, hfound]
  split
  · rfl
  · refine Outcome.bind_eq_map
      (addMovements_withOutcomes (s := s.updateTransaction u.transaction (marked u)) _)
      fun moved _ => ?_
    exact Outcome.bind_eq_map (appendEntry_withOutcomes ..) fun _ _ => rfl

theorem commitRefund_withOutcomes (u : RefundUnit) :
    (s.withOutcomes rs).commitRefund u = (·.withOutcomes rs) <$> s.commitRefund u := by
  refine Outcome.bind_eq_map_of_eq rfl fun t _ => ?_
  refine Outcome.bind_eq_map_of_eq rfl fun _ _ => ?_
  refine Outcome.bind_eq_map
    (addRefund_withOutcomes (s := s.updateTransaction u.refund.transaction (paidBack u)) _)
    fun added _ => ?_
  refine Outcome.bind_eq_map (addMovements_withOutcomes _) fun moved _ => ?_
  exact Outcome.bind_eq_map (appendEntry_withOutcomes ..) fun _ _ => rfl

theorem commitReceipt_withOutcomes (u : ReceiptUnit) :
    (s.withOutcomes rs).commitReceipt u = (·.withOutcomes rs) <$> s.commitReceipt u := by
  have hfound : (s.withOutcomes rs).order? u.store u.order = s.order? u.store u.order := rfl
  simp only [commitReceipt, hfound]
  split
  · rfl
  · split
    · rfl
    · refine Outcome.bind_eq_map_of_eq rfl fun lines _ => ?_
      exact addMovements_withOutcomes
        (s := s.updateOrder u.order fun o => bookedOrder o lines u.receivedAt) _

end Store

/-! ### Giving suggestions -/

namespace Advisor

variable {σ : Type} {f : σ → σ} {access : AdvisorAccess σ}

/-- **Access commutes with a view** of the state in all its actions. -/
structure AccessCommutes (f : σ → σ) (access : AdvisorAccess σ) : Prop where
  read : ∀ key s, (access.read key).CommutesAt f s
  write : ∀ key text lifetime s, (access.write key text lifetime).CommutesAt f s
  suggest : ∀ store products limit s, (access.suggest store products limit).CommutesAt f s

theorem keep_commutesAt (h : AccessCommutes f access) (a : Advisor) (key : String)
    (fresh : Recommendations) (s : σ) : (a.keep access key fresh).CommutesAt f s := by
  have hwrite : access.write key fresh.text a.lifetime (f s) =
      Prod.map id f (access.write key fresh.text a.lifetime s) := h.write ..
  simp only [Action.CommutesAt, keep, hwrite]
  rcases access.write key fresh.text a.lifetime s with ⟨(_ | _) | _, _⟩ <;>
    cases a.populate <;> rfl

theorem compute_commutesAt (h : AccessCommutes f access) (a : Advisor) (key store : String)
    (products : List String) (s : σ) : (a.compute access key store products).CommutesAt f s := by
  have hsuggest : access.suggest store products a.limit (f s) =
      Prod.map id f (access.suggest store products a.limit s) := h.suggest ..
  simp only [Action.CommutesAt, compute, hsuggest]
  rcases access.suggest store products a.limit s with ⟨(_ | _) | items, after⟩
  · rfl
  · rfl
  · exact keep_commutesAt h ..

theorem lookUp_commutesAt (h : AccessCommutes f access) (a : Advisor) (key store : String)
    (products : List String) (s : σ) : (a.lookUp access key store products).CommutesAt f s := by
  have hread : access.read key (f s) = Prod.map id f (access.read key s) := h.read ..
  simp only [Action.CommutesAt, lookUp, hread]
  rcases access.read key s with ⟨(_ | _) | _ | text, after⟩
  · exact compute_commutesAt h ..
  · rfl
  · exact compute_commutesAt h ..
  · simp only [Prod.map_apply, id]
    split
    · rfl
    · exact compute_commutesAt h ..

/-- **Giving suggestions commutes with a view** if all access does. -/
theorem recommend_commutesAt (h : AccessCommutes f access) (a : Advisor) (store : String)
    (products : List String) (s : σ) : (a.recommend access store products).CommutesAt f s := by
  simp only [Action.CommutesAt, recommend]
  split
  · rfl
  · split
    · rfl
    · exact lookUp_commutesAt h ..

end Advisor

namespace Engine

open Till.Action (CommutesAt commutesAt_query commutesAt_transact commutesAt_runWhen)

variable {κ : Type} {rs : List OutcomeRecord}

theorem advisorAccess_commutes (c : CacheAccess κ) :
    Advisor.AccessCommutes (·.withOutcomes rs) (advisorAccess c) :=
  ⟨fun _ _ => rfl, fun _ _ _ _ => rfl, fun _ _ _ _ => rfl⟩

/-- **Giving suggestions with a sale** does not read stored outcomes. -/
theorem withSuggestions_unread (e : Engine) (c : CacheAccess κ) (t : Transaction) (w : World κ) :
    (e.withSuggestions c t).CommutesAt (·.withOutcomes rs) w := by
  have hrecommend : e.advisor.recommend (advisorAccess c) t.store (t.lines.map (·.product))
      (w.withOutcomes rs) = Prod.map id (·.withOutcomes rs)
        (e.advisor.recommend (advisorAccess c) t.store (t.lines.map (·.product)) w) :=
    Advisor.recommend_commutesAt (advisorAccess_commutes c) ..
  simp only [CommutesAt, withSuggestions, hrecommend]
  generalize e.advisor.recommend (advisorAccess c) t.store (t.lines.map (·.product)) w = advised
  rcases advised with ⟨(_ | _) | _, _⟩ <;> rfl

/-! ### Requests -/

theorem requireProducts_withOutcomes (s : Store) (store : String) (products : List String) :
    requireProducts (s.withOutcomes rs) store products = requireProducts s store products := by
  induction products with
  | nil => rfl
  | cons id products ih =>
    simp only [requireProducts, ih]
    rfl

/-- A request on the store alone, that is not one to sell, does not read stored outcomes. -/
theorem deal_unread (e : Engine) (ids : Ids) (actor : Actor) (now : Instant) {r : Request}
    (h : ∀ cart key, r ≠ .checkout cart key) (s : Store) :
    (e.deal ids actor now r).CommutesAt (·.withOutcomes rs) s := by
  cases r <;> rw [deal]
  case openShift cash =>
    refine (commutesAt_transact (Outcome.bind_eq_map_of_eq rfl fun sh _ => ?_)).mapAnswer _
    exact Outcome.bind_eq_map (Stored.result_eq_map (Store.addShift_withOutcomes sh)) fun _ _ => rfl
  case closeShift id cash =>
    refine (commutesAt_runWhen _ _ (Outcome.bind_eq_map_of_eq rfl fun planned _ => ?_)).mapAnswer _
    exact Outcome.bind_eq_map (Stored.result_eq_map (Store.closeShift_withOutcomes _))
      fun _ _ => rfl
  case recordEntry id entry =>
    refine (commutesAt_transact (Outcome.bind_eq_map_of_eq rfl fun _ _ => ?_)).mapAnswer _
    refine Outcome.bind_eq_map_of_eq rfl fun sh _ => ?_
    refine Outcome.bind_eq_map_of_eq rfl fun _ _ => ?_
    exact Outcome.bind_eq_map (Stored.result_eq_map (Store.appendEntry_withOutcomes ..))
      fun _ _ => rfl
  case checkout cart key => exact absurd rfl (h cart key)
  case void id reason =>
    refine (commutesAt_transact (Outcome.bind_eq_map_of_eq rfl fun planned _ => ?_)).mapAnswer _
    exact Outcome.bind_eq_map (Stored.result_eq_map (Store.commitVoid_withOutcomes _))
      fun _ _ => rfl
  case refund id amount reason =>
    rw [refund_eq]
    refine (commutesAt_transact (Outcome.bind_eq_map_of_eq rfl fun sh _ => ?_)).mapAnswer _
    refine Outcome.bind_eq_map_of_eq rfl fun u _ => ?_
    exact Outcome.bind_eq_map (Stored.result_eq_map (Store.commitRefund_withOutcomes _))
      fun _ _ => rfl
  case registerProduct p =>
    refine (commutesAt_transact (Outcome.bind_eq_map_of_eq rfl fun _ _ => ?_)).mapAnswer _
    exact Outcome.bind_eq_map (Stored.result_eq_map (Store.addProduct_withOutcomes _))
      fun _ _ => rfl
  case registerSupplier p =>
    refine (commutesAt_transact (Outcome.bind_eq_map_of_eq rfl fun _ _ => ?_)).mapAnswer _
    exact Outcome.bind_eq_map (Stored.result_eq_map (Store.addSupplier_withOutcomes _))
      fun _ _ => rfl
  case createOrder o =>
    refine (commutesAt_transact (Outcome.bind_eq_map_of_eq rfl fun _ _ => ?_)).mapAnswer _
    refine Outcome.bind_eq_map_of_eq rfl fun _ _ => ?_
    refine Outcome.bind_eq_map_of_eq rfl fun _ _ => ?_
    refine Outcome.bind_eq_map_of_eq (requireProducts_withOutcomes ..) fun _ _ => ?_
    exact Outcome.bind_eq_map (Stored.result_eq_map (Store.addOrder_withOutcomes _)) fun _ _ => rfl
  case receiveOrder id lines =>
    refine (commutesAt_transact (Outcome.bind_eq_map_of_eq rfl fun u _ => ?_)).mapAnswer _
    refine Outcome.bind_eq_map (Stored.result_eq_map (Store.commitReceipt_withOutcomes _))
      fun _ _ => ?_
    exact Outcome.bind_eq_map_of_eq rfl fun _ _ => rfl
  -- What is left only looks at other tables.
  all_goals exact (commutesAt_query rfl).mapAnswer _

/-- **A request that is not one to sell does not read stored outcomes**, and leaves them alone. -/
theorem handle_unread (e : Engine) (c : CacheAccess κ) (ids : Ids) (actor : Actor) {r : Request}
    (h : ∀ cart key, r ≠ .checkout cart key) (w : World κ) :
    (e.handle c ids actor r).CommutesAt (·.withOutcomes rs) w := by
  cases hadvice : r.seeksAdvice with
  | false =>
    have hdeal : e.deal ids actor w.now r (w.store.withOutcomes rs) =
        Prod.map id (·.withOutcomes rs) (e.deal ids actor w.now r w.store) :=
      e.deal_unread ids actor w.now h w.store
    simp only [CommutesAt, handle_eq_deal e c ids actor hadvice, World.withOutcomes, hdeal]
    rfl
  | true =>
    cases r with
    | checkout cart key => exact absurd rfl (h cart key)
    | recommend cart =>
      exact (Advisor.recommend_commutesAt (advisorAccess_commutes c) ..).mapAnswer _
    | _ => cases hadvice

end Engine

end Till
