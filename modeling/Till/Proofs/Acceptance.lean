import Till.Proofs.AtMostOnce
import Till.Proofs.Booking
import Till.Proofs.CacheKeys
import Till.Proofs.Places
import Till.Proofs.Unadvised

/-!
# Which carts are sold

The conditions of a checkout are tested in many places: in the rules for the fields of a cart, by
the role of the actor, by pricing, and by the unit of work, product by product.  This file states
them all at once, in terms of the cart and of what the store holds, and proves that nothing else
decides.

* `Cart.WellFormed`, `Cart.check_eq_ok` : the rules for the fields;
* `Engine.Legitimate` : a cart that an actor may sell;
* `Engine.sale_eq_ok_iff` : under a claim and with room, exactly such carts are sold;
* `Store.GainsSale` : what the store gains by a sale;
* `Engine.run_sellsExactly` : so it is at a till after every run, and a cart that is not legitimate
  is refused with a reason and leaves nothing behind but that reason.
-/

namespace Till

open Outcome (Answers)

/-! ### Carts -/

/-- **The fields of a cart are well formed.** -/
structure Cart.WellFormed (cart : Cart) : Prop where
  count : 1 ≤ cart.lines.length ∧ cart.lines.length ≤ 100
  distinct : cart.products.Nodup
  identifiers : ∀ l ∈ cart.lines, Text.isBlankText l.product = false ∧ l.product.utf8ByteSize ≤ 64
  quantities : ∀ l ∈ cart.lines, 1 ≤ l.quantity ∧ l.quantity ≤ 999
  prices : ∀ l ∈ cart.lines, 0 ≤ l.unitPrice
  /-- Totals entered by hand have a reason. -/
  reason : ∀ o ∈ cart.manual, Text.isBlankText o.reason = false ∧ o.reason.utf8ByteSize ≤ 500

namespace Cart

variable {cart : Cart}

theorem checkLine_eq_ok {l : CartLine} {u : Unit} : checkLine l = .ok u ↔
    (Text.isBlankText l.product = false ∧ l.product.utf8ByteSize ≤ 64) ∧
      (0 < l.quantity ∧ l.quantity ≤ 999) ∧ 0 ≤ l.unitPrice := by
  simp only [checkLine, Outcome.bind_eq_ok, Field.identifier_eq_ok, Field.quantity_eq_ok,
    Field.price, Field.notNegative_eq_ok, exists_const, Field.greatestQuantity]

theorem check_eq_ok {u : Unit} : cart.check = .ok u ↔ cart.WellFormed := by
  have htests : cart.check = .ok u ↔
      (0 < cart.lines.length ∧ cart.lines.length ≤ 100) ∧ cart.products.Nodup ∧
        (∀ l ∈ cart.lines, checkLine l = .ok ()) ∧
          ∀ o ∈ cart.manual, Text.isBlankText o.reason = false ∧ o.reason.utf8ByteSize ≤ 500 := by
    cases hmanual : cart.manual <;>
      simp only [check, hmanual, Outcome.bind_eq_ok, Field.lineCount_eq_ok, Field.mostLines,
        Field.distinct_eq_ok, Field.each_eq_ok, Field.reason_eq_ok, exists_const,
        Option.mem_some_iff, forall_eq', Option.not_mem_none, false_implies, implies_true]
  simp only [htests, checkLine_eq_ok]
  constructor
  · rintro ⟨hcount, hdistinct, hlines, hreason⟩
    exact ⟨hcount, hdistinct, fun l hl => (hlines l hl).1, fun l hl => (hlines l hl).2.1,
      fun l hl => (hlines l hl).2.2, hreason⟩
  · rintro h
    exact ⟨h.count, h.distinct,
      fun l hl => ⟨h.identifiers l hl, h.quantities l hl, h.prices l hl⟩, h.reason⟩

/-- Where the totals of a cart come from, as an actor sells it. -/
def pricing (cart : Cart) (actor : Actor) : PricingRecord :=
  match cart.manual with
  | some o => ⟨.manual, some o.reason, some actor.approver⟩
  | none => {}

theorem pricingRecord_eq_ok {actor : Actor} {p : PricingRecord} :
    Transaction.pricingRecord actor cart.manual = .ok p ↔
      (cart.manual ≠ none → actor.isElevated = true) ∧ p = cart.pricing actor := by
  unfold Transaction.pricingRecord pricing
  cases cart.manual <;> simp [Actor.requireElevated, eq_comm (a := p)]

theorem source_pricing {actor : Actor} :
    (cart.pricing actor).source = .manual ↔ cart.manual ≠ none := by
  unfold pricing
  cases cart.manual <;> simp

end Cart

theorem Transaction.numberedLines_eq_mapIdx (n : Nat) (lines : List CartLine) :
    numberedLines n lines = lines.mapIdx fun i l => LineItem.ofCartLine (n + i) l := by
  induction lines generalizing n with
  | nil => rfl
  | cons l lines ih =>
    rw [numberedLines, ih, List.mapIdx_cons]
    simp only [Nat.add_zero, Nat.add_assoc, Nat.add_comm 1]

theorem Engine.saleMovements_sold (ids : Ids) (cart : Cart) (c : SaleContext)
    (pricing : PricingRecord) (totals : Totals) :
    saleMovements ids (Transaction.sold cart c pricing totals) =
      cart.lines.mapIdx fun i l =>
        ⟨ids.movement i, l.product, c.actor.store, -l.quantity, .sale, c.id, c.at'⟩ := by
  simp only [saleMovements, Transaction.sold, Transaction.numberedLines_eq_mapIdx,
    List.mapIdx_mapIdx]
  rfl

/-! ### Sales -/

section

variable {e : Engine} {ids : Ids} {now : Instant} {actor : Actor} {cart : Cart} {key : String}
  {claim : Claim} {s after : Store} {sh : Shift} {totals : Totals} {t : Transaction}

namespace Engine

/-- **A cart is legitimate**: an actor may sell it as things stand in a store. -/
structure Legitimate (e : Engine) (actor : Actor) (cart : Cart) (s : Store) : Prop where
  /-- The actor has an open shift there. -/
  shift : ∃ sh, s.openShift? actor.cashier actor.store = some sh
  wellFormed : cart.WellFormed
  /-- Only elevated actors enter totals by hand. -/
  approved : cart.manual ≠ none → actor.isElevated = true
  /-- It can be priced. -/
  priced : ∃ totals,
    Pricing.computeTotals cart.lines cart.discount e.rate cart.manual = .ok totals
  /-- What is in it is sold there, at its price unless the totals are entered by hand. -/
  catalog : ∀ l ∈ cart.lines, ∃ p, s.activeProduct? actor.store l.product = some p ∧
    (cart.manual = none → p.unitPrice = l.unitPrice)
  /-- There is enough of it. -/
  stock : ∀ l ∈ cart.lines, ∃ available,
    s.stockLevel actor.store l.product = .ok available ∧ l.quantity ≤ available

/-- The completed transaction of a cart that is sold in a shift. -/
def saleOf (e : Engine) (ids : Ids) (now : Instant) (actor : Actor) (cart : Cart) (key : String)
    (sh : Shift) (totals : Totals) : Transaction :=
  Transaction.sold cart ⟨ids.subject, actor, sh.id, key, e.rate, now⟩ (cart.pricing actor) totals

theorem isSold_iff {c : SaleContext} {pricing : PricingRecord} (hactor : c.actor = actor)
    (hrate : c.rate = e.rate) : Transaction.IsSold cart c pricing totals ↔
      cart.WellFormed ∧ (cart.manual ≠ none → actor.isElevated = true) ∧
        pricing = cart.pricing actor ∧
        Pricing.computeTotals cart.lines cart.discount e.rate cart.manual = .ok totals := by
  subst hactor
  rw [← hrate]
  constructor
  · rintro ⟨hcheck, hpricing, htotals⟩
    obtain ⟨happroved, rfl⟩ := Cart.pricingRecord_eq_ok.1 hpricing
    exact ⟨Cart.check_eq_ok.1 hcheck, happroved, rfl, htotals⟩
  · rintro ⟨hwell, happroved, rfl, htotals⟩
    exact ⟨Cart.check_eq_ok.2 hwell, Cart.pricingRecord_eq_ok.2 ⟨happroved, rfl⟩, htotals⟩

/-- The lines of a sale are those of the cart, with their positions. -/
theorem forall_lines_saleOf {p : LineItem → Prop}
    (h : ∀ i, ∀ l ∈ cart.lines, p (LineItem.ofCartLine i l)) :
    ∀ l ∈ (e.saleOf ids now actor cart key sh totals).lines, p l := by
  intro l hl
  obtain ⟨k, -, l', hl', rfl⟩ := Transaction.mem_numberedLines hl
  exact h _ l' hl'

/-- So are its movements. -/
theorem forall_saleMovements {p : StockMovement → Prop}
    (h : ∀ i, ∀ l ∈ cart.lines,
      p ⟨ids.movement i, l.product, actor.store, -l.quantity, .sale, ids.subject, now⟩) :
    ∀ m ∈ saleMovements ids (e.saleOf ids now actor cart key sh totals), p m := by
  rw [saleOf, saleMovements_sold]
  exact Rows.forall_mem_mapIdx h

/-- Every line of the cart is there, -/
theorem mem_lines_saleOf {l : CartLine} (hl : l ∈ cart.lines) :
    ∃ i, LineItem.ofCartLine i l ∈ (e.saleOf ids now actor cart key sh totals).lines := by
  obtain ⟨i, hi, rfl⟩ := List.mem_iff_getElem.1 hl
  refine ⟨1 + i, ?_⟩
  rw [saleOf, Transaction.sold, Transaction.numberedLines_eq_mapIdx]
  exact List.mem_mapIdx.2 ⟨i, hi, rfl⟩

/-- and moves its units. -/
theorem mem_saleMovements {l : CartLine} (hl : l ∈ cart.lines) : ∃ i,
    (⟨ids.movement i, l.product, actor.store, -l.quantity, .sale, ids.subject, now⟩ :
      StockMovement) ∈ saleMovements ids (e.saleOf ids now actor cart key sh totals) := by
  obtain ⟨i, hi, rfl⟩ := List.mem_iff_getElem.1 hl
  rw [saleOf, saleMovements_sold]
  exact ⟨i, List.mem_mapIdx.2 ⟨i, hi, rfl⟩⟩

/-- Of every product leave as many units as its line says. -/
theorem unitsLeaving_saleMovements (hwell : cart.WellFormed) {l : CartLine} (hl : l ∈ cart.lines) :
    Store.unitsLeaving (saleMovements ids (e.saleOf ids now actor cart key sh totals)) l.product =
      .ok l.quantity := by
  have hmoves : ∃ i, (⟨ids.movement i, l.product, actor.store, -l.quantity, .sale, ids.subject,
      now⟩ : StockMovement) ∈ saleMovements ids (e.saleOf ids now actor cart key sh totals) :=
    mem_saleMovements hl
  have hproducts : (saleMovements ids (e.saleOf ids now actor cart key sh totals)).map (·.product) =
      cart.products := by
    rw [saleOf, saleMovements_sold, Cart.products]
    refine Rows.map_mapIdx ?_ cart.lines
    intro i l
    rfl
  obtain ⟨i, hi⟩ := hmoves
  have hquantity := hwell.quantities l hl
  have hfits : Cents.Fits (- -l.quantity) := by
    simp only [Cents.Fits, Cents.least, Cents.greatest]
    omega
  have hunits := Store.unitsLeaving_of_mem (hproducts ▸ hwell.distinct) hi
    (Int.neg_neg_of_pos hquantity.1) hfits
  rwa [Int.neg_neg] at hunits

/-- **A legitimate cart passes all tests** of its unit of work. -/
theorem Legitimate.saleFits (h : e.Legitimate actor cart s)
    (claims : Claims e.keyLifetime ⟨actor.store, actor.cashier, key, now⟩ s claim)
    (room : s.HasRoom ids) (k : s.Keyed) (logs : s.Logs)
    (hshift : s.openShift? actor.cashier actor.store = some sh)
    (htotals : Pricing.computeTotals cart.lines cart.discount e.rate cart.manual = .ok totals) :
    let t := e.saleOf ids now actor cart key sh totals
    s.SaleFits (saleUnit ids claim t) sh (eventFor ids t .sale t.grand sh now) := by
  intro t
  obtain ⟨hmem, -, -, hopen⟩ := Store.openShift?_eq_some hshift
  obtain ⟨-, rfl⟩ := Claim.make_eq_ok.1 claims.made
  have hgrand : 0 ≤ totals.grand := Pricing.computeTotals_nonneg htotals
  have hproduct : ∀ l ∈ cart.lines, s.hasProduct l.product = true := by
    intro l hl
    obtain ⟨p, hp, -⟩ := h.catalog l hl
    exact (Store.carries_of_activeProduct? (Option.isSome_iff_exists.2 ⟨p, hp⟩)).hasProduct
  obtain ⟨hmovements, hdistinct⟩ := room.movements
    (f := fun i (l : LineItem) => movement (e.saleOf ids now actor cart key sh totals) .sale now
      (ids.movement i) l.product (-l.quantity)) (fun _ _ => rfl)
    (fun _ => forall_lines_saleOf fun i l hl => ⟨by
      have hquantity := (h.wellFormed.quantities l hl).1
      simp only [movement, LineItem.ofCartLine]
      omega, hproduct l hl⟩)
  constructor
  case unclaimed => exact Store.hasOutcome_forgetExpired claims.free
  case prices =>
    by_cases hmanual : cart.manual = none
    · refine .inr (forall_lines_saleOf fun i l hl => ?_)
      obtain ⟨p, hp, hprice⟩ := h.catalog l hl
      exact ⟨p, hp, hprice hmanual⟩
    · exact .inl (Cart.source_pricing.2 hmanual)
  case available =>
    refine forall_saleMovements fun i l hl _ => ?_
    obtain ⟨p, hp, -⟩ := h.catalog l hl
    obtain ⟨available, hlevel, hle⟩ := h.stock l hl
    exact ⟨Option.isSome_iff_exists.2 ⟨p, hp⟩, l.quantity, available,
      unitsLeaving_saleMovements h.wellFormed hl, hlevel, hle⟩
  case refunded => exact ⟨Int.le_refl 0, hgrand⟩
  case fresh => exact room.unused.transaction
  case lines =>
    exact forall_lines_saleOf fun i l hl =>
      ⟨(h.wellFormed.quantities l hl).1, hproduct l hl⟩
  case numbers => exact (Transaction.numberedLines_pairwise 1 cart.lines).imp Int.ne_of_lt
  case movements => exact hmovements
  case distinct => exact hdistinct
  case entry => rfl
  case appends => exact room.appends k logs hmem hopen hgrand

/-- **A cart that passes the tests** of its unit of work is legitimate. -/
theorem Legitimate.of_saleFits {ev : DrawerEvent} {sh' : Shift}
    (hshift : s.openShift? actor.cashier actor.store = some sh) (hwell : cart.WellFormed)
    (happroved : cart.manual ≠ none → actor.isElevated = true)
    (htotals : Pricing.computeTotals cart.lines cart.discount e.rate cart.manual = .ok totals)
    (fits : s.SaleFits (saleUnit ids claim (e.saleOf ids now actor cart key sh totals)) sh' ev) :
    e.Legitimate actor cart s := by
  have hleaves : ∀ l ∈ cart.lines, (s.activeProduct? actor.store l.product).isSome ∧
      ∃ available, s.stockLevel actor.store l.product = .ok available ∧
        l.quantity ≤ available := by
    intro l hl
    have hmoves : ∃ i, (⟨ids.movement i, l.product, actor.store, -l.quantity, .sale, ids.subject,
        now⟩ : StockMovement) ∈ saleMovements ids (e.saleOf ids now actor cart key sh totals) :=
      mem_saleMovements hl
    obtain ⟨i, hi⟩ := hmoves
    obtain ⟨hactive, units, available, hunits, hlevel, hle⟩ :=
      fits.available _ hi (Int.neg_neg_of_pos (hwell.quantities l hl).1)
    obtain rfl := Except.ok.inj (hunits.symm.trans (unitsLeaving_saleMovements hwell hl))
    exact ⟨hactive, available, hlevel, hle⟩
  refine ⟨⟨sh, hshift⟩, hwell, happroved, ⟨totals, htotals⟩, fun l hl => ?_,
    fun l hl => (hleaves l hl).2⟩
  obtain ⟨p, hp⟩ := Option.isSome_iff_exists.1 (hleaves l hl).1
  refine ⟨p, hp, fun hnone => ?_⟩
  rcases fits.prices with hmanual | hpriced
  · exact absurd hnone (Cart.source_pricing.1 hmanual)
  · have hline : ∃ i, LineItem.ofCartLine i l ∈
        (e.saleOf ids now actor cart key sh totals).lines := mem_lines_saleOf hl
    obtain ⟨i, hi⟩ := hline
    obtain ⟨p', hp', hprice⟩ := hpriced _ hi
    obtain rfl := Option.some.inj (hp.symm.trans hp')
    exact hprice

/-- **Exactly the legitimate carts are sold** under a claim on their key, if there is room. -/
theorem sale_eq_ok_iff
    (claims : Claims e.keyLifetime ⟨actor.store, actor.cashier, key, now⟩ s claim)
    (room : s.HasRoom ids) (k : s.Keyed) (logs : s.Logs) :
    e.sale ids now actor cart claim s = .ok (t, after) ↔
      e.Legitimate actor cart s ∧ ∃ sh totals,
        s.openShift? actor.cashier actor.store = some sh ∧
        Pricing.computeTotals cart.lines cart.discount e.rate cart.manual = .ok totals ∧
        t = e.saleOf ids now actor cart key sh totals ∧
        after = s.afterSale (saleUnit ids claim t) (eventFor ids t .sale t.grand sh now) := by
  have hkey : claim.key = key := by rw [(Claim.make_eq_ok.1 claims.made).2]
  simp only [sale, Outcome.bind_eq_ok, Stored.result_eq_ok, Outcome.pure_eq_ok, Prod.mk.injEq]
  constructor
  · rintro ⟨u, hplan, booked, hbooked, rfl, rfl⟩
    obtain ⟨sh, pricing, totals, hshift, hsold, rfl⟩ := planSale_eq_ok hplan
    obtain ⟨sh', ev, fits, rfl⟩ := Store.commitSale_eq_ok hbooked
    obtain ⟨hwell, happroved, rfl, htotals⟩ := (isSold_iff rfl rfl).1 hsold
    rw [hkey] at fits ⊢
    obtain rfl := fits.appends.eq_of_id k (Store.openShift?_eq_some hshift).1
      (by rw [fits.entry]; rfl)
    refine ⟨.of_saleFits hshift hwell happroved htotals fits, sh', totals, hshift, htotals, rfl, ?_⟩
    rw [fits.entry]
    rfl
  · rintro ⟨legitimate, sh, totals, hshift, htotals, rfl, rfl⟩
    have fits := legitimate.saleFits claims room k logs hshift htotals
    have hsold : Transaction.IsSold cart ⟨ids.subject, actor, sh.id, claim.key, e.rate, now⟩
        (cart.pricing actor) totals :=
      (isSold_iff rfl rfl).2 ⟨legitimate.wellFormed, legitimate.approved, rfl, htotals⟩
    refine ⟨_, planSale_of_isSold hshift hsold, _, ?_, ?_, rfl⟩
    · rw [hkey]
      exact fits.commits
    · rw [hkey]
      rfl

end Engine

/-! ### What the store gains -/

/-- **A store gains a sale**: a transaction, a movement for each line, an event at the end of the
log of the shift, and the success under the key, in place of an expired one.  All else stays. -/
structure Store.GainsSale (s after : Store) (ids : Ids) (cart : Cart) (claim : Claim)
    (t : Transaction) : Prop where
  /-- The lines of the transaction are those of the cart, numbered from 1. -/
  lines : t.lines =
    cart.lines.mapIdx fun i l => ⟨1 + i, l.product, l.quantity, l.unitPrice, l.discount⟩
  transactions : after.transactions = s.transactions ++ [t]
  movements : after.movements = s.movements ++ cart.lines.mapIdx fun i l =>
    ⟨ids.movement i, l.product, t.store, -l.quantity, .sale, t.id, t.createdAt⟩
  shifts : after.shifts = s.shiftsWith t.shift ids.event
    ⟨.sale, t.grand, some t.payment, some t.id⟩ t.createdAt
  outcomes : after.outcomes =
    (s.outcomes.filter fun o => !Store.belongs claim.store claim.cashier claim.key o) ++
      [claim.record (some t.id) (.success t.toJson)]
  rest : after.products = s.products ∧ after.suppliers = s.suppliers ∧ after.orders = s.orders ∧
    after.refunds = s.refunds

namespace Engine

theorem gainsSale_afterSale
    (claims : Claims e.keyLifetime ⟨actor.store, actor.cashier, key, now⟩ s claim) (k : s.Keyed)
    (logs : s.Logs) (hmem : sh ∈ s.shifts) :
    let t := e.saleOf ids now actor cart key sh totals
    s.GainsSale (s.afterSale (saleUnit ids claim t) (eventFor ids t .sale t.grand sh now)) ids cart
      claim t := by
  intro t
  have hrecord : (claim.record (some t.id) (.success t.toJson)).kept =
      claim.record (some t.id) (.success t.toJson) := by
    simp only [OutcomeRecord.kept, Claim.record, StoredOutcome.kept, Transaction.kept_toJson]
  have hfree : s.outcome? claim.store claim.cashier claim.key now = none := by
    obtain ⟨-, rfl⟩ := Claim.make_eq_ok.1 claims.made
    exact claims.free
  have hremembered := Store.remembered_of_free
    (r := claim.record (some t.id) (.success t.toJson)) hfree
  rw [hrecord] at hremembered
  refine ⟨Transaction.numberedLines_eq_mapIdx 1 cart.lines, ?_, ?_, ?_,
    congrArg Store.outcomes hremembered, rfl, rfl, rfl, rfl⟩
  · exact congrArg (fun u => s.transactions ++ [u]) (Store.unvoided_sold ..)
  · exact congrArg (s.movements ++ ·) (saleMovements_sold ..)
  · exact Store.shifts_logged_place k logs hmem (entryFor t .sale t.grand) ids.event now

/-! ### Requests -/

variable {κ : Type} {c : CacheAccess κ} {w : World κ}

/-- Under a claim a sale is made exactly if its body makes it. -/
theorem sellOnce_eq_ok_iff
    (claims : Claims e.keyLifetime ⟨actor.store, actor.cashier, key, now⟩ s claim) :
    e.sellOnce ids now actor cart key s = (.ok t, after) ↔
      e.sale ids now actor cart claim s = .ok (t, after) := by
  rw [sellOnce_of_claims claims, Action.transact]
  cases hsale : e.sale ids now actor cart claim s with
  | ok done => simp [settle, Prod.ext_iff]
  | error fault =>
    simp only [reduceCtorEq, iff_false]
    by_cases hkind : fault.IsValidation
    · cases fault with
      | overflow => cases hkind
      | rejected reason =>
        rw [settle_validation claims hkind]
        simp
    · rw [settle_error claims.free hkind]
      simp

/-- **All that a sale needs** besides a legitimate cart: a claim on its key, and room. -/
structure Ready (e : Engine) (ids : Ids) (actor : Actor) (key : String) (claim : Claim)
    (w : World κ) : Prop where
  claims : Claims e.keyLifetime ⟨actor.store, actor.cashier, key, w.now⟩ w.store claim
  room : w.store.HasRoom ids

/-- **A till sells exactly the legitimate carts.** -/
structure SellsExactly (e : Engine) (c : CacheAccess κ) (w : World κ) : Prop where
  /-- A cart is sold exactly if it is legitimate. -/
  accepts : ∀ ids actor cart key claim, e.Ready ids actor key claim w →
    ((∃ t, (e.sellOnce ids w.now actor cart key w.store).1 = .ok t) ↔
      e.Legitimate actor cart w.store)
  /-- Then the completed transaction has its totals, and the store gains nothing but this sale. -/
  gains : ∀ ids actor cart key claim, e.Ready ids actor key claim w →
    ∀ t after, e.sellOnce ids w.now actor cart key w.store = (.ok t, after) →
      ∃ sh totals, w.store.openShift? actor.cashier actor.store = some sh ∧
        Pricing.computeTotals cart.lines cart.discount e.rate cart.manual = .ok totals ∧
        t = e.saleOf ids w.now actor cart key sh totals ∧
        w.store.GainsSale after ids cart claim t
  /-- Otherwise it is refused with a reason, and nothing is kept but that reason if the request is
  wrong in itself. -/
  refuses : ∀ ids actor cart key claim, e.Ready ids actor key claim w →
    ¬Pricing.Overruns cart.lines cart.discount e.rate cart.manual →
    ¬e.Legitimate actor cart w.store →
      ∃ reason, e.sellOnce ids w.now actor cart key w.store = (.error (.rejected reason),
        if reason.kind = .validation then
          w.store.remembered (claim.record none (.ofRejection reason)) w.now
        else w.store)
  /-- A checkout does to the store what selling does, -/
  checkouts : ∀ ids actor cart key, (e.handle c ids actor (.checkout cart key) w).2.store =
    (e.sellOnce ids w.now actor cart key w.store).2
  /-- and answers with the receipt of the sale, if the cache is safe to use, or with the reason. -/
  answers : e.advisor.SafeWith c w.uptime → ∀ ids actor cart key,
    match (e.sellOnce ids w.now actor cart key w.store).1 with
    | .ok t => ∃ advice, (e.handle c ids actor (.checkout cart key) w).1 =
        .ok (.receipt ⟨t, advice⟩)
    | .error fault => (e.handle c ids actor (.checkout cart key) w).1 = .error fault

theorem sellsExactly (e : Engine) (c : CacheAccess κ) (k : w.store.Keyed) (logs : w.store.Logs) :
    e.SellsExactly c w where
  accepts ids actor cart key claim ready := by
    constructor
    · rintro ⟨t, ht⟩
      exact ((sale_eq_ok_iff ready.claims ready.room k logs).1
        ((sellOnce_eq_ok_iff ready.claims).1 (Prod.ext ht rfl))).1
    · intro legitimate
      obtain ⟨sh, hshift⟩ := legitimate.shift
      obtain ⟨totals, htotals⟩ := legitimate.priced
      have hsold := (sale_eq_ok_iff ready.claims ready.room k logs).2
        ⟨legitimate, sh, totals, hshift, htotals, rfl, rfl⟩
      exact ⟨_, congrArg Prod.fst ((sellOnce_eq_ok_iff ready.claims).2 hsold)⟩
  gains ids actor cart key claim ready t after hsold := by
    obtain ⟨-, sh, totals, hshift, htotals, rfl, rfl⟩ :=
      (sale_eq_ok_iff ready.claims ready.room k logs).1
        ((sellOnce_eq_ok_iff ready.claims).1 hsold)
    exact ⟨sh, totals, hshift, htotals, rfl,
      gainsSale_afterSale ready.claims k logs (Store.openShift?_eq_some hshift).1⟩
  refuses ids actor cart key claim ready hoverruns hnot := by
    have hanswers : Answers (e.sale ids w.now actor cart claim w.store) := answers_sale hoverruns
    rcases hanswers with ⟨⟨t, after⟩, hsale⟩ | ⟨reason, hsale⟩
    · exact absurd ((sale_eq_ok_iff ready.claims ready.room k logs).1 hsale).1 hnot
    refine ⟨reason, ?_⟩
    rw [sellOnce_of_claims ready.claims, Action.transact, hsale]
    by_cases hkind : reason.kind = .validation
    · rw [if_pos hkind]
      exact settle_validation ready.claims hkind
    · rw [if_neg hkind]
      exact settle_error ready.claims.free hkind
  checkouts ids actor cart key := by
    obtain ⟨cache, hafter⟩ := e.handle_snd c ids actor (.checkout cart key) w
    rw [hafter]
    exact mapAnswer_snd _ _ _
  answers safe ids actor cart key := by
    rcases hsold : e.sellOnce ids w.now actor cart key w.store with ⟨fault | t, after⟩
    · simp only [handle, Action.mapAnswer_fst, checkout_of_error e c ids actor cart key hsold]
      rfl
    · exact handle_checkout_of_sold safe (congrArg Prod.fst hsold)

/-- **A till sells exactly the legitimate carts after every run**, and its logs have room as long as
it has not made more steps than 64 bits can count. -/
theorem run_sellsExactly (e : Engine) (c : CacheAccess κ) (now : Instant) (cache : κ)
    (steps : List (Step κ)) :
    e.SellsExactly c (e.run c (World.empty now cache) steps) ∧
      ∀ sh ∈ (e.run c (World.empty now cache) steps).store.shifts,
        sh.events.length ≤ steps.length :=
  ⟨e.sellsExactly c (e.run_sound c now cache steps).keyed (e.run_logs c now cache steps),
    e.run_logs_length c now cache steps⟩

end Engine

end

namespace DoubleSale

/-- Of two units one can be sold, at its price, -/
theorem legitimate_cart : (till 3600000000000).Legitimate manager cart (stocked ⟨0⟩) where
  shift := ⟨_, rfl⟩
  wellFormed := (Cart.check_eq_ok (u := ())).1 (by decide +kernel)
  approved := nofun
  priced := ⟨⟨5, 0, 0, 5⟩, by decide +kernel⟩
  catalog := List.forall_mem_singleton.2 ⟨_, rfl, fun _ => rfl⟩
  stock := List.forall_mem_singleton.2 ⟨2, by decide +kernel, by decide⟩

/-- Three units of the product. -/
def three : Cart := { cart with lines := [⟨"1", 3, 5, 0⟩] }

/-- but three cannot. -/
theorem not_legitimate_three :
    ¬(till 3600000000000).Legitimate manager three (stocked ⟨0⟩) := by
  intro legitimate
  obtain ⟨available, hlevel, hle⟩ := legitimate.stock ⟨"1", 3, 5, 0⟩ List.mem_cons_self
  have htwo : (stocked ⟨0⟩).stockLevel "store" "1" = .ok 2 := by decide +kernel
  obtain rfl := Except.ok.inj (hlevel.symm.trans htwo)
  exact absurd hle (by decide)

theorem saleOf_eq_sold {lifetime : Int} {start : Instant} {ids : Ids} {sh : Shift} {totals : Totals}
    (hshift : (stocked start).openShift? manager.cashier manager.store = some sh)
    (htotals : Pricing.computeTotals cart.lines cart.discount ⟨0⟩ cart.manual = .ok totals) :
    (till lifetime).saleOf ids start manager cart "key" sh totals = sold ids.subject start := by
  have hfive : Pricing.computeTotals cart.lines cart.discount ⟨0⟩ cart.manual =
      .ok ⟨5, 0, 0, 5⟩ := by decide +kernel
  obtain rfl := Option.some.inj hshift
  obtain rfl := Except.ok.inj (htotals.symm.trans hfive)
  rfl

/-- Of two units one is sold, and three are refused. -/
theorem run_sellsExactly_oneOfTwo :
    let e := till 3600000000000
    let w := e.run Cache.access (World.empty ⟨0⟩ .absent) stocking
    let ids := Ids.strokes 2
    let claimed := claim 3600000000000 ⟨0⟩
    e.Ready ids manager "key" claimed w ∧
      e.Legitimate manager cart w.store ∧
      (∃ after,
        e.sellOnce ids w.now manager cart "key" w.store = (.ok (sold ids.subject ⟨0⟩), after) ∧
          w.store.GainsSale after ids cart claimed (sold ids.subject ⟨0⟩)) ∧
      ¬e.Legitimate manager three w.store ∧
      ∃ reason after,
        e.sellOnce ids w.now manager three "key" w.store = (.error (.rejected reason), after) := by
  intro e w ids claimed
  have hw : w = world (stocked ⟨0⟩) ⟨0⟩ := run_stocking
  have ready : e.Ready ids manager "key" claimed w := by
    rw [hw]
    exact ⟨claims_of_free (by decide +kernel) rfl,
      ⟨Ids.unused_strokes (by decide), List.forall_mem_singleton.2 (by decide)⟩⟩
  have legitimate : e.Legitimate manager cart w.store := hw ▸ legitimate_cart
  have hthree : ¬e.Legitimate manager three w.store := hw ▸ not_legitimate_three
  have exactly : e.SellsExactly Cache.access w :=
    (Engine.run_sellsExactly e Cache.access ⟨0⟩ .absent stocking).1
  refine ⟨ready, legitimate, ?_, hthree, ?_⟩
  · obtain ⟨t, ht⟩ := (exactly.accepts _ _ _ _ _ ready).2 legitimate
    obtain ⟨sh, totals, hshift, htotals, rfl, gains⟩ :=
      exactly.gains _ _ _ _ _ ready t _ (Prod.ext ht rfl)
    have hsold : e.saleOf ids w.now manager cart "key" sh totals = sold ids.subject ⟨0⟩ := by
      rw [hw] at hshift ⊢
      exact saleOf_eq_sold hshift htotals
    rw [hsold] at ht gains
    exact ⟨_, Prod.ext ht rfl, gains⟩
  · have hfits : ¬Pricing.Overruns three.lines three.discount e.rate three.manual := by
      rintro ⟨-, -, -, -, _, hfixed, -⟩
      cases hfixed
    obtain ⟨reason, hrefused⟩ := exactly.refuses _ _ _ _ _ ready hfits hthree
    exact ⟨reason, _, hrefused⟩

end DoubleSale

end Till
