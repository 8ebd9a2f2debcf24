import Mathlib.Data.List.Induction
import Till.Proofs.AtMostOnce
import Till.Proofs.Failures
import Till.Proofs.Gate
import Till.Proofs.Origins

/-!
# Who may do what

What needs authority has it in every run: behind each void, each refund, each price set by hand and
each order stands a request of an actor that was elevated, and it is recorded who has approved it.
What an actor may not do fails.

* `Engine.Brought` : a request of a run has brought something about;
* `Engine.Authorized`, `Authorized.step` : all that needs authority was brought about by a request
  of an actor who has it;
* `Engine.Guarded` : what is closed to an actor;
* `Engine.run_authorized` : both, after every run.
-/

namespace Till

/-- **A transaction was charged by the catalog**: each line has the price of its product. -/
def Store.ChargedByCatalog (s : Store) (t : Transaction) : Prop :=
  ∀ l ∈ t.lines, ∃ p ∈ s.products,
    p.id = l.product ∧ p.store = t.store ∧ p.unitPrice = l.unitPrice

/-- The shift that a request is about, if an actor has to handle it. -/
def Request.handled? : Request → Option String
  | .closeShift id _ | .recordEntry id _ | .shiftReport id => some id
  | _ => none

/-- Whether only elevated actors may make a request. -/
def Request.isReserved : Request → Bool
  | .void _ _ | .refund _ _ _ | .createOrder _ => true
  | _ => false

theorem Store.PricedByCatalog.charged {s : Store} {t : Transaction}
    (h : s.PricedByCatalog t.store t.lines) : s.ChargedByCatalog t := by
  intro l hl
  obtain ⟨p, hfound, hprice⟩ := h l hl
  have htest := List.find?_some hfound
  simp only [Bool.and_eq_true, beq_iff_eq] at htest
  exact ⟨p, List.mem_of_find?_eq_some hfound, htest.1.1, htest.1.2, hprice⟩

/-- Who does something to a shift handles it. -/
theorem Deed.handles {e : Engine} {ids : Ids} {actor : Actor} {now : Instant} {s after : Store}
    {r : Request} (h : Deed e ids actor now s r after) {id : String}
    (hhandled : r.handled? = some id) : ∃ sh ∈ s.shifts, sh.id = id ∧ actor.Handles sh := by
  cases h with
  | shiftClosed handles close fits =>
    exact ⟨_, (Store.shift?_eq_some fits.found).1, Option.some.inj hhandled, handles⟩
  | entryRecorded check handles place appends =>
    exact ⟨_, appends.mem.1, Option.some.inj hhandled, handles⟩
  | _ => cases hhandled

/-- A transaction was sold, or it was there in an earlier state. -/
theorem Transaction.Origin.before_or_sold {actor : Actor} {s : Store} {r : Request}
    {t' : Transaction} (h : t'.Origin actor s r) :
    (∃ t ∈ s.transactions, t.Precedes t') ∨
      (∃ cart key, r = .checkout cart key) ∧ s.hasTransaction t'.id = false ∧
        (t'.pricing.source = .manual ∨ s.PricedByCatalog t'.store t'.lines) ∧
        (t'.pricing.source = .manual → ∃ approver,
          t'.pricing.approvedBy = some approver ∧ actor.Authorizes t'.store approver) := by
  cases h with
  | kept mem => exact .inl ⟨t', mem, .refl t'⟩
  | sold request fresh completed prices approved =>
    exact .inr ⟨⟨_, _, request⟩, fresh, prices, approved⟩
  | voided mem precedes | refunded mem precedes => exact .inl ⟨_, mem, precedes⟩

/-- A shift of a store is determined by the identifier of any later state of it. -/
theorem Store.Keyed.shift_eq {s : Store} (k : s.Keyed) {sh sh' : Shift} (hsh : sh ∈ s.shifts)
    (hid : sh'.id = sh.id) : ∀ b ∈ s.shifts, sh'.id = b.id → b = sh := by
  intro b hb hb'
  exact List.inj_on_of_nodup_map k.shifts hb hsh (hb'.symm.trans hid)

namespace Engine

variable {κ : Type}

/-- **A request has brought something about** in a run: it was not so before, and it was so
afterwards. -/
def Brought (e : Engine) (c : CacheAccess κ) (start : World κ) (steps : List (Step κ)) (ids : Ids)
    (actor : Actor) (r : Request) (Q : Store → Prop) : Prop :=
  ∃ front back, steps = front ++ .request ids actor r :: back ∧
    ¬Q (e.run c start front).store ∧
      Q (e.handle c ids actor r (e.run c start front)).2.store

section

variable (e : Engine) (c : CacheAccess κ) (start : World κ) (steps : List (Step κ))

/-- A transaction was voided at the request of an elevated actor of its store. -/
def VoidAuthorized (t : Transaction) : Prop :=
  ∃ ids actor reason approver,
    e.Brought c start steps ids actor (.void t.id reason) (t ∈ ·.transactions) ∧
      t.voidedBy = some approver ∧ actor.Authorizes t.store approver

/-- A refund was made at the request of an elevated actor of its store. -/
def RefundAuthorized (r : Refund) : Prop :=
  ∃ ids actor,
    e.Brought c start steps ids actor (.refund r.transaction r.amount r.reason) (r ∈ ·.refunds) ∧
      actor.Authorizes r.store r.approvedBy

/-- A transaction was sold at the request of an elevated actor of its store. -/
def OverrideAuthorized (t : Transaction) : Prop :=
  ∃ ids actor cart key approver,
    e.Brought c start steps ids actor (.checkout cart key) (·.hasTransaction t.id = true) ∧
      t.pricing.approvedBy = some approver ∧ actor.Authorizes t.store approver

/-- An order was made at the request of an elevated actor of its store. -/
def OrderAuthorized (o : PurchaseOrder) : Prop :=
  ∃ ids actor made,
    e.Brought c start steps ids actor (.createOrder made) (o.id ∈ ·.orders.map (·.id)) ∧
      actor.isElevated = true ∧ actor.store = o.store ∧ actor.cashier = o.createdBy

/-- **What needs authority was authorized** in a run. -/
structure Authorized : Prop where
  /-- All that is voided, -/
  voids : ∀ t ∈ (e.run c start steps).store.transactions, t.status = .voided →
    e.VoidAuthorized c start steps t
  /-- all that is refunded of a transaction of the store, -/
  refunds : ∀ r ∈ (e.run c start steps).store.refunds,
    (e.run c start steps).store.SoldAt r.store r.transaction ∧ e.RefundAuthorized c start steps r
  /-- all that is priced by hand -/
  overrides : ∀ t ∈ (e.run c start steps).store.transactions, t.pricing.source = .manual →
    e.OverrideAuthorized c start steps t
  /-- and all that is ordered was authorized. -/
  orders : ∀ o ∈ (e.run c start steps).store.orders, e.OrderAuthorized c start steps o
  /-- What is not priced by hand was charged by the catalog. -/
  prices : ∀ t ∈ (e.run c start steps).store.transactions, t.pricing.source = .automatic →
    (e.run c start steps).store.ChargedByCatalog t

end

variable {e : Engine} {c : CacheAccess κ} {start w : World κ} {steps : List (Step κ)} {ids : Ids}
  {actor : Actor} {r : Request}

/-! ### One more step -/

theorem Brought.step {Q : Store → Prop} (h : e.Brought c start steps ids actor r Q)
    (step : Step κ) : e.Brought c start (steps ++ [step]) ids actor r Q := by
  obtain ⟨front, back, rfl, hbefore, hafter⟩ := h
  exact ⟨front, back ++ [step], by rw [List.append_assoc, List.cons_append], hbefore, hafter⟩

theorem brought_last {Q : Store → Prop} (hbefore : ¬Q (e.run c start steps).store)
    (hafter : Q (e.run c start (steps ++ [.request ids actor r])).store) :
    e.Brought c start (steps ++ [.request ids actor r]) ids actor r Q := by
  refine ⟨steps, [], rfl, hbefore, ?_⟩
  rw [run_append] at hafter
  exact hafter

theorem VoidAuthorized.step {t : Transaction} (h : e.VoidAuthorized c start steps t)
    (step : Step κ) : e.VoidAuthorized c start (steps ++ [step]) t := by
  obtain ⟨ids, actor, reason, approver, hbrought, hauthorized⟩ := h
  exact ⟨ids, actor, reason, approver, hbrought.step step, hauthorized⟩

theorem RefundAuthorized.step {r : Refund} (h : e.RefundAuthorized c start steps r)
    (step : Step κ) : e.RefundAuthorized c start (steps ++ [step]) r := by
  obtain ⟨ids, actor, hbrought, hauthorized⟩ := h
  exact ⟨ids, actor, hbrought.step step, hauthorized⟩

/-- By whom a transaction was priced stays. -/
theorem OverrideAuthorized.step {t t' : Transaction} (h : e.OverrideAuthorized c start steps t)
    (hprecedes : t.Precedes t') (step : Step κ) :
    e.OverrideAuthorized c start (steps ++ [step]) t' := by
  obtain ⟨ids, actor, cart, key, approver, hbrought, hauthorized⟩ := h
  rw [hprecedes.same]
  exact ⟨ids, actor, cart, key, approver, hbrought.step step, hauthorized⟩

/-- By whom an order was made stays. -/
theorem OrderAuthorized.step {o o' : PurchaseOrder} (h : e.OrderAuthorized c start steps o)
    (hprecedes : o.Precedes o') (step : Step κ) :
    e.OrderAuthorized c start (steps ++ [step]) o' := by
  obtain ⟨ids, actor, made, hbrought, hauthorized⟩ := h
  rw [hprecedes.same]
  exact ⟨ids, actor, made, hbrought.step step, hauthorized⟩

/-- What a transaction was charged stays, and so does the catalog. -/
theorem charged_step {s after : Store} {t t' : Transaction} (h : s.ChargedByCatalog t)
    (hprecedes : t.Precedes t') (hproducts : s.products <+: after.products) :
    after.ChargedByCatalog t' := by
  rw [hprecedes.same]
  intro l hl
  obtain ⟨p, hp, hcharged⟩ := h l hl
  exact ⟨p, hproducts.subset hp, hcharged⟩

/-- A step changes no more than the outcomes, or a request has done its deed. -/
theorem apply_deed (e : Engine) (c : CacheAccess κ) (w : World κ) (step : Step κ) :
    (∃ outcomes, (e.apply c w step).store = { w.store with outcomes }) ∨
      ∃ ids actor r, step = .request ids actor r ∧
        Deed e ids actor w.now w.store r (e.apply c w step).store := by
  cases step with
  | request ids actor r =>
    rcases e.handle_deed c ids actor r w with hsame | hdeed
    · exact .inl ⟨w.store.outcomes, hsame⟩
    · exact .inr ⟨ids, actor, r, rfl, hdeed⟩
  | purge => exact .inl ⟨_, rfl⟩
  | time | caching => exact .inl ⟨w.store.outcomes, rfl⟩

/-- The last request of a run has done its deed. -/
def EndsWithDeed (e : Engine) (c : CacheAccess κ) (start : World κ) (steps : List (Step κ))
    (ids : Ids) (actor : Actor) (r : Request) : Prop :=
  Deed e ids actor (e.run c start steps).now (e.run c start steps).store r
    (e.run c start (steps ++ [.request ids actor r])).store

theorem Authorized.voids_deed (h : e.Authorized c start steps)
    (k : (e.run c start steps).store.Keyed) (hdeed : e.EndsWithDeed c start steps ids actor r) :
    ∀ t' ∈ (e.run c start (steps ++ [.request ids actor r])).store.transactions,
      t'.status = .voided → e.VoidAuthorized c start (steps ++ [.request ids actor r]) t' := by
  intro t' ht' hvoided
  cases hdeed.transaction_origin k t' ht' with
  | kept mem => exact (h.voids t' mem hvoided).step _
  | sold request fresh completed =>
    rw [hvoided] at completed
    cases completed
  | @voided t _ reason approver mem precedes request completed approved authorized =>
    subst request
    refine ⟨ids, actor, reason, approver, brought_last ?_ ht', approved, authorized⟩
    -- The row under this identifier was not voided yet.
    intro hold
    have hid : t'.id = t.id := by rw [precedes.same]
    obtain rfl := List.inj_on_of_nodup_map k.transactions hold mem hid
    rw [hvoided] at completed
    cases completed
  | refunded mem precedes unvoided => exact absurd hvoided unvoided

theorem Authorized.refunds_deed (h : e.Authorized c start steps)
    (hdeed : e.EndsWithDeed c start steps ids actor r) :
    ∀ refund ∈ (e.run c start (steps ++ [.request ids actor r])).store.refunds,
      e.RefundAuthorized c start (steps ++ [.request ids actor r]) refund := by
  intro refund hrefund
  rcases hdeed.refund_origin refund hrefund with hold | ⟨rfl, hnew, hauthorizes⟩
  · exact (h.refunds refund hold).2.step _
  · exact ⟨ids, actor, brought_last hnew hrefund, hauthorizes⟩

theorem Authorized.overrides_deed (h : e.Authorized c start steps)
    (k : (e.run c start steps).store.Keyed) (hdeed : e.EndsWithDeed c start steps ids actor r) :
    ∀ t' ∈ (e.run c start (steps ++ [.request ids actor r])).store.transactions,
      t'.pricing.source = .manual →
        e.OverrideAuthorized c start (steps ++ [.request ids actor r]) t' := by
  intro t' ht' hmanual
  rcases (hdeed.transaction_origin k t' ht').before_or_sold with
    ⟨t, ht, hprecedes⟩ | ⟨⟨cart, key, rfl⟩, hfresh, -, happroved⟩
  · have hsource : t.pricing.source = .manual := by
      rw [hprecedes.same] at hmanual
      exact hmanual
    exact (h.overrides t ht hsource).step hprecedes _
  · obtain ⟨approver, happroved⟩ := happroved hmanual
    refine ⟨ids, actor, cart, key, approver, brought_last ?_ ?_, happroved⟩
    · rw [hfresh]
      exact Bool.false_ne_true
    · exact List.any_eq_true.2 ⟨t', ht', beq_self_eq_true _⟩

theorem Authorized.orders_deed (h : e.Authorized c start steps)
    (k : (e.run c start steps).store.Keyed) (hdeed : e.EndsWithDeed c start steps ids actor r) :
    ∀ o' ∈ (e.run c start (steps ++ [.request ids actor r])).store.orders,
      e.OrderAuthorized c start (steps ++ [.request ids actor r]) o' := by
  intro o' ho'
  rcases hdeed.order_origin k o' ho' with
    ⟨o, ho, hprecedes⟩ | ⟨made, rfl, helevated, hmade, hfresh⟩
  · exact (h.orders o ho).step hprecedes _
  · refine ⟨ids, actor, made, brought_last ?_ (List.mem_map_of_mem ho'), helevated, ?_, ?_⟩
    · intro hold
      obtain ⟨o, ho, hid⟩ := List.mem_map.1 hold
      exact hfresh o ho hid
    · rw [hmade]
      rfl
    · rw [hmade]
      rfl

theorem Authorized.prices_deed (h : e.Authorized c start steps)
    (k : (e.run c start steps).store.Keyed) (hdeed : e.EndsWithDeed c start steps ids actor r) :
    ∀ t' ∈ (e.run c start (steps ++ [.request ids actor r])).store.transactions,
      t'.pricing.source = .automatic →
        (e.run c start (steps ++ [.request ids actor r])).store.ChargedByCatalog t' := by
  intro t' ht' hautomatic
  have hproducts := hdeed.change.catalog.products_prefix
  rcases (hdeed.transaction_origin k t' ht').before_or_sold with
    ⟨t, ht, hprecedes⟩ | ⟨-, -, hprices, -⟩
  · have hsource : t.pricing.source = .automatic := by
      rw [hprecedes.same] at hautomatic
      exact hautomatic
    exact charged_step (h.prices t ht hsource) hprecedes hproducts
  · rcases hprices with hmanual | hpriced
    · rw [hautomatic] at hmanual
      cases hmanual
    · exact charged_step hpriced.charged (.refl t') hproducts

/-- **What needs authority is authorized** by one more step. -/
theorem Authorized.step (h : e.Authorized c start steps) (k : (e.run c start steps).store.Keyed)
    {step : Step κ} (consistent : (e.run c start (steps ++ [step])).store.Consistent) :
    e.Authorized c start (steps ++ [step]) := by
  have hrun : e.run c start (steps ++ [step]) = e.apply c (e.run c start steps) step :=
    e.run_append c start steps [step]
  rcases e.apply_deed c (e.run c start steps) step with
    ⟨outcomes, hsame⟩ | ⟨ids, actor, r, rfl, hdeed⟩
  · refine { voids := ?_, refunds := ?_, overrides := ?_, orders := ?_, prices := ?_ } <;>
      rw [hrun, hsame]
    · exact fun t ht hvoided => (h.voids t ht hvoided).step step
    · exact fun r hr => ⟨(h.refunds r hr).1, (h.refunds r hr).2.step step⟩
    · exact fun t ht hmanual => (h.overrides t ht hmanual).step (.refl t) step
    · exact fun o ho => (h.orders o ho).step (.refl o) step
    · exact h.prices
  · have hends : e.EndsWithDeed c start steps ids actor r := by
      rw [EndsWithDeed, hrun]
      exact hdeed
    exact {
      voids := h.voids_deed k hends
      refunds := fun r hr => ⟨consistent.refunds r hr, h.refunds_deed hends r hr⟩
      overrides := h.overrides_deed k hends
      orders := h.orders_deed k hends
      prices := h.prices_deed k hends }

/-- All that needs authority was authorized in every run. -/
theorem authorized_of_run (e : Engine) (c : CacheAccess κ) (now : Instant) (cache : κ)
    (steps : List (Step κ)) : e.Authorized c (World.empty now cache) steps := by
  induction steps using List.reverseRecOn with
  | nil => constructor <;> exact fun _ h => absurd h List.not_mem_nil
  | append_singleton steps step ih =>
    exact ih.step (e.run_sound c now cache steps).keyed (e.run_inPlace c now cache _)

/-! ### What is closed to an actor -/

/-- **A cart that an actor may not price by hand is refused**, and the till stays as it was, unless
the cart is wrong in itself: then its refusal is remembered under the key, and nothing else. -/
def RefusesOverride (e : Engine) (c : CacheAccess κ) (w : World κ) (ids : Ids) (actor : Actor)
    (cart : Cart) (key : String) : Prop :=
  (∃ fault, e.handle c ids actor (.checkout cart key) w = (.error fault, w)) ∨
    ∃ problem, cart.check = .error problem ∧
      e.handle c ids actor (.checkout cart key) w =
        (.error (.rejected (.invalid problem)), { w with
          store := w.store.withRefusal actor key (.invalid problem) w.now
            (w.now.shift e.keyLifetime) })

/-- **A till is guarded**: what an actor may not do is closed to the actor. -/
structure Guarded (e : Engine) (c : CacheAccess κ) (w : World κ) : Prop where
  /-- A shift begins open and without events. -/
  beginning : ∀ step, ∀ sh' ∈ (e.apply c w step).store.shifts, w.store.hasShift sh'.id = false →
    sh'.isOpen = true ∧ sh'.events = []
  /-- It is only closed by who handles it, -/
  ending : ∀ step, ∀ sh ∈ w.store.shifts, ∀ sh' ∈ (e.apply c w step).store.shifts,
    sh'.id = sh.id → sh.isOpen = true → sh'.isOpen = false →
      ∃ ids actor cash, step = .request ids actor (.closeShift sh.id cash) ∧ actor.Handles sh
  /-- and entries are only made by who handles it. -/
  recording : ∀ step, ∀ sh ∈ w.store.shifts, ∀ sh' ∈ (e.apply c w step).store.shifts,
    sh'.id = sh.id → ∀ ev ∈ sh'.events, ev.isManual = true → ev ∉ sh.events →
      ∃ ids actor entry, step = .request ids actor (.recordEntry sh.id entry) ∧ actor.Handles sh
  /-- Others can neither close it nor record on it nor look at its report. -/
  strangers : ∀ ids actor r, ∀ sh ∈ w.store.shifts, r.handled? = some sh.id →
    ¬actor.Handles sh → ∃ fault, e.handle c ids actor r w = (.error fault, w)
  /-- Who is not elevated can neither void nor refund nor order, -/
  reserved : ∀ ids actor r, r.isReserved = true → actor.isElevated = false →
    ∃ fault, e.handle c ids actor r w = (.error fault, w)
  /-- nor set prices by hand. -/
  overrides : ∀ ids actor cart key, cart.manual.isSome = true → actor.isElevated = false →
    KeyUse.record? ⟨actor.store, actor.cashier, key, w.now⟩ w.store = none →
      e.RefusesOverride c w ids actor cart key

/-- The step that has brought a shift into another state was a request, unless the shift was in this
state before. -/
theorem shift_origin_of_apply (k : w.store.Keyed) (step : Step κ) :
    ∀ sh' ∈ (e.apply c w step).store.shifts, sh' ∈ w.store.shifts ∨
      ∃ ids actor r, step = .request ids actor r ∧ sh'.Origin actor w.store r := by
  intro sh' hsh'
  rcases e.apply_deed c w step with ⟨outcomes, hsame⟩ | ⟨ids, actor, r, rfl, hdeed⟩
  · rw [hsame] at hsh'
    exact .inl hsh'
  · exact .inr ⟨ids, actor, r, rfl, hdeed.shift_origin k sh' hsh'⟩

/-- **An actor that does not handle a shift** cannot make a request about it. -/
theorem handle_of_stranger {sh : Shift} (k : w.store.Keyed) (hsh : sh ∈ w.store.shifts)
    (hhandled : r.handled? = some sh.id) (hstranger : ¬actor.Handles sh) :
    ∃ fault, e.handle c ids actor r w = (.error fault, w) := by
  have hsame : ∀ {sh'}, sh' ∈ w.store.shifts → sh'.id = sh.id → ¬actor.Handles sh' := by
    intro sh' hsh' hid
    rwa [List.inj_on_of_nodup_map k.shifts hsh' hsh hid]
  have hcannot : ∀ after, ¬Deed e ids actor w.now w.store r after := by
    intro after hdeed
    obtain ⟨sh', hsh', hid, hhandles⟩ := hdeed.handles hhandled
    exact hsame hsh' hid hhandles
  cases r with
  | closeShift | recordEntry => exact (e.handle_booked c ids actor rfl w).fails hcannot
  | shiftReport id =>
    obtain rfl := Option.some.inj hhandled
    rw [handle, look_eq]
    cases hreport : shiftReport actor sh.id w.store with
    | error fault => exact ⟨fault, rfl⟩
    | ok report =>
      simp only [shiftReport, Outcome.bind_eq_ok] at hreport
      obtain ⟨sh', howned, -⟩ := hreport
      obtain ⟨hfound, hid, hhandles⟩ := ownedShift_eq_ok howned
      exact absurd hhandles (hsame (Store.shift?_eq_some hfound).1 hid)
  | _ => cases hhandled

theorem handle_of_notElevated (hreserved : r.isReserved = true) (h : actor.isElevated = false) :
    ∃ fault, e.handle c ids actor r w = (.error fault, w) := by
  have hbooks : r.books = true := by cases r <;> first | rfl | cases hreserved
  refine (e.handle_booked c ids actor hbooks w).fails ?_
  intro after hdeed
  have helevated : actor.isElevated = true := by
    cases hdeed with
    | voided plan => exact plan.elevated
    | refunded elevated => exact elevated
    | orderAdded elevated => exact elevated
    | _ => cases hreserved
  rw [h] at helevated
  cases helevated

/-- What comes of the sale of a cart that was priced by hand by who is not elevated. -/
theorem sale_of_notElevated {cart : Cart} (hmanual : cart.manual.isSome = true)
    (h : actor.isElevated = false) (ids : Ids) (now : Instant) (claim : Claim) (s : Store) :
    (∃ problem, cart.check = .error problem ∧
        e.sale ids now actor cart claim s = .error (.rejected (.invalid problem))) ∨
      ∃ reason : Rejection, reason.kind ≠ .validation ∧
        e.sale ids now actor cart claim s = .error (.rejected reason) := by
  obtain ⟨o, ho⟩ := Option.isSome_iff_exists.1 hmanual
  cases hshift : s.openShift? actor.cashier actor.store with
  | none =>
    refine .inr ⟨.shiftNotOpen actor.cashier actor.store, ?_, sale_of_noShift hshift⟩
    intro hkind
    cases hkind
  | some sh =>
    have hcurrent := currentShift_eq_ok.2 hshift
    cases hcheck : cart.check with
    | error problem =>
      refine .inl ⟨problem, rfl, ?_⟩
      simp only [sale, planSale, hcurrent, Transaction.ofCart, hcheck, Field.Check.run,
        Outcome.ofCheck, Outcome.reject, bind, Except.bind]
    | ok _ =>
      refine .inr ⟨.forbidden "override pricing" actor.role.text, ?_, ?_⟩
      · intro hkind
        cases hkind
      simp only [sale, planSale, hcurrent, Transaction.ofCart, hcheck, Field.Check.run,
        Outcome.ofCheck, ho, Transaction.pricingRecord, Actor.requireElevated, h, Outcome.require,
        Outcome.reject, bind, Except.bind, Bool.false_eq_true, if_false]

theorem handle_override {cart : Cart} {key : String} (hmanual : cart.manual.isSome = true)
    (h : actor.isElevated = false)
    (free : KeyUse.record? ⟨actor.store, actor.cashier, key, w.now⟩ w.store = none) :
    e.RefusesOverride c w ids actor cart key := by
  have hsold : (∃ fault, e.sellOnce ids w.now actor cart key w.store = (.error fault, w.store)) ∨
      ∃ problem, cart.check = .error problem ∧ e.sellOnce ids w.now actor cart key w.store =
        (.error (.rejected (.invalid problem)), w.store.withRefusal actor key (.invalid problem)
          w.now (w.now.shift e.keyLifetime)) := by
    by_cases hclaims : ∃ claim,
        Claims e.keyLifetime ⟨actor.store, actor.cashier, key, w.now⟩ w.store claim
    · obtain ⟨claim, claims⟩ := hclaims
      rcases e.sale_of_notElevated hmanual h ids w.now claim w.store with
        ⟨problem, hcheck, hsale⟩ | ⟨reason, hkind, hsale⟩
      · exact .inr ⟨problem, hcheck, sellOnce_refused claims hsale rfl⟩
      · refine .inl ⟨.rejected reason, ?_⟩
        rw [sellOnce_of_claims claims, Action.transact, hsale]
        exact settle_error free hkind
    · -- The key cannot be claimed, so the cart is not even looked at.
      have houtcome := e.sellOnce_outcome ids w.now actor cart key w.store
      generalize e.sellOnce ids w.now actor cart key w.store = done at houtcome
      cases houtcome with
      | malformed | endless => exact .inl ⟨_, rfl⟩
      | replayed wellFormed found =>
        rw [free] at found
        cases found
      | done claims | refused claims | failed claims => exact absurd ⟨_, claims⟩ hclaims
  rcases hsold with ⟨fault, hsold⟩ | ⟨problem, hcheck, hsold⟩
  · exact .inl ⟨fault, handle_checkout_error hsold⟩
  · exact .inr ⟨problem, hcheck, handle_checkout_error hsold⟩

/-- **A till in order is guarded.** -/
theorem guarded_of_keyed (k : w.store.Keyed) : e.Guarded c w where
  beginning step sh' hsh' hfresh := by
    have hnew : ∀ sh ∈ w.store.shifts, sh'.id ≠ sh.id := by
      intro sh hsh hid
      exact Store.hasShift_eq_false.1 hfresh (hid ▸ List.mem_map_of_mem hsh)
    rcases shift_origin_of_apply k step sh' hsh' with hold | ⟨ids, actor, r, rfl, horigin⟩
    · exact absurd rfl (hnew sh' hold)
    · cases horigin with
      | kept mem => exact absurd rfl (hnew sh' mem)
      | opened fresh isOpen unused => exact ⟨isOpen, unused⟩
      | closed mem id | recorded mem id | logged mem id => exact absurd id (hnew _ mem)
  ending step sh hsh sh' hsh' hid hopen hclosed := by
    have hsame : ∀ b ∈ w.store.shifts, sh'.id = b.id → b = sh := k.shift_eq hsh hid
    have hstill : sh'.isOpen ≠ sh.isOpen := by
      rw [hopen, hclosed]
      exact Bool.false_ne_true
    rcases shift_origin_of_apply k step sh' hsh' with hold | ⟨ids, actor, r, rfl, horigin⟩
    · exact absurd (congrArg Shift.isOpen (hsame sh' hold rfl)) hstill
    · cases horigin with
      | kept mem => exact absurd (congrArg Shift.isOpen (hsame sh' mem rfl)) hstill
      | opened fresh =>
        rw [hid] at fresh
        exact absurd (List.mem_map_of_mem hsh) (Store.hasShift_eq_false.1 fresh)
      | closed mem id request handles =>
        obtain rfl := hsame _ mem id
        exact ⟨ids, actor, _, congrArg _ request, handles⟩
      | recorded mem id still | logged mem id still =>
        obtain rfl := hsame _ mem id
        exact absurd still hstill
  recording step sh hsh sh' hsh' hid ev hev hmanual hnew := by
    have hsame : ∀ b ∈ w.store.shifts, sh'.id = b.id → b = sh := k.shift_eq hsh hid
    rcases shift_origin_of_apply k step sh' hsh' with hold | ⟨ids, actor, r, rfl, horigin⟩
    · exact absurd (hsame sh' hold rfl ▸ hev) hnew
    · cases horigin with
      | kept mem => exact absurd (hsame sh' mem rfl ▸ hev) hnew
      | opened fresh isOpen unused =>
        rw [unused] at hev
        cases hev
      | recorded mem id still request handles =>
        obtain rfl := hsame _ mem id
        exact ⟨ids, actor, _, congrArg _ request, handles⟩
      | closed mem id request handles manual events | logged mem id still manual events =>
        -- The only event that is new was not made by hand.
        obtain rfl := hsame _ mem id
        rcases List.mem_cons.1 (events.mem_iff.1 hev) with rfl | hold
        · rw [hmanual] at manual
          cases manual
        · exact absurd hold hnew
  strangers ids actor r sh hsh hhandled hstranger := handle_of_stranger k hsh hhandled hstranger
  reserved ids actor r hreserved h := handle_of_notElevated hreserved h
  overrides ids actor cart key hmanual h free := handle_override hmanual h free

/-- **What needs authority has it after every run**, and what an actor may not do is closed to the
actor. -/
theorem run_authorized (e : Engine) (c : CacheAccess κ) (now : Instant) (cache : κ)
    (steps : List (Step κ)) :
    e.Authorized c (World.empty now cache) steps ∧
      e.Guarded c (e.run c (World.empty now cache) steps) :=
  ⟨e.authorized_of_run c now cache steps,
    guarded_of_keyed (e.run_sound c now cache steps).keyed⟩

end Engine

/-! ### A refusal that is remembered -/

open DoubleSale (till ids)

/-- **A cart that may not be priced by hand can leave a trace**: if it has no lines, its refusal is
remembered. -/
theorem Engine.remembers_emptyOverride :
    let cashier : Actor := ⟨"cashier", .cashier, "store", none⟩
    let w := (till 3600000000000).run Cache.access (World.empty ⟨0⟩ .absent)
      [.request (ids "1") cashier (.openShift 0)]
    let override : Cart := ⟨[], .none, .cash, some ⟨0, 0, "damaged"⟩⟩
    cashier.isElevated = false ∧
      Engine.KeyUse.record? ⟨"store", "cashier", "key", w.now⟩ w.store = none ∧
      ((till 3600000000000).handle Cache.access (ids "2") cashier (.checkout override "key")
        w).2.store ≠ w.store := by
  intro cashier w override
  refine ⟨rfl, rfl, ?_⟩
  intro hsame
  have hlength := congrArg (fun s => s.outcomes.length) hsame
  revert hlength
  decide +kernel

end Till
