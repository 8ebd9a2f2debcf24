import Till.Proofs.Calls
import Till.Proofs.Failures
import Till.Proofs.Places

/-!
# Money passes through open shifts

Selling, voiding and refunding leave one event in the log of the shift that the actor has open at
its store.  Without an open shift they fail, and the till is as it was.

* `Store.Through` : a request has passed through a shift;
* `Deed.through` : what is sold, voided and refunded does;
* `Engine.Gated`, `Engine.run_consistent` : so it is after every run, where everything is in its
  place.
-/

namespace Till

namespace Store

variable {s after : Store} {actor : Actor} {kind : DrawerKind} {sh sh' : Shift} {ev : DrawerEvent}

/-- **The shift that an actor has open** at its store. -/
structure Current (s : Store) (actor : Actor) (sh : Shift) : Prop where
  mem : sh ∈ s.shifts
  isOpen : sh.isOpen = true
  cashier : sh.cashier = actor.cashier
  store : sh.store = actor.store

theorem current_of_openShift? (h : s.openShift? actor.cashier actor.store = some sh) :
    s.Current actor sh := by
  obtain ⟨hmem, hcashier, hstore, hopen⟩ := openShift?_eq_some h
  exact ⟨hmem, hopen, hcashier, hstore⟩

theorem Current.openShift?_eq (h : s.Current actor sh) (logs : s.Logs) :
    s.openShift? actor.cashier actor.store = some sh :=
  h.cashier ▸ h.store ▸ logs.openShift?_eq h.mem h.isOpen

theorem openShift?_eq_none (h : ∀ sh, ¬s.Current actor sh) :
    s.openShift? actor.cashier actor.store = none := by
  cases hfound : s.openShift? actor.cashier actor.store with
  | none => rfl
  | some sh => exact absurd (current_of_openShift? hfound) (h sh)

/-- **A request passes through a shift** that its actor has open: one event is appended to the log
of the shift, and no other shift changes. -/
structure Through (s after : Store) (actor : Actor) (kind : DrawerKind) (sh : Shift)
    (ev : DrawerEvent) : Prop where
  current : s.Current actor sh
  kind : ev.kind = kind
  shifts : after.shifts = Rows.update (·.id) sh.id
    (fun sh => { sh with events := sh.events ++ [ev] }) s.shifts

/-- An event that was made for the open shift of an actor is appended to its log. -/
theorem Appends.through (k : s.Keyed) (logs : s.Logs) (h : s.Appends sh' ev)
    (current : s.openShift? actor.cashier actor.store = some sh) (hid : ev.shift = sh.id)
    (hkind : ev.kind = kind) (hshifts : after.shifts = (s.logged ev).shifts) :
    s.Through after actor kind sh ev := by
  have hmem := (openShift?_eq_some current).1
  obtain rfl := h.eq_of_id k hmem hid
  have horder := logs.inOrder sh' hmem
  refine ⟨current_of_openShift? current, hkind, ?_⟩
  rw [hshifts, shifts_logged, hid]
  refine Rows.update_congr k.shifts hmem ?_
  rw [horder.placeEvent_eq (h.seq.trans horder.nextSeq_eq)]

end Store

/-- **What is sold, voided or refunded passes through the open shift** of the actor. -/
theorem Deed.through {e : Engine} {ids : Ids} {actor : Actor} {now : Instant} {s after : Store}
    {r : Request} {kind : DrawerKind} (h : Deed e ids actor now s r after) (k : s.Keyed)
    (logs : s.Logs) (hleaves : r.leaves = some kind)
    (hmoves : r.books = true ∨ after.transactions ≠ s.transactions) :
    ∃ sh ev, s.Through after actor kind sh ev := by
  cases h with
  | sold claims plan fits =>
    obtain rfl := Option.some.inj hleaves
    obtain ⟨sh, pricing, totals, current, -, hunit⟩ := Engine.planSale_eq_ok plan
    refine ⟨sh, _, fits.appends.through k logs current ?_ ?_ rfl⟩ <;> rw [fits.entry, hunit] <;> rfl
  | refused => exact hmoves.elim nofun fun hmoved => absurd rfl hmoved
  | voided plan fits =>
    obtain rfl := Option.some.inj hleaves
    refine ⟨_, _, fits.appends.through k logs plan.shift ?_ ?_ rfl⟩ <;>
      rw [fits.entry, plan.unit] <;> rfl
  | refunded elevated shift owned plan unit fits =>
    obtain rfl := Option.some.inj hleaves
    refine ⟨_, _, fits.appends.through k logs shift ?_ ?_ rfl⟩ <;> rw [fits.entry, unit] <;> rfl
  | _ => cases hleaves

namespace Engine

variable {κ : Type} {e : Engine} {c : CacheAccess κ} {ids : Ids} {actor : Actor} {w : World κ}

/-! ### Without an open shift -/

theorem sale_of_noShift {now : Instant} {cart : Cart} {claim : Claim} {s : Store}
    (h : s.openShift? actor.cashier actor.store = none) :
    e.sale ids now actor cart claim s =
      .error (.rejected (.shiftNotOpen actor.cashier actor.store)) := by
  simp only [sale, planSale, currentShift, h, Shift.requireOpen, Outcome.reject, bind, Except.bind]

theorem handle_checkout_of_noShift (cart : Cart) {key : String}
    (h : w.store.openShift? actor.cashier actor.store = none)
    (free : KeyUse.record? ⟨actor.store, actor.cashier, key, w.now⟩ w.store = none) :
    ∃ fault, e.handle c ids actor (.checkout cart key) w = (.error fault, w) := by
  have hfails : ∃ fault, e.sellOnce ids w.now actor cart key w.store = (.error fault, w.store) := by
    have houtcome := e.sellOnce_outcome ids w.now actor cart key w.store
    generalize e.sellOnce ids w.now actor cart key w.store = done at houtcome
    cases houtcome with
    | malformed | endless | failed => exact ⟨_, rfl⟩
    | replayed wellFormed found =>
      rw [free] at found
      cases found
    | done claims body =>
      rw [sale_of_noShift h] at body
      cases body
    | refused claims body kind =>
      -- That there is no shift is not a fault of the request, so it is not remembered.
      rw [sale_of_noShift h] at body
      cases body
      cases kind
  obtain ⟨fault, hsold⟩ := hfails
  exact ⟨fault, handle_checkout_error hsold⟩

/-! ### The gate -/

/-- A look at the store gives what it finds and leaves the till as it is. -/
theorem look_eq {α : Type} (reply : α → Reply) (f : Store → Result α) (w : World κ) :
    look reply f w = ((f w.store).map reply, w) := by
  simp only [look, Action.mapAnswer, World.onStore, Action.query]
  cases f w.store <;> rfl

/-- **A till has its gate at open shifts.** -/
structure Gated (e : Engine) (c : CacheAccess κ) (w : World κ) : Prop where
  /-- A cashier has at most one open shift at a store. -/
  oneOpen : ∀ actor sh sh', w.store.Current actor sh → w.store.Current actor sh' → sh = sh'
  /-- It is the one that the cashier is told, -/
  current : ∀ ids actor sh, w.store.Current actor sh →
    e.handle c ids actor .currentShift w = (.ok (.shift sh), w)
  /-- and otherwise that there is none. -/
  missing : ∀ ids actor, (∀ sh, ¬w.store.Current actor sh) →
    e.handle c ids actor .currentShift w =
      (.error (.rejected (.shiftNotOpen actor.cashier actor.store)), w)
  /-- A cart that is sold passes through the open shift, -/
  sells : ∀ ids actor cart key result after,
    e.handle c ids actor (.checkout cart key) w = (result, after) →
    after.store.transactions ≠ w.store.transactions →
      ∃ sh ev, w.store.Through after.store actor .sale sh ev
  /-- so does a void, -/
  voids : ∀ ids actor id reason reply after,
    e.handle c ids actor (.void id reason) w = (.ok reply, after) →
      ∃ sh ev, w.store.Through after.store actor .voidReversal sh ev
  /-- and so does a refund. -/
  refunds : ∀ ids actor id amount reason reply after,
    e.handle c ids actor (.refund id amount reason) w = (.ok reply, after) →
      ∃ sh ev, w.store.Through after.store actor .refund sh ev
  /-- Without an open shift nothing is sold, unless the store finds a record under the key, as it
  does until the record expires if all this is in the years 0 to 9999, -/
  noSale : ∀ ids actor cart key, (∀ sh, ¬w.store.Current actor sh) →
    KeyUse.record? ⟨actor.store, actor.cashier, key, w.now⟩ w.store = none →
      ∃ fault, e.handle c ids actor (.checkout cart key) w = (.error fault, w)
  /-- nothing is voided, -/
  noVoid : ∀ ids actor id reason, (∀ sh, ¬w.store.Current actor sh) →
    ∃ fault, e.handle c ids actor (.void id reason) w = (.error fault, w)
  /-- and nothing is refunded. -/
  noRefund : ∀ ids actor id amount reason, (∀ sh, ¬w.store.Current actor sh) →
    ∃ fault, e.handle c ids actor (.refund id amount reason) w = (.error fault, w)

/-- A request that books something passes through the open shift if it leaves an event there. -/
theorem handle_through {r : Request} {kind : DrawerKind} {reply : Reply} {after : World κ}
    (k : w.store.Keyed) (logs : w.store.Logs) (hbooks : r.books = true)
    (hleaves : r.leaves = some kind) (h : e.handle c ids actor r w = (.ok reply, after)) :
    ∃ sh ev, w.store.Through after.store actor kind sh ev := by
  have hbooked := e.handle_booked c ids actor hbooks w
  rw [h] at hbooked
  cases hbooked with
  | done deed => exact deed.through k logs hleaves (.inl hbooks)

/-- Without an open shift it fails. -/
theorem handle_of_noShift {r : Request} {kind : DrawerKind} (k : w.store.Keyed)
    (logs : w.store.Logs) (hbooks : r.books = true) (hleaves : r.leaves = some kind)
    (h : ∀ sh, ¬w.store.Current actor sh) :
    ∃ fault, e.handle c ids actor r w = (.error fault, w) := by
  refine (e.handle_booked c ids actor hbooks w).fails ?_
  intro after deed
  obtain ⟨sh, ev, hthrough⟩ := deed.through k logs hleaves (.inl hbooks)
  exact h sh hthrough.current

/-- **A till in order has its gate at open shifts.** -/
theorem gated_of_logs (k : w.store.Keyed) (logs : w.store.Logs) : e.Gated c w where
  oneOpen actor sh sh' hsh hsh' := by
    have hfound := hsh.openShift?_eq logs
    rw [hsh'.openShift?_eq logs] at hfound
    exact (Option.some.inj hfound).symm
  current ids actor sh hsh := by
    rw [handle, look_eq, currentShift_eq_ok.2 (hsh.openShift?_eq logs)]
    rfl
  missing ids actor hnone := by
    rw [handle, look_eq, currentShift, Store.openShift?_eq_none hnone]
    rfl
  sells ids actor cart key result after h hmoves := by
    have hafter : after = (e.handle c ids actor (.checkout cart key) w).2 := by rw [h]
    rcases e.handle_deed c ids actor (.checkout cart key) w with hsame | hdeed
    · rw [← hafter] at hsame
      exact absurd (congrArg Store.transactions hsame) hmoves
    · rw [← hafter] at hdeed
      exact hdeed.through k logs rfl (.inr hmoves)
  voids ids actor id reason reply after h := handle_through k logs rfl rfl h
  refunds ids actor id amount reason reply after h := handle_through k logs rfl rfl h
  noSale ids actor cart key hnone free :=
    handle_checkout_of_noShift cart (Store.openShift?_eq_none hnone) free
  noVoid ids actor id reason hnone := handle_of_noShift k logs rfl rfl hnone
  noRefund ids actor id amount reason hnone := handle_of_noShift k logs rfl rfl hnone

/-- **After every run everything is in its place**, and the till has its gate at open shifts. -/
theorem run_consistent (e : Engine) (c : CacheAccess κ) (now : Instant) (cache : κ)
    (steps : List (Step κ)) :
    let w := e.run c (World.empty now cache) steps
    w.store.Keyed ∧ w.store.Consistent ∧ e.Gated c w :=
  have keyed := (e.run_sound c now cache steps).keyed
  ⟨keyed, e.run_inPlace c now cache steps, gated_of_logs keyed (e.run_logs c now cache steps)⟩

end Engine

end Till
