import Till.Proofs.Deeds

/-!
# How a store changes

`Change e now s after` lists what an engine can do to a store at an instant, whoever asks for it: a
constructor for each way, with the plan that was made and the tests that it passed.  Whatever is
asked of an engine, the store stays as it is or makes one of these changes:

* `Deed.change` : what a request does is a change;
* `Engine.handle_change` : the store after a request;
* `Engine.purge_change` : the store after expired outcomes were forgotten.

What holds of every run of a till is proved from these constructors, one after the other.
-/

namespace Till

/-- **A change** that an engine makes to a store at an instant. -/
inductive Change (e : Engine) (now : Instant) (s : Store) : Store → Prop
  /-- A shift begins. -/
  | shiftOpened {ids : Ids} {actor : Actor} {cash : Int} {sh : Shift} {after : Store}
      (start : Shift.start ids.subject actor.cashier actor.store cash now = .ok sh)
      (added : s.addShift sh = .ok after) : Change e now s after
  /-- A shift ends. -/
  | shiftClosed {ids : Ids} {actor : Actor} {cash : Int} {closed sh : Shift}
      {closure : ShiftClosure} {ev : DrawerEvent}
      (owned : sh.store = actor.store)
      (close : sh.IsClose ids.event cash now closed closure)
      (fits : s.CloseFits closed sh ev) : Change e now s (s.afterClose closed ev)
  /-- An entry is made by hand. -/
  | entryRecorded {ids : Ids} {actor : Actor} {entry : DrawerEntry} {sh : Shift} {ev : DrawerEvent}
      (check : Engine.checkManualEntry entry = .ok ())
      (owned : sh.store = actor.store)
      (place : ev = entry.place ids.event sh.id (Store.nextSeq sh.events) now)
      (appends : s.Appends sh ev) : Change e now s (s.logged ev)
  /-- A cart is sold. -/
  | sold {ids : Ids} {actor : Actor} {cart : Cart} {key : String} {claim : Claim} {u : SaleUnit}
      {sh : Shift} {ev : DrawerEvent}
      (claims : Claims e.keyLifetime ⟨actor.store, actor.cashier, key, now⟩ s claim)
      (plan : e.planSale ids now actor cart claim s = .ok u)
      (fits : s.SaleFits u sh ev) : Change e now s (s.afterSale u ev)
  /-- The refusal of a cart is remembered. -/
  | refused {actor : Actor} {key : String} {claim : Claim} {reason : Rejection}
      (claims : Claims e.keyLifetime ⟨actor.store, actor.cashier, key, now⟩ s claim)
      (kind : reason.kind = .validation) :
      Change e now s (s.remembered (claim.record none (.ofRejection reason)) now)
  /-- A transaction is voided. -/
  | voided {ids : Ids} {actor : Actor} {reason : String} {sh sh' : Shift} {t : Transaction}
      {u : VoidUnit} {ev : DrawerEvent}
      (plan : e.VoidPlanned ids now actor reason s sh t u)
      (fits : s.VoidFits u t sh' ev) : Change e now s (s.afterVoid u ev)
  /-- A part of a transaction is refunded. -/
  | refunded {ids : Ids} {actor : Actor} {amount : Int} {reason : String} {sh sh' : Shift}
      {t refunded : Transaction} {units : List RestockLine} {u : RefundUnit} {ev : DrawerEvent}
      (elevated : actor.isElevated = true)
      (shift : s.openShift? actor.cashier actor.store = some sh)
      (owned : t.store = actor.store)
      (plan : t.IsRefund amount refunded units)
      (unit : u = Engine.refundUnit ids now actor sh.id amount reason t refunded units)
      (fits : s.RefundFits u t sh' ev) : Change e now s (s.afterRefund u ev)
  /-- A product is registered. -/
  | productAdded {ids : Ids} {actor : Actor} {p : NewProduct} {after : Store}
      (check : p.check = .ok ())
      (added : s.addProduct (p.register ids.subject actor.store now) = .ok after) :
      Change e now s after
  /-- A supplier is registered. -/
  | supplierAdded {ids : Ids} {actor : Actor} {p : NewSupplier} {after : Store}
      (check : p.check = .ok ())
      (added : s.addSupplier (p.register ids.subject actor.store now) = .ok after) :
      Change e now s after
  /-- An order is made. -/
  | orderAdded {ids : Ids} {actor : Actor} {o : NewOrder} {after : Store}
      (elevated : actor.isElevated = true)
      (check : o.check = .ok ())
      (products : Engine.requireProducts s actor.store o.products = .ok ())
      (added : s.addOrder (o.make ids.subject actor now) = .ok after)
      (supplier : (s.supplier? actor.store o.supplier).isSome = true) : Change e now s after
  /-- Units of an order arrive. -/
  | received {ids : Ids} {actor : Actor} {lines : List ReceiptLine} {o received : PurchaseOrder}
      {u : ReceiptUnit} {booked : List OrderLine}
      (check : Engine.checkReceipt lines = .ok ())
      (owned : o.store = actor.store)
      (receive : o.receive lines now = .ok received)
      (unit : u = ⟨o.store, o.id, lines, Engine.receiptMovements ids o lines now, now⟩)
      (fits : s.ReceiptFits u o booked) : Change e now s (s.afterReceipt u booked)
  /-- Expired outcomes are forgotten. -/
  | purged : Change e now s (s.purge now).1

/-- **What a request does is a change.** -/
theorem Deed.change {e : Engine} {ids : Ids} {actor : Actor} {now : Instant} {s after : Store}
    {r : Request} (h : Deed e ids actor now s r after) : Change e now s after := by
  cases h with
  | shiftOpened start added => exact .shiftOpened start added
  | shiftClosed handles close fits => exact .shiftClosed handles.store close fits
  | entryRecorded check handles place appends =>
    exact .entryRecorded check handles.store place appends
  | sold claims plan fits => exact .sold claims plan fits
  | refused claims refusal kind => exact .refused claims kind
  | voided plan fits => exact .voided plan fits
  | refunded elevated shift owned plan unit fits =>
    exact .refunded elevated shift owned plan unit fits
  | productAdded check added => exact .productAdded check added
  | supplierAdded check added => exact .supplierAdded check added
  | orderAdded elevated check products added supplier =>
    exact .orderAdded elevated check products added supplier
  | received check owned receive unit fits => exact .received check owned receive unit fits

namespace Engine

variable {κ : Type}

/-- **Whatever is asked, the store stays as it is or makes one of the changes listed.** -/
theorem handle_change (e : Engine) (c : CacheAccess κ) (ids : Ids) (actor : Actor) (r : Request)
    (w : World κ) :
    (e.handle c ids actor r w).2.store = w.store ∨
      Change e w.now w.store (e.handle c ids actor r w).2.store :=
  (e.handle_deed c ids actor r w).imp_right Deed.change

theorem purge_change (e : Engine) (w : World κ) :
    Change e w.now w.store (purge w).2.store :=
  .purged

end Engine

end Till
