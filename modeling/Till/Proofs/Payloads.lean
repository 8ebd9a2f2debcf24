import Till.Proofs.InstantText
import Till.Proofs.Prices

/-!
# Stored transactions come back

The outcome of a sale is stored as the JSON form of its transaction, and given again by reading that
form.  A transaction comes back as it was if none of its numbers leaves the range of its field, as
those of a priced one do not; there are no real numbers in it that being written could change.

* `Transaction.kept_toJson` : the JSON form is not changed by being stored;
* `Transaction.Storable.ofJson?_toJson` : the JSON form is read as the transaction;
* `Transaction.ofJson?_toJson` : so it is for a priced transaction.
-/

namespace Till

/-! ### Reading members -/

namespace Json

@[simp] theorem text?_str (s : String) : (Json.str s).text? = some s := rfl

theorem int?_int {n : Int} (h : Cents.Fits n) : (Json.int n).int? = some n := if_pos h

theorem nat?_int {n high : Nat} (h : n ≤ high) : (Json.int n).nat? high = some n := by
  rw [nat?, intIn?, if_pos ⟨Int.natCast_nonneg n, Int.ofNat_le.2 h⟩]
  rfl

@[simp] theorem nullable?_ofText? (text : Option String) :
    (ofText? text).nullable? Json.text? = some text := by
  cases text <;> rfl

/-- An array is read if each of its items is. -/
theorem list?_map {α : Type} {read : Json → Option α} {write : α → Json} {as : List α}
    (h : ∀ a ∈ as, read (write a) = some a) : (Json.arr (as.map write)).list? read = some as :=
  Rows.mapM_map_eq_some h

theorem keptItems_map {α : Type} {write : α → Json} {as : List α}
    (h : ∀ a ∈ as, (write a).kept = write a) : keptItems (as.map write) = as.map write := by
  induction as with
  | nil => rfl
  | cons a as ih =>
    obtain ⟨ha, has⟩ := List.forall_mem_cons.1 h
    rw [List.map_cons, keptItems, ha, ih has]

@[simp] theorem kept_ofText? (text : Option String) : (ofText? text).kept = ofText? text := by
  cases text <;> rfl

end Json

namespace Instant

theorem ofJson?_toJson {t : Instant} (h : t.IsRepresentable) : ofJson? t.toJson = some t := by
  rw [ofJson?, toJson, Json.text?_str, Option.bind_eq_bind, Option.bind_some, ofText?_text h]

theorem nullable?_optionToJson {t : Option Instant} (h : ∀ at' ∈ t, at'.IsRepresentable) :
    (optionToJson t).nullable? ofJson? = some t := by
  cases t with
  | none => rfl
  | some at' =>
    have hread := ofJson?_toJson (h at' rfl)
    rw [toJson] at hread
    simp only [optionToJson, toJson, Json.nullable?, hread, Option.map_some]

@[simp] theorem kept_optionToJson (t : Option Instant) :
    (optionToJson t).kept = optionToJson t := by
  cases t <;> rfl

end Instant

@[simp] theorem PaymentMethod.ofJson?_toJson (p : PaymentMethod) : ofJson? p.toJson = some p := by
  cases p <;> rfl

@[simp] theorem TransactionStatus.ofJson?_toJson (s : TransactionStatus) :
    ofJson? s.toJson = some s := by
  cases s <;> rfl

@[simp] theorem PricingRecord.ofJson?_toJson (r : PricingRecord) : ofJson? r.toJson = some r := by
  obtain ⟨source, reason, approvedBy⟩ := r
  cases source <;> cases reason <;> cases approvedBy <;> rfl

/-! ### Lines -/

namespace LineItem

variable {l : LineItem}

theorem InRange.unitPrice_fits (h : l.InRange) : Cents.Fits l.unitPrice := by
  have hle : l.unitPrice * 1 ≤ l.total := Int.mul_le_mul_of_nonneg_left h.quantity.1 h.price
  obtain ⟨-, hfits⟩ := h.fits
  have hprice := h.price
  simp only [Cents.Fits, Cents.least, Cents.greatest] at *
  omega

theorem InRange.discount_fits (h : l.InRange) : Cents.Fits l.discount := by
  obtain ⟨hlow, hhigh⟩ := h.discount
  obtain ⟨-, hfits⟩ := h.fits
  simp only [Cents.Fits, Cents.least, Cents.greatest] at *
  omega

/-- **A line whose numbers fit their fields.** -/
structure Storable (l : LineItem) : Prop where
  number : Cents.Fits l.number
  quantity : Cents.Fits l.quantity
  unitPrice : Cents.Fits l.unitPrice
  discount : Cents.Fits l.discount

theorem Storable.ofJson?_toJson (h : l.Storable) : ofJson? l.toJson = some l := by
  simp [ofJson?, toJson, Json.members?, Json.member, Json.find?, Json.int?_int h.number,
    Json.int?_int h.quantity, Json.int?_int h.unitPrice, Json.int?_int h.discount]

theorem InRange.storable (h : l.InRange) : l.Storable := by
  obtain ⟨hnumber, hmost⟩ := h.number
  obtain ⟨hquantity, hgreatest⟩ := h.quantity
  refine ⟨?_, ?_, h.unitPrice_fits, h.discount_fits⟩
  · simp only [Cents.Fits, Cents.least, Cents.greatest, Field.mostLines] at *
    omega
  · simp only [Cents.Fits, Cents.least, Cents.greatest, Field.greatestQuantity] at *
    omega

end LineItem

/-! ### Transactions -/

namespace Transaction

variable {t : Transaction}

/-- **The JSON form of a transaction** is stored as it is. -/
theorem kept_toJson (t : Transaction) : t.toJson.kept = t.toJson := by
  have hlines : Json.keptItems (t.lines.map LineItem.toJson) = t.lines.map LineItem.toJson :=
    Json.keptItems_map fun l _ => rfl
  have hpricing : t.pricing.toJson.kept = t.pricing.toJson := by
    simp [PricingRecord.toJson, Json.kept, Json.keptMembers]
  have hpayment : t.payment.toJson.kept = t.payment.toJson := rfl
  have hstatus : t.status.toJson.kept = t.status.toJson := rfl
  have hcreated : t.createdAt.toJson.kept = t.createdAt.toJson := rfl
  simp [toJson, Json.kept, Json.keptMembers, hlines, hpricing, hpayment, hstatus, hcreated]

/-- The members of the JSON form, by the names under which they are read. -/
theorem toJson_members (t : Transaction) :
    ∃ m, t.toJson = .obj m ∧
      Json.member "id" m = .str t.id ∧
      Json.member "store_id" m = .str t.store ∧
      Json.member "cashier_id" m = .str t.cashier ∧
      Json.member "shift_id" m = .str t.shift ∧
      Json.member "idempotency_key" m = .str t.key ∧
      Json.member "lines" m = .arr (t.lines.map LineItem.toJson) ∧
      Json.member "subtotal_cents" m = .int t.subtotal ∧
      Json.member "discount_total_cents" m = .int t.discount ∧
      Json.member "tax_total_cents" m = .int t.tax ∧
      Json.member "grand_total_cents" m = .int t.grand ∧
      Json.member "tax_rate_bps" m = .int t.taxRate ∧
      Json.member "payment_method" m = t.payment.toJson ∧
      Json.member "status" m = t.status.toJson ∧
      Json.member "pricing" m = t.pricing.toJson ∧
      Json.member "refunded_cents" m = .int t.refunded ∧
      Json.member "created_at" m = t.createdAt.toJson ∧
      Json.member "voided_at" m = Instant.optionToJson t.voidedAt ∧
      Json.member "void_reason" m = Json.ofText? t.voidReason ∧
      Json.member "voided_by" m = Json.ofText? t.voidedBy :=
  ⟨_, rfl, rfl, rfl, rfl, rfl, rfl, rfl, rfl, rfl, rfl, rfl, rfl, rfl, rfl, rfl, rfl, rfl, rfl, rfl,
    rfl⟩

/-- **A transaction whose numbers fit their fields** and whose instants can be represented. -/
structure Storable (t : Transaction) : Prop where
  lines : ∀ l ∈ t.lines, l.Storable
  subtotal : Cents.Fits t.subtotal
  discount : Cents.Fits t.discount
  tax : Cents.Fits t.tax
  grand : Cents.Fits t.grand
  rate : t.taxRate ≤ Json.greatest32
  refunded : Cents.Fits t.refunded
  created : t.createdAt.IsRepresentable
  voided : ∀ at' ∈ t.voidedAt, at'.IsRepresentable

/-- **The JSON form of a transaction** is read as the transaction. -/
theorem Storable.ofJson?_toJson (h : t.Storable) : ofJson? t.toJson = some t := by
  have hlines : (Json.arr (t.lines.map LineItem.toJson)).list? LineItem.ofJson? = some t.lines :=
    Json.list?_map fun l hl => (h.lines l hl).ofJson?_toJson
  obtain ⟨m, hm, members⟩ := t.toJson_members
  rw [hm, ofJson?, Json.members?, Option.bind_eq_bind, Option.bind_some]
  -- The members are read before any bind is opened, since opening one repeats all that follow it.
  simp only [members, Json.text?_str, hlines, Json.int?_int h.subtotal, Json.int?_int h.discount,
    Json.int?_int h.tax, Json.int?_int h.grand, Json.int?_int h.refunded, Json.nat?_int h.rate,
    PaymentMethod.ofJson?_toJson, TransactionStatus.ofJson?_toJson, PricingRecord.ofJson?_toJson,
    Instant.ofJson?_toJson h.created, Instant.nullable?_optionToJson h.voided,
    Json.nullable?_ofText?]
  rfl

theorem Priced.storable (priced : t.Priced) (refunded : Cents.Fits t.refunded)
    (created : t.createdAt.IsRepresentable) (voided : ∀ at' ∈ t.voidedAt, at'.IsRepresentable) :
    t.Storable where
  lines l hl := (priced.lines l hl).storable
  subtotal := priced.fits.subtotal
  discount := priced.fits.discount
  tax := priced.fits.tax
  grand := priced.fits.grand
  rate := Nat.le_trans priced.rate (by decide)
  refunded := refunded
  created := created
  voided := voided

/-- **The JSON form of a priced transaction** is read as the transaction. -/
theorem ofJson?_toJson (priced : t.Priced) (refunded : Cents.Fits t.refunded)
    (created : t.createdAt.IsRepresentable) (voided : ∀ at' ∈ t.voidedAt, at'.IsRepresentable) :
    ofJson? t.toJson = some t :=
  (priced.storable refunded created voided).ofJson?_toJson

end Transaction

end Till
