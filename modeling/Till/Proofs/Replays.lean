import Till.Idempotency
import Till.Proofs.CacheKeys
import Till.Proofs.JsonText
import Till.Proofs.Payloads

/-!
# Stored outcomes are replayed as they were

What came of a request is kept as text and given again by reading the text.  A transaction is given
again as it was, and a refusal as one of the same kind and wording, which would be stored as the same
text again.

* `Json.sorted_obj` : an object whose members are in order is left in order;
* `StoredOutcome.ofText?_text` : the text of an outcome is read as the outcome, its payload in order;
* `StoredOutcome.replays_faithfully` : what is given again of an outcome that was stored.
-/

namespace Till

/-! ### Members in order -/

namespace Json

/-- A member stays behind all that come before it. -/
theorem insertMember_of_lt {name : String} {j : Json} {acc : Members}
    (h : ∀ m ∈ acc, m.1 < name) : insertMember name j acc = acc ++ [(name, j)] := by
  induction acc with
  | nil => rfl
  | cons m acc ih =>
    obtain ⟨hm, hacc⟩ := List.forall_mem_cons.1 h
    have hne : (name == m.1) = false := beq_false_of_ne hm.ne'
    have hbefore : Text.before name m.1 = false := by
      rw [Bool.eq_false_iff, ne_eq, Text.before_iff]
      exact hm.asymm
    rw [insertMember, hne, hbefore, ih hacc]
    rfl

theorem sortedMembers_eq {acc members : Members}
    (h : ((acc ++ members).map (·.1)).Pairwise (· < ·)) :
    sortedMembers acc members = acc ++ members.map fun m => (m.1, m.2.sorted) := by
  induction members generalizing acc with
  | nil => rw [sortedMembers, List.map_nil, List.append_nil]
  | cons m members ih =>
    have hlast : ∀ a ∈ acc, a.1 < m.1 := by
      rw [List.map_append, List.pairwise_append] at h
      intro a ha
      exact h.2.2 a.1 (List.mem_map_of_mem ha) m.1 (by simp)
    have hrest : (((acc ++ [(m.1, m.2.sorted)]) ++ members).map (·.1)).Pairwise (· < ·) := by
      simpa using h
    rw [sortedMembers, insertMember_of_lt hlast, ih hrest]
    simp

/-- **An object whose members are in order** is left in order. -/
theorem sorted_obj {members : Members} (h : (members.map (·.1)).Pairwise (· < ·)) :
    (obj members).sorted = obj (members.map fun m => (m.1, m.2.sorted)) := by
  have hmembers : sortedMembers [] members = [] ++ members.map fun m => (m.1, m.2.sorted) :=
    sortedMembers_eq h
  rw [sorted, hmembers, List.nil_append]

theorem sortedItems_map {α : Type} {write : α → Json} {as : List α}
    (h : ∀ a ∈ as, (write a).sorted = write a) : sortedItems (as.map write) = as.map write := by
  induction as with
  | nil => rfl
  | cons a as ih =>
    obtain ⟨ha, has⟩ := List.forall_mem_cons.1 h
    rw [List.map_cons, sortedItems, ha, ih has]

@[simp] theorem sorted_ofText? (text : Option String) : (ofText? text).sorted = ofText? text := by
  cases text <;> rfl

theorem exact_ofText? (depth : Nat) (text : Option String) : Exact depth (ofText? text) := by
  cases text with
  | none => exact .null depth
  | some s => exact .str depth s

theorem exact_int (depth : Nat) {n : Int} (h : Cents.Fits n) : Exact depth (.int n) :=
  .int h.1 (h.2.trans (by decide))

end Json

/-! ### The text of a transaction -/

namespace LineItem

variable {l : LineItem}

@[simp] theorem sorted_toJson (l : LineItem) : l.toJson.sorted = l.toJson := by
  rw [toJson, Json.sorted_obj (by simp only [List.map_cons, List.map_nil]; decide)]
  rfl

theorem Storable.exact_toJson (h : l.Storable) : Json.Exact 1 l.toJson := by
  refine .obj ?_
  simp only [List.forall_mem_cons]
  exact ⟨Json.exact_int 0 h.discount, Json.exact_int 0 h.number, .str 0 _,
    Json.exact_int 0 h.quantity, Json.exact_int 0 h.unitPrice, by simp⟩

end LineItem

namespace PricingRecord

@[simp] theorem sorted_toJson (r : PricingRecord) : r.toJson.sorted = r.toJson := by
  rw [toJson, Json.sorted_obj (by simp only [List.map_cons, List.map_nil]; decide)]
  simp [Json.sorted]

theorem exact_toJson (r : PricingRecord) : Json.Exact 1 r.toJson := by
  refine .obj ?_
  simp only [List.forall_mem_cons]
  exact ⟨Json.exact_ofText? 0 _, Json.exact_ofText? 0 _, .str 0 _, by simp⟩

end PricingRecord

namespace Instant

@[simp] theorem sorted_optionToJson (t : Option Instant) :
    (optionToJson t).sorted = optionToJson t := by
  cases t <;> rfl

theorem exact_optionToJson (depth : Nat) (t : Option Instant) :
    Json.Exact depth (optionToJson t) := by
  cases t with
  | none => exact .null depth
  | some at' => exact .str depth at'.text

end Instant

namespace Transaction

variable {t : Transaction}

/-- The members of a transaction, its lines and its pricing record stand in order. -/
@[simp] theorem sorted_toJson (t : Transaction) : t.toJson.sorted = t.toJson := by
  have hlines : Json.sortedItems (t.lines.map LineItem.toJson) = t.lines.map LineItem.toJson :=
    Json.sortedItems_map fun l _ => l.sorted_toJson
  rw [toJson, Json.sorted_obj (by simp only [List.map_cons, List.map_nil]; decide)]
  simp only [List.map_cons, List.map_nil, Json.sorted, hlines, PricingRecord.sorted_toJson,
    Json.sorted_ofText?, Instant.sorted_optionToJson]
  rfl

theorem Storable.exact_toJson (h : t.Storable) : Json.Exact 3 t.toJson := by
  have hlines : ∀ j ∈ t.lines.map LineItem.toJson, Json.Exact 1 j := by
    intro j hj
    obtain ⟨l, hl, rfl⟩ := List.mem_map.1 hj
    exact (h.lines l hl).exact_toJson
  have hrate : Json.Exact 2 (.int t.taxRate) :=
    .int (le_trans (by decide) (Int.natCast_nonneg _))
      ((Int.ofNat_le.2 h.rate).trans (by decide))
  refine .obj ?_
  simp only [List.forall_mem_cons]
  exact ⟨.str 2 _, .str 2 _, Json.exact_int 2 h.discount, Json.exact_int 2 h.grand, .str 2 _,
    .str 2 _, .arr hlines, .str 2 _, t.pricing.exact_toJson.mono (by decide),
    Json.exact_int 2 h.refunded, .str 2 _, .str 2 _, .str 2 _, Json.exact_int 2 h.subtotal, hrate,
    Json.exact_int 2 h.tax, Json.exact_ofText? 2 _, Instant.exact_optionToJson 2 _,
    Json.exact_ofText? 2 _, by simp⟩

end Transaction

/-! ### The text of an outcome -/

@[simp] theorem RejectionKind.ofJson?_toJson (k : RejectionKind) : ofJson? k.toJson = some k := by
  cases k <;> rfl

namespace StoredOutcome

/-- The outcome with the members of its payload in order. -/
def sorted : StoredOutcome → StoredOutcome
  | success payload => success payload.sorted
  | failure kind message => failure kind message

theorem ofJson?_toJson (o : StoredOutcome) : ofJson? o.toJson = some o.sorted := by
  cases o with
  | success payload => rfl
  | failure kind message =>
    simp [ofJson?, toJson, Json.choice?, Json.member, Json.find?, sorted]

/-- An outcome whose payload is written exactly, with a level of the text to spare. -/
def IsExact : StoredOutcome → Prop
  | success payload => Json.Exact (Json.greatestDepth - 1) payload
  | failure _ _ => True

/-- **The text of an outcome** is read as the outcome, its payload in order. -/
theorem ofText?_text {o : StoredOutcome} (h : o.IsExact) : ofText? o.text = some o.sorted := by
  have hexact : Json.Exact Json.greatestDepth o.toJson := by
    cases o with
    | success payload =>
      refine .obj ?_
      simp only [List.forall_mem_cons]
      exact ⟨.str _ _, h, by simp⟩
    | failure kind message =>
      refine .obj ?_
      simp only [List.forall_mem_cons]
      exact ⟨.str _ _, .str _ _, .str _ _, by simp⟩
  rw [ofText?, text, Json.parse?_print hexact]
  exact ofJson?_toJson o

theorem ofText?_text_transaction {t : Transaction} (h : t.Storable) :
    ofText? (success t.toJson).text = some (success t.toJson) := by
  have hexact : (success t.toJson).IsExact := h.exact_toJson.mono (by decide)
  rw [ofText?_text hexact, sorted, Transaction.sorted_toJson]

theorem ofText?_text_rejection (r : Rejection) :
    ofText? (ofRejection r).text = some (ofRejection r) :=
  ofText?_text (o := ofRejection r) trivial

/-- **Stored outcomes are replayed as they were.**  A transaction that was stored is given again as
it was, whatever its texts, its status, its lines and its missing parts.  A rejection that was
stored is given again as one of the same kind and message, which is stored as the same outcome. -/
theorem replays_faithfully :
    (∀ t : Transaction, t.Storable →
      (ofText? (success t.toJson).text).map (replay Transaction.ofJson?) = some (.ok t)) ∧
    ∀ (α : Type) (read : Json → Option α) (r : Rejection), ∃ again : Rejection,
      (ofText? (ofRejection r).text).map (replay read) = some (Outcome.reject again) ∧
        again.kind = r.kind ∧ again.message = r.message ∧ ofRejection again = ofRejection r := by
  constructor
  · intro t ht
    rw [ofText?_text_transaction ht, Option.map_some, replay, ht.ofJson?_toJson]
    rfl
  · intro α read r
    refine ⟨.replayed r.kind r.message, ?_, rfl, rfl, rfl⟩
    rw [ofText?_text_rejection]
    rfl

/-- A voided sale with the least and the greatest numbers, texts that have to be escaped, and
instants with three and with nine digits behind the second, one of them in a leap second. -/
def strangeSale : Transaction where
  id := "\"\n\u0001é𝄞"
  store := ""
  cashier := "\\"
  shift := "null"
  key := " "
  lines := [⟨Cents.least, "a/b", Cents.greatest, 0, -1⟩, ⟨1, "1", 1, Cents.greatest, Cents.least⟩]
  subtotal := Cents.greatest
  discount := Cents.least
  tax := 0
  grand := -1
  taxRate := Json.greatest32
  payment := .externalCard
  status := .voided
  pricing := ⟨.manual, some "", none⟩
  refunded := Cents.greatest
  createdAt := ⟨123000000⟩
  voidedAt := some ⟨-1⟩
  voidReason := none
  voidedBy := some "\t"

theorem replays_strangeSale :
    (ofText? (success strangeSale.toJson).text).map (replay Transaction.ofJson?) =
      some (.ok strangeSale) :=
  replays_faithfully.1 strangeSale
    { lines := by
        simp only [strangeSale, List.forall_mem_cons]
        exact ⟨⟨by decide, by decide, by decide, by decide⟩,
          ⟨by decide, by decide, by decide, by decide⟩, by simp⟩
      subtotal := by decide
      discount := by decide
      tax := by decide
      grand := by decide
      rate := by decide
      refunded := by decide
      created := by decide
      voided := by
        intro at' hat
        obtain rfl : (⟨-1⟩ : Instant) = at' := Option.some.inj hat
        decide }

end StoredOutcome

end Till
