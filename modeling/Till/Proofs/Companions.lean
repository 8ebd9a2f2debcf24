import Mathlib.Data.Set.Card
import Till.Proofs.CacheKeys
import Till.Proofs.Tables
import Till.Store.CoPurchases

/-!
# Products bought together

The score of a product beside others is the number of sales that have it and one of them.  The query
for it joins each line of a given product with every line of its transaction, so a sale with several
of the given products, or with a product on several lines, is met several times; it is counted once,
under its identifier.

* `Store.soldWith` : the sales that count for a product, as a set;
* `Store.IsRanking` : all products with a score, the best first;
* `Store.isRanking_unique`, `Store.isRanking_ranking` : there is one ranking, and suggestions are
  its first entries;
* `Tables.coPurchases` : the query, and `Store.coPurchases_tables`, what it gives;
* `Store.soldWith_afterVoid`, `Store.soldWith_afterRefund` : a void takes a sale out of the sets it
  is in, and a refund none;
* `Engine.run_ranksCompanions` : all of this in every run.
-/

namespace Till

/-! ### Scores and rankings -/

/-- A product is on a line of a transaction, however often and in whatever quantity. -/
def Transaction.Sells (t : Transaction) (p : String) : Prop := ∃ l ∈ t.lines, l.product = p

namespace Store

variable {s : Store} {store : String} {products products' : List String} {p id : String}

/-- The sales of a store with a product and one of the given ones, voided ones not counted. -/
def soldWith (s : Store) (store : String) (products : List String) (p : String) : Set String :=
  {id | ∃ t ∈ s.transactions, t.id = id ∧ t.store = store ∧ t.status ≠ .voided ∧ t.Sells p ∧
    ∃ q ∈ products, t.Sells q}

/-- The number of these sales. -/
noncomputable def score (s : Store) (store : String) (products : List String) (p : String) : Nat :=
  (s.soldWith store products p).ncard

/-- **The ranking of products bought together with the given ones**: all others with a score, by
score downwards and then by the bytes of their identifiers. -/
structure IsRanking (s : Store) (store : String) (products : List String)
    (ranking : List Suggestion) : Prop where
  mem_iff : ∀ c, c ∈ ranking ↔
    c.product ∉ products ∧ c.score = s.score store products c.product ∧ 0 < c.score
  ordered : ranking.Pairwise fun a b =>
    b.score < a.score ∨ a.score = b.score ∧ Text.bytes a.product < Text.bytes b.product

/-- The place of a suggestion. -/
def place (c : Suggestion) : Int ×ₗ String := toLex (-c.score, c.product)

theorem isSuggestedFirst_iff (a b : Suggestion) :
    isSuggestedFirst a b = true ↔ place a ≤ place b :=
  Rows.ite_iff_toLex_le neg_lt_neg_iff.symm neg_lt_neg_iff.symm Text.not_before_iff

theorem place_lt_iff {a b : Suggestion} : place a < place b ↔
    b.score < a.score ∨ a.score = b.score ∧ Text.bytes a.product < Text.bytes b.product := by
  rw [place, place, Prod.Lex.toLex_lt_toLex, neg_lt_neg_iff, neg_inj, Text.lt_iff_bytes]

/-- **There is one ranking.** -/
theorem isRanking_unique {ranking ranking' : List Suggestion}
    (h : s.IsRanking store products ranking) (h' : s.IsRanking store products ranking') :
    ranking = ranking' := by
  have hsorted := h.ordered.imp place_lt_iff.2
  have hsorted' := h'.ordered.imp place_lt_iff.2
  refine Rows.eq_of_mem_iff hsorted hsorted' fun c => ?_
  rw [h.mem_iff, h'.mem_iff]

/-- Scores of products of their own, put in order, are a ranking. -/
theorem isRanking_mergeSort {companions : List String} {count : String → Int}
    (hk : companions.Nodup)
    (hmem : ∀ p, p ∈ companions ↔ p ∉ products ∧ 0 < s.score store products p)
    (hcount : ∀ p ∈ companions, count p = s.score store products p) :
    s.IsRanking store products
      ((companions.map fun p => (⟨p, count p⟩ : Suggestion)).mergeSort isSuggestedFirst) := by
  constructor
  · intro c
    rw [List.mem_mergeSort, List.mem_map]
    constructor
    · rintro ⟨p, hp, rfl⟩
      have hscore := hcount p hp
      obtain ⟨hother, hpos⟩ := (hmem p).1 hp
      exact ⟨hother, hscore, hscore ▸ Int.natCast_pos.2 hpos⟩
    · rintro ⟨hother, hscore, hpos⟩
      have hp : c.product ∈ companions := (hmem c.product).2 ⟨hother, by omega⟩
      exact ⟨c.product, hp, by rw [hcount c.product hp, ← hscore]⟩
  · refine List.Pairwise.imp place_lt_iff.1 (Rows.pairwise_lt
      (Rows.pairwise_le_mergeSort isSuggestedFirst_iff _) ?_)
    refine ((List.mergeSort_perm _ _).map place).nodup_iff.2 ?_
    rw [List.map_map]
    exact hk.map fun p q h => congrArg (fun c => (ofLex c).2) h

/-! ### Suggestions -/

theorem countsFor_iff {t : Transaction} : countsFor store products t = true ↔
    t.store = store ∧ t.status ≠ .voided ∧ ∃ q ∈ products, t.Sells q := by
  simp only [countsFor, Bool.and_eq_true, beq_iff_eq, decide_eq_true_eq, List.any_eq_true,
    List.contains_iff_mem, and_assoc, Transaction.Sells]
  refine and_congr_right fun _ => and_congr_right fun _ => ?_
  constructor
  · rintro ⟨l, hl, hmem⟩
    exact ⟨l.product, hmem, l, hl, rfl⟩
  · rintro ⟨_, hmem, l, hl, rfl⟩
    exact ⟨l, hl, hmem⟩

/-- The identifiers of the sales with a product. -/
def idsWith (s : Store) (store : String) (products : List String) (p : String) : List String :=
  ((s.salesWith store products).filter fun t => t.lines.any fun l => l.product == p).map (·.id)

theorem mem_idsWith : id ∈ s.idsWith store products p ↔ id ∈ s.soldWith store products p := by
  simp only [idsWith, salesWith, List.mem_map, List.mem_filter, countsFor_iff, List.any_eq_true,
    beq_iff_eq, soldWith, Set.mem_ofPred_eq, Transaction.Sells]
  constructor
  · rintro ⟨t, ⟨⟨ht, hstore, hstatus, hgiven⟩, hsells⟩, rfl⟩
    exact ⟨t, ht, rfl, hstore, hstatus, hsells, hgiven⟩
  · rintro ⟨t, ht, rfl, hstore, hstatus, hsells, hgiven⟩
    exact ⟨t, ⟨⟨ht, hstore, hstatus, hgiven⟩, hsells⟩, rfl⟩

theorem finite_soldWith (s : Store) (store : String) (products : List String) (p : String) :
    (s.soldWith store products p).Finite :=
  (s.idsWith store products p).toFinset.finite_toSet.subset fun _ h =>
    Finset.mem_coe.2 (List.mem_toFinset.2 (mem_idsWith.2 h))

/-- A list of all the sales, counted without repetitions, gives the score. -/
theorem score_eq_of_mem {ids : List String}
    (h : ∀ id, id ∈ ids ↔ id ∈ s.soldWith store products p) :
    s.score store products p = ids.dedup.length := by
  have hset : s.soldWith store products p = ids.toFinset := by
    ext id
    rw [← h, List.coe_toFinset, Set.mem_ofPred_eq]
  rw [score, hset, Set.ncard_coe_finset, List.card_toFinset]

theorem score_pos : 0 < s.score store products p ↔ ∃ id, id ∈ s.soldWith store products p :=
  Set.ncard_pos (s.finite_soldWith store products p)

/-- All products with a score, in order. -/
def ranking (s : Store) (store : String) (products : List String) : List Suggestion :=
  ((companions products (s.salesWith store products)).map fun p =>
    (⟨p, salesOf p (s.salesWith store products)⟩ : Suggestion)).mergeSort isSuggestedFirst

theorem coPurchases_eq (s : Store) (store : String) (products : List String) (limit : Nat) :
    s.coPurchases store products limit = (s.ranking store products).take limit :=
  rfl

/-- **Suggestions are the first entries of the ranking.** -/
theorem isRanking_ranking (k : s.Keyed) (store : String) (products : List String) :
    s.IsRanking store products (s.ranking store products) := by
  refine isRanking_mergeSort ?_ (fun p => ?_) fun p _ => ?_
  · exact ((Text.pairwise_sortedDistinct _).imp ne_of_lt).filter _
  · rw [companions, List.mem_filter, Text.mem_sortedDistinct, Bool.not_eq_true', score_pos,
      ← Bool.not_eq_true, List.contains_iff_mem, and_comm]
    refine and_congr_right fun _ => ?_
    simp only [← mem_idsWith, idsWith, List.mem_map, List.mem_flatMap, List.mem_filter,
      List.any_eq_true, beq_iff_eq]
    constructor
    · rintro ⟨t, ht, l, hl, rfl⟩
      exact ⟨t.id, t, ⟨ht, l, hl, rfl⟩, rfl⟩
    · rintro ⟨_, t, ⟨ht, l, hl, rfl⟩, -⟩
      exact ⟨t, ht, l, hl, rfl⟩
  · have hids : (s.idsWith store products p).Nodup :=
      k.transactions.sublist ((List.filter_sublist.trans List.filter_sublist).map _)
    rw [score_eq_of_mem fun _ => mem_idsWith, hids.dedup, idsWith, List.length_map]
    rfl

end Store

/-! ### The query -/

namespace Tables

/-- The joined rows: for a line of one of the products, in a transaction of the store that is not
voided, each line of another product in the same transaction, as its product and transaction. -/
def companionRows (tables : Tables) (store : String) (products : List String) :
    List (String × String) :=
  tables.lines.flatMap fun l₁ =>
    (tables.transactions.filter fun r =>
      r.id == l₁.transaction && (r.store == store && r.status != "voided" &&
        products.contains l₁.line.product)).flatMap fun _ =>
      (tables.lines.filter fun l₂ =>
        l₂.transaction == l₁.transaction && !products.contains l₂.line.product).map fun l₂ =>
          (l₂.line.product, l₂.transaction)

/-- The products of the joined rows with the number of distinct transactions of each, the best
first, at most `limit`. -/
def coPurchases (tables : Tables) (store : String) (products : List String) (limit : Nat) :
    List Suggestion :=
  if products.isEmpty || limit == 0 then []
  else
    let rows := tables.companionRows store products
    (((Text.sortedDistinct (rows.map Prod.fst)).map fun p =>
      (⟨p, ((rows.filter fun r => r.1 == p).map Prod.snd).dedup.length⟩ : Suggestion)).mergeSort
        Store.isSuggestedFirst).take limit

end Tables

namespace Store

variable {s : Store} {store : String} {products products' : List String} {p id : String}

/-- Without products there is nothing to be sold together with. -/
theorem isRanking_nil (s : Store) (store : String) : s.IsRanking store [] [] := by
  refine ⟨fun c => ?_, .nil⟩
  have hnone : ¬0 < s.score store [] c.product := by
    rw [score_pos]
    rintro ⟨_, t, -, -, -, -, -, q, hq, -⟩
    exact List.not_mem_nil hq
  simp only [List.not_mem_nil, not_false_eq_true, true_and, false_iff, not_and, not_lt]
  omega

theorem mem_lines_tables {l : LineRow} :
    l ∈ s.tables.lines ↔ ∃ t ∈ s.transactions, ∃ line ∈ t.lines, LineRow.mk t.id line = l := by
  simp [tables, Tables.ofTransactions, Transaction.lineRows]

theorem text_status_ne {status : TransactionStatus} :
    (status.text != "voided") = true ↔ status ≠ .voided := by
  cases status <;> decide

/-- **A joined row** is another product with a sale that counts for it. -/
theorem mem_companionRows (k : s.Keyed) : (p, id) ∈ s.tables.companionRows store products ↔
    p ∉ products ∧ id ∈ s.soldWith store products p := by
  simp only [Tables.companionRows, List.mem_flatMap, List.mem_filter, List.mem_map,
    mem_lines_tables, Bool.and_eq_true, beq_iff_eq, Bool.not_eq_true', ← Bool.not_eq_true,
    List.contains_iff_mem, Prod.mk.injEq]
  constructor
  · rintro ⟨_, ⟨t₁, ht₁, l₁, hl₁, rfl⟩, r, ⟨hr, hid, ⟨hstore, hstatus⟩, hgiven⟩, _,
      ⟨⟨t₂, ht₂, l₂, hl₂, rfl⟩, hid₂, hother⟩, rfl, rfl⟩
    obtain ⟨t, ht, rfl⟩ := List.mem_map.1 hr
    -- Identifiers tell that all three rows are of one transaction.
    obtain rfl : t = t₁ := List.inj_on_of_nodup_map k.transactions ht ht₁ hid
    obtain rfl : t₂ = t := List.inj_on_of_nodup_map k.transactions ht₂ ht hid₂
    exact ⟨hother, t₂, ht, rfl, hstore, text_status_ne.1 hstatus, ⟨l₂, hl₂, rfl⟩, l₁.product,
      hgiven, l₁, hl₁, rfl⟩
  · rintro ⟨hother, t, ht, rfl, hstore, hstatus, ⟨l₂, hl₂, rfl⟩, _, hgiven, l₁, hl₁, rfl⟩
    exact ⟨_, ⟨t, ht, l₁, hl₁, rfl⟩, t.row,
      ⟨List.mem_map_of_mem ht, rfl, ⟨hstore, text_status_ne.2 hstatus⟩, hgiven⟩,
      _, ⟨⟨t, ht, l₂, hl₂, rfl⟩, rfl, hother⟩, rfl, rfl⟩

/-- **The query gives the first entries of the ranking.** -/
theorem coPurchases_tables (k : s.Keyed) (store : String) (products : List String) (limit : Nat) :
    s.tables.coPurchases store products limit = s.coPurchases store products limit := by
  have hranking : s.IsRanking store products
      (((Text.sortedDistinct ((s.tables.companionRows store products).map Prod.fst)).map fun p =>
        (⟨p, (((s.tables.companionRows store products).filter fun r => r.1 == p).map
          Prod.snd).dedup.length⟩ : Suggestion)).mergeSort isSuggestedFirst) := by
    refine isRanking_mergeSort ((Text.pairwise_sortedDistinct _).imp ne_of_lt) (fun p => ?_)
      fun p hp => ?_
    · rw [Text.mem_sortedDistinct, List.mem_map, score_pos]
      simp only [Prod.exists, exists_and_right, exists_eq_right, mem_companionRows k,
        exists_and_left]
    · obtain ⟨⟨_, id⟩, hrow, rfl⟩ := List.mem_map.1 (Text.mem_sortedDistinct.1 hp)
      have hother := ((mem_companionRows k).1 hrow).1
      refine congrArg Nat.cast (score_eq_of_mem fun id => ?_).symm
      simp [mem_companionRows k, hother]
  rw [coPurchases_eq, Tables.coPurchases]
  split
  · next hnone =>
    rcases (Bool.or_eq_true _ _).mp hnone with hempty | hzero
    · obtain rfl := List.isEmpty_iff.1 hempty
      rw [← isRanking_unique (s.isRanking_nil store) (isRanking_ranking k store []), List.take_nil]
    · rw [beq_iff_eq.1 hzero, List.take_zero]
  · rw [isRanking_unique (isRanking_ranking k store products) hranking]

end Store

/-! ### What scores depend on -/

/-- **A transaction counts like another one**: it has its identifier, its store and its products,
and both are voided or neither. -/
structure Transaction.CountsLike (t' t : Transaction) : Prop where
  id : t'.id = t.id
  store : t'.store = t.store
  voided : t'.status = .voided ↔ t.status = .voided
  sells : ∀ p, t'.Sells p ↔ t.Sells p

theorem Transaction.CountsLike.refl (t : Transaction) : t.CountsLike t :=
  ⟨rfl, rfl, Iff.rfl, fun _ => Iff.rfl⟩

namespace Store

variable {s after : Store} {store : String} {products products' : List String} {p : String}

theorem soldWith_of_countsLike {f : Transaction → Transaction}
    (hafter : after.transactions = s.transactions.map f)
    (h : ∀ t ∈ s.transactions, (f t).CountsLike t) (store : String) (products : List String)
    (p : String) : after.soldWith store products p = s.soldWith store products p := by
  ext id
  simp only [soldWith, hafter, List.mem_map, Set.mem_ofPred_eq, exists_exists_and_eq_and]
  refine exists_congr fun t => and_congr_right fun ht => ?_
  have like := h t ht
  simp only [like.id, like.store, like.sells, ne_eq, like.voided]

/-- A ranking stays one while the sets of sales stay the same. -/
theorem IsRanking.congr {ranking : List Suggestion} (h : s.IsRanking store products ranking)
    (hset : ∀ q, q ∈ products' ↔ q ∈ products)
    (hsold : ∀ p, after.soldWith store products' p = s.soldWith store products p) :
    after.IsRanking store products' ranking := by
  refine ⟨fun c => ?_, h.ordered⟩
  rw [h.mem_iff, hset, score, score, hsold]

theorem coPurchases_congr (k : s.Keyed) (kafter : after.Keyed)
    (hset : ∀ q, q ∈ products' ↔ q ∈ products)
    (hsold : ∀ p, after.soldWith store products' p = s.soldWith store products p) (limit : Nat) :
    after.coPurchases store products' limit = s.coPurchases store products limit := by
  rw [coPurchases_eq, coPurchases_eq, isRanking_unique (isRanking_ranking kafter store products')
    ((isRanking_ranking k store products).congr hset hsold)]

theorem soldWith_congr (hset : ∀ q, q ∈ products' ↔ q ∈ products) (p : String) :
    s.soldWith store products' p = s.soldWith store products p := by
  simp only [soldWith, hset]

/-! ### Voids and refunds -/

/-- **A void takes its sale out** of the sets that it is in. -/
theorem soldWith_afterVoid {u : VoidUnit} {t : Transaction} {sh : Shift} {ev : DrawerEvent}
    (k : s.Keyed) (fits : s.VoidFits u t sh ev) (store : String) (products : List String)
    (p : String) : (s.afterVoid u ev).soldWith store products p =
      s.soldWith store products p \ {u.transaction} := by
  obtain ⟨ht, hid, -⟩ := transaction?_eq_some fits.found
  ext id
  simp only [soldWith, afterVoid, ← hid, Rows.mem_update k.transactions ht, Set.mem_sdiff,
    Set.mem_ofPred_eq, Set.mem_singleton_iff]
  constructor
  · rintro ⟨t', rfl | ⟨ht', hne⟩, rfl, hstore, hstatus, hcounts⟩
    · exact absurd rfl hstatus
    · exact ⟨⟨t', ht', rfl, hstore, hstatus, hcounts⟩, hne⟩
  · rintro ⟨⟨t', ht', rfl, hcounts⟩, hne⟩
    exact ⟨t', .inr ⟨ht', hne⟩, rfl, hcounts⟩

/-- **A refund takes no sale out.** -/
theorem soldWith_afterRefund {u : RefundUnit} {t : Transaction} {sh : Shift} {ev : DrawerEvent}
    (k : s.Keyed) (fits : s.RefundFits u t sh ev) (hstatus : u.statusAfter ≠ .voided)
    (store : String) (products : List String) (p : String) :
    (s.afterRefund u ev).soldWith store products p = s.soldWith store products p := by
  obtain ⟨ht, hid, -⟩ := transaction?_eq_some fits.found
  refine soldWith_of_countsLike rfl (fun t' ht' => ?_) store products p
  split
  · next heq =>
    obtain rfl : t' = t :=
      List.inj_on_of_nodup_map k.transactions ht' ht ((beq_iff_eq.1 heq).trans hid.symm)
    exact ⟨rfl, rfl, iff_of_false hstatus (by rw [fits.completed]; nofun), fun _ => Iff.rfl⟩
  · exact .refl t'

end Store

/-! ### Runs -/

namespace Engine

variable {κ : Type} {e : Engine} {c : CacheAccess κ} {w : World κ}

/-- **Products bought together are ranked by the sales that have them.**  The ranking depends on the
set of products only; what is asked for is its beginning; a sale counts once, whatever is on its
lines besides; a void takes it out of the sets it is in, and a refund changes nothing. -/
structure RanksCompanions (e : Engine) (c : CacheAccess κ) (w : World κ) : Prop where
  ranks : ∀ store products, ∃ ranking, w.store.IsRanking store products ranking ∧
    (∀ other, w.store.IsRanking store products other → other = ranking) ∧
      ∀ limit, w.store.coPurchases store products limit = ranking.take limit ∧
        w.store.tables.coPurchases store products limit = ranking.take limit
  alike : ∀ {products products' : List String}, (∀ p, p ∈ products' ↔ p ∈ products) →
    ∀ store limit, w.store.coPurchases store products' limit =
      w.store.coPurchases store products limit
  starts : ∀ {limit limit' : Nat}, limit ≤ limit' → ∀ store products,
    w.store.coPurchases store products limit <+: w.store.coPurchases store products limit'
  once : ∀ f : Transaction → Transaction, (∀ t ∈ w.store.transactions, (f t).CountsLike t) →
    ∀ store products limit,
      { w.store with transactions := w.store.transactions.map f }.coPurchases store products limit =
        w.store.coPurchases store products limit
  voids : ∀ {ids actor id reason reply after},
    e.handle c ids actor (.void id reason) w = (.ok reply, after) → ∀ store products p,
      (id ∈ w.store.soldWith store products p →
        after.store.score store products p + 1 = w.store.score store products p) ∧
      (id ∉ w.store.soldWith store products p →
        after.store.score store products p = w.store.score store products p)
  refunds : ∀ {ids actor id amount reason reply after},
    e.handle c ids actor (.refund id amount reason) w = (.ok reply, after) → ∀ store products,
      (∀ p, after.store.score store products p = w.store.score store products p) ∧
      ∀ limit, after.store.coPurchases store products limit =
        w.store.coPurchases store products limit

section Requests

variable {ids : Ids} {actor : Actor} {id reason : String} {reply : Reply} {after : World κ}

theorem soldWith_of_void (k : w.store.Keyed)
    (hreply : e.handle c ids actor (.void id reason) w = (.ok reply, after)) (store : String)
    (products : List String) (p : String) :
    after.store.soldWith store products p = w.store.soldWith store products p \ {id} := by
  have deed := (e.handle_booked c ids actor (r := .void id reason) rfl w).deed_of_ok
    (congrArg Prod.fst hreply)
  rw [hreply] at deed
  generalize after.store = booked at deed ⊢
  cases deed with
  | voided plan fits =>
    rw [Store.soldWith_afterVoid k fits, plan.unit]
    rfl

theorem soldWith_of_refund {amount : Int} (k : w.store.Keyed)
    (hreply : e.handle c ids actor (.refund id amount reason) w = (.ok reply, after)) :
    after.store.Keyed ∧ ∀ store products p,
      after.store.soldWith store products p = w.store.soldWith store products p := by
  have deed := (e.handle_booked c ids actor (r := .refund id amount reason) rfl w).deed_of_ok
    (congrArg Prod.fst hreply)
  rw [hreply] at deed
  refine ⟨k.change deed.change, ?_⟩
  generalize after.store = booked at deed ⊢
  cases deed with
  | refunded elevated shift owned plan unit fits =>
    refine Store.soldWith_afterRefund k fits ?_
    rw [unit]
    exact plan.unvoided

end Requests

/-- Every store in which rows have identifiers of their own ranks products as it should. -/
theorem ranksCompanions_of_keyed (k : w.store.Keyed) : e.RanksCompanions c w where
  ranks store products := by
    have hranking := Store.isRanking_ranking k store products
    refine ⟨_, hranking, fun other hother => Store.isRanking_unique hother hranking, ?_⟩
    intro limit
    exact ⟨rfl, Store.coPurchases_tables k store products limit⟩
  alike hset store limit :=
    Store.coPurchases_congr k k hset (Store.soldWith_congr hset) limit
  starts hle store products := by
    rw [Store.coPurchases_eq, Store.coPurchases_eq]
    exact List.take_prefix_take_left hle
  once f hf store products limit := by
    have hids : (w.store.transactions.map f).map (·.id) = w.store.transactions.map (·.id) := by
      rw [List.map_map]
      exact List.map_congr_left fun t ht => (hf t ht).id
    have kafter : { w.store with transactions := w.store.transactions.map f }.Keyed :=
      ⟨k.shifts, hids ▸ k.transactions, k.orders⟩
    exact Store.coPurchases_congr k kafter (fun _ => Iff.rfl)
      (Store.soldWith_of_countsLike rfl hf store products) limit
  voids {ids actor id reason reply after} hreply store products p := by
    have hsold := soldWith_of_void k hreply store products p
    constructor
    · intro hid
      rw [Store.score, hsold, Store.score]
      exact Set.ncard_sdiff_singleton_add_one hid (w.store.finite_soldWith store products p)
    · intro hid
      rw [Store.score, hsold, Set.sdiff_singleton_eq_self hid, Store.score]
  refunds {ids actor id amount reason reply after} hreply store products := by
    obtain ⟨kafter, hsold⟩ := soldWith_of_refund k hreply
    refine ⟨fun p => ?_, fun limit => ?_⟩
    · rw [Store.score, hsold, Store.score]
    · exact Store.coPurchases_congr k kafter (fun _ => Iff.rfl) (hsold store products) limit

/-- **Products bought together are ranked by the sales that have them**, in every run. -/
theorem run_ranksCompanions (e : Engine) (c : CacheAccess κ) (now : Instant) (cache : κ)
    (steps : List (Step κ)) :
    e.RanksCompanions c (e.run c (World.empty now cache) steps) :=
  ranksCompanions_of_keyed
    (run_induction Store.keyed_empty (fun hchange k => k.change hchange) c now cache steps)

end Engine

end Till
