import Till.Advisor
import Till.Proofs.Prices
import Till.Proofs.TextOrder

/-!
# What a cache key tells about a request

A cache key joins a store and the sorted products of a request with separators.  The products are in
one order and each occurs once, so the key depends on their set only; and it tells the store and the
set as long as the separators occur in neither.

* `Text.sortedDistinct_eq_iff` : sorted texts tell the set of texts;
* `Advisor.cacheKey_eq_iff` : the key of a plain request tells its store and its set of products.

A request with a separator in it (`Advisor.cacheKey_colon`) may have the key of another one.
-/

namespace Till

/-! ### Sorted texts -/

namespace Text

variable {texts texts' : List String}

/-- Each text is greater than those before it, if repetitions are next to each other. -/
theorem pairwise_eraseRepsBy_loop {a : String} {acc : List String}
    (hsorted : (a :: texts).Pairwise (· ≤ ·)) (hacc : (a :: acc).Pairwise (· > ·)) :
    (List.eraseRepsBy.loop (· == ·) a texts acc).Pairwise (· < ·) := by
  induction texts generalizing a acc with
  | nil =>
    rw [List.eraseRepsBy.loop, List.pairwise_reverse]
    exact hacc
  | cons b texts ih =>
    obtain ⟨hle, hrest⟩ := List.pairwise_cons.1 hsorted
    have hab : a ≤ b := hle b List.mem_cons_self
    unfold List.eraseRepsBy.loop
    split
    · next heq =>
      obtain rfl : a = b := by simpa using heq
      exact ih hrest hacc
    · next heq =>
      have hlt : a < b := lt_of_le_of_ne hab (by simpa using heq)
      refine ih hrest (List.pairwise_cons.2 ⟨?_, hacc⟩)
      intro x hx
      rcases List.mem_cons.1 hx with rfl | hx
      · exact hlt
      · exact ((List.pairwise_cons.1 hacc).1 x hx).trans hlt

theorem pairwise_sortedDistinct (texts : List String) :
    (sortedDistinct texts).Pairwise (· < ·) := by
  have hle : ∀ s t : String, (!before t s) = true ↔ id s ≤ id t := fun _ _ => not_before_iff
  have hsorted : (texts.mergeSort fun s t => !before t s).Pairwise (· ≤ ·) :=
    Rows.pairwise_le_mergeSort hle texts
  rw [sortedDistinct]
  cases h : texts.mergeSort fun s t => !before t s with
  | nil => exact List.Pairwise.nil
  | cons a rest => exact pairwise_eraseRepsBy_loop (h ▸ hsorted) (List.pairwise_singleton _ a)

/-- The different texts of a list, in order. -/
structure InOrder (texts ids : List String) : Prop where
  sorted : ids.Pairwise (· < ·)
  mem : ∀ s, s ∈ ids ↔ s ∈ texts

theorem inOrder_sortedDistinct (texts : List String) : InOrder texts (sortedDistinct texts) :=
  ⟨pairwise_sortedDistinct texts, fun _ => mem_sortedDistinct⟩

/-- There is one list of the different texts in order. -/
theorem inOrder_iff {ids : List String} : InOrder texts ids ↔ sortedDistinct texts = ids := by
  constructor
  · intro h
    refine Rows.eq_of_mem_iff (pairwise_sortedDistinct texts) h.sorted fun s => ?_
    rw [mem_sortedDistinct, h.mem]
  · rintro rfl
    exact inOrder_sortedDistinct texts

/-- **Sorted texts tell the set of texts.** -/
theorem sortedDistinct_eq_iff :
    sortedDistinct texts = sortedDistinct texts' ↔ ∀ s, s ∈ texts ↔ s ∈ texts' := by
  constructor
  · intro h s
    rw [← mem_sortedDistinct, h, mem_sortedDistinct]
  · intro h
    refine inOrder_iff.1 ⟨pairwise_sortedDistinct texts', fun s => ?_⟩
    rw [mem_sortedDistinct, h]

/-! ### Joined texts -/

/-- A text that ends at the first of its marks. -/
theorem append_cons_inj {mark : Char} {as bs as' bs' : List Char} (h : mark ∉ as) (h' : mark ∉ as')
    (heq : as ++ mark :: bs = as' ++ mark :: bs') : as = as' ∧ bs = bs' := by
  have hbefore : ∀ {cs ds : List Char}, mark ∉ cs →
      (cs ++ mark :: ds).takeWhile (· != mark) = cs := by
    intro cs ds hcs
    rw [List.takeWhile_append_of_pos, List.takeWhile_cons_of_neg (by simp), List.append_nil]
    intro c hc
    simpa using ne_of_mem_of_not_mem hc hcs
  have has : as = as' := by rw [← hbefore h, heq, hbefore h']
  obtain rfl := has
  exact ⟨rfl, (List.cons.inj (List.append_cancel_left heq)).2⟩

variable {sep : String} {mark : Char}

/-- The characters of joined texts, none of which is empty. -/
theorem toList_intercalate_eq_nil (sep : String) (hne : ∀ s ∈ texts, s ≠ "") :
    (sep.intercalate texts).toList = [] ↔ texts = [] := by
  rw [String.toList_intercalate]
  constructor
  · intro h
    cases texts with
    | nil => rfl
    | cons s rest =>
      have hs := hne s List.mem_cons_self
      cases rest <;> simp [List.intercalate, hs] at h
  · rintro rfl
    rfl

/-- **Joined texts are told from each other** if none is empty and the mark between them is in none
of them. -/
theorem intercalate_inj (hsep : sep.toList = [mark]) (h : ∀ s ∈ texts, mark ∉ s.toList)
    (hne : ∀ s ∈ texts, s ≠ "") (h' : ∀ s ∈ texts', mark ∉ s.toList) (hne' : ∀ s ∈ texts', s ≠ "")
    (heq : sep.intercalate texts = sep.intercalate texts') : texts = texts' := by
  -- Splitting at the marks gives the texts back, unless there is no text at all.
  have hsplit : ∀ {ts : List String}, (∀ s ∈ ts, mark ∉ s.toList) → ts ≠ [] →
      (sep.intercalate ts).toList.splitOn mark = ts.map String.toList := by
    intro ts hts hnil
    rw [String.toList_intercalate, hsep, List.splitOn_intercalate]
    · simpa using hts
    · simpa using hnil
  by_cases hnil : texts = []
  · have hnil' := (toList_intercalate_eq_nil sep hne).2 hnil
    rw [heq, toList_intercalate_eq_nil sep hne'] at hnil'
    rw [hnil, hnil']
  · have hnil' : texts' ≠ [] := by
      rw [ne_eq, ← toList_intercalate_eq_nil sep hne', ← heq,
        toList_intercalate_eq_nil sep hne]
      exact hnil
    have hmap : texts.map String.toList = texts'.map String.toList := by
      rw [← hsplit h hnil, heq, hsplit h' hnil']
    exact List.map_injective_iff.2 (fun _ _ => String.toList_inj.1) hmap

end Text

/-! ### Keys -/

theorem Field.identifier_eq_ok {field s : String} {u : Unit} :
    Field.identifier field s = .ok u ↔ Text.isBlankText s = false ∧ s.utf8ByteSize ≤ 64 := by
  unfold Field.identifier Field.notBlank Field.notLonger
  cases Text.isBlankText s <;> simp [Bind.bind, Except.bind]

namespace Advisor

variable {store store' : String} {products products' : List String}

/-- A request that is well-formed. -/
def Accepted (store : String) (products : List String) : Prop :=
  checkRequest store products = .ok ()

/-- **A plain request**: it is well-formed, and the marks that a key is made with are not in it. -/
structure Plain (store : String) (products : List String) : Prop where
  accepted : Accepted store products
  store_plain : ':' ∉ store.toList
  products_plain : ∀ p ∈ products, ',' ∉ p.toList

theorem accepted_iff :
    Accepted store products ↔
      (Text.isBlankText store = false ∧ store.utf8ByteSize ≤ 64) ∧
        ∀ p ∈ products, Text.isBlankText p = false ∧ p.utf8ByteSize ≤ 64 := by
  simp only [Accepted, checkRequest, Outcome.bind_eq_ok, Field.each_eq_ok, Field.identifier_eq_ok]
  simp

theorem Accepted.ne_empty (h : Accepted store products) : ∀ p ∈ products, p ≠ "" := by
  rintro p hp rfl
  have hblank := ((accepted_iff.1 h).2 "" hp).1
  exact absurd hblank (by decide)

/-- **The key depends on the set of products only.** -/
theorem cacheKey_congr (store : String) (h : ∀ p, p ∈ products ↔ p ∈ products') :
    cacheKey store products = cacheKey store products' := by
  rw [cacheKey, cacheKey, Text.sortedDistinct_eq_iff.2 h]

/-- **A key tells the request**: two plain requests have one key exactly if they are for one store
and one set of products. -/
theorem cacheKey_eq_iff (h : Plain store products) (h' : Plain store' products') :
    cacheKey store products = cacheKey store' products' ↔
      store = store' ∧ ∀ p, p ∈ products ↔ p ∈ products' := by
  constructor
  · intro heq
    have hchars : store.toList ++ ':' :: (",".intercalate (Text.sortedDistinct products)).toList =
        store'.toList ++ ':' :: (",".intercalate (Text.sortedDistinct products')).toList := by
      simpa [cacheKey] using congrArg String.toList heq
    obtain ⟨hstore, hjoined⟩ := Text.append_cons_inj h.store_plain h'.store_plain hchars
    refine ⟨String.toList_inj.1 hstore, Text.sortedDistinct_eq_iff.1 ?_⟩
    have hcomma : ",".toList = [','] := rfl
    refine Text.intercalate_inj hcomma ?_ ?_ ?_ ?_ (String.toList_inj.1 hjoined)
    · simpa using h.products_plain
    · simpa using h.accepted.ne_empty
    · simpa using h'.products_plain
    · simpa using h'.accepted.ne_empty
  · rintro ⟨rfl, hproducts⟩
    exact cacheKey_congr store hproducts

/-- A separator in a store stands for the one behind it: well-formed requests of two stores have
one key. -/
theorem cacheKey_colon :
    Accepted "a" ["b:c"] ∧ Accepted "a:b" ["c"] ∧
      cacheKey "a" ["b:c"] = cacheKey "a:b" ["c"] := by
  refine ⟨accepted_iff.2 (by decide), accepted_iff.2 (by decide), ?_⟩
  simp [cacheKey, Text.sortedDistinct]
  decide

end Advisor

end Till
