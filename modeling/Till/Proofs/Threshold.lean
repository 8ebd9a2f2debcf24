import Mathlib.Data.Nat.Find
import Mathlib.Order.Bounds.Defs
import Till.Proofs.Coverage

/-!
# Units are covered from the first one on

Each unit of a transaction is tested for itself when the covered units are counted, and the loop
does not stop at the first unit that is not covered.  Prices are not negative, so the gross price of
the first units grows with their number, and a unit that is covered has only covered units before
it.  How many units are covered is therefore one number, the threshold, and each line has as many
covered units as it has among the first ones.

* `Transaction.threshold` : the number of units that a refunded amount covers;
* `Transaction.coverageFrom_eq` : the loops count, line by line, the units below the threshold;
* `Transaction.CoversInOrder`, `Transaction.coversInOrder` : all that holds of the threshold.
-/

namespace Till

/-- A unit that was sold. -/
structure SoldUnit where
  /-- The place of its line among the lines, from 0. -/
  line : Nat
  /-- Its price in cents. -/
  price : Int
  deriving DecidableEq, Repr

namespace Transaction

/-- The units of lines, in the order of the lines, when the first line has a given place. -/
def unitsFrom : Nat → List LineItem → List SoldUnit
  | _, [] => []
  | place, l :: rest =>
    List.replicate l.quantity.toNat ⟨place, l.unitPrice⟩ ++ unitsFrom (place + 1) rest

/-- The units of a transaction, in the order of its lines. -/
def units (t : Transaction) : List SoldUnit := unitsFrom 0 t.lines

/-- The price of units together. -/
def priceOf (units : List SoldUnit) : Int := (units.map SoldUnit.price).sum

/-- The gross price of the first units. -/
def grossOfFirst (t : Transaction) (n : Nat) : Int := priceOf (t.units.take n)

/-- How many of the first units are on each line. -/
def lineCountsOfFirst (t : Transaction) (n : Nat) : List Int :=
  (List.range t.lines.length).map fun place =>
    ((t.units.take n).countP fun u => u.line == place : Nat)

/-- The gross price of the first units, as a part of the subtotal, is at most the refunded amount as
a part of the total. -/
def Reaches (t : Transaction) (refunded : Int) (n : Nat) : Prop :=
  t.grossOfFirst n * t.grand ≤ refunded * t.subtotal

instance (t : Transaction) (refunded : Int) : DecidablePred (t.Reaches refunded) :=
  fun _ => inferInstanceAs (Decidable (_ ≤ _))

/-- **The threshold**: how many units, from the first one on, a refunded amount covers. -/
def threshold (t : Transaction) (refunded : Int) : Nat :=
  if refunded = 0 then 0 else Nat.findGreatest (t.Reaches refunded) t.units.length

/-- A number fits 128 bits. -/
def FitsProduct (n : Int) : Prop := leastProduct ≤ n ∧ n ≤ greatestProduct

variable {t : Transaction} {lines : List LineItem} {covered : Int → Bool} {gross price : Int}
  {refunded before after : Int} {n m : Nat}

/-! ### The gross price of the first units -/

theorem priceOf_append (us vs : List SoldUnit) : priceOf (us ++ vs) = priceOf us + priceOf vs := by
  simp [priceOf]

theorem priceOf_replicate (n place : Nat) (price : Int) :
    priceOf (List.replicate n ⟨place, price⟩) = price * n := by
  simp [priceOf, Int.mul_comm]

theorem priceOf_unitsFrom (hlines : ∀ l ∈ lines, l.Countable) (place : Nat) :
    priceOf (unitsFrom place lines) = grossOf lines := by
  induction lines generalizing place with
  | nil => rfl
  | cons l lines ih =>
    obtain ⟨hl, hrest⟩ := List.forall_mem_cons.1 hlines
    rw [unitsFrom, priceOf_append, priceOf_replicate, total_eq_toNat hl.quantity, ih hrest]
    simp [grossOf]

theorem price_nonneg_of_mem_unitsFrom (hlines : ∀ l ∈ lines, l.Countable) {place : Nat}
    {u : SoldUnit} (hu : u ∈ unitsFrom place lines) : 0 ≤ u.price := by
  induction lines generalizing place with
  | nil => cases hu
  | cons l lines ih =>
    obtain ⟨hl, hrest⟩ := List.forall_mem_cons.1 hlines
    rcases List.mem_append.1 hu with hu | hu
    · rw [List.eq_of_mem_replicate hu]
      exact hl.price
    · exact ih hrest hu

theorem grossOfFirst_mono (hlines : ∀ l ∈ t.lines, l.Countable) (h : n ≤ m) :
    t.grossOfFirst n ≤ t.grossOfFirst m := by
  have hsub : ((t.units.take n).map SoldUnit.price).Sublist
      ((t.units.take m).map SoldUnit.price) := (List.take_sublist_take_left h).map _
  refine hsub.sum_le_sum ?_
  intro price hprice
  obtain ⟨u, hu, rfl⟩ := List.mem_map.1 hprice
  exact price_nonneg_of_mem_unitsFrom hlines (List.mem_of_mem_take hu)

theorem grossOfFirst_zero (t : Transaction) : t.grossOfFirst 0 = 0 := rfl

theorem grossOfFirst_length (hlines : ∀ l ∈ t.lines, l.Countable) :
    t.grossOfFirst t.units.length = grossOf t.lines := by
  rw [grossOfFirst, List.take_length]
  exact priceOf_unitsFrom hlines 0

/-! ### Counting line by line -/

/-- How many of so many units there are for each line, if the lines are served in their order. -/
def serve : Nat → List LineItem → List Int
  | _, [] => []
  | n, l :: rest => (min l.quantity.toNat n : Nat) :: serve (n - l.quantity.toNat) rest

theorem countP_replicate_line (n place place' : Nat) (price : Int) :
    (List.replicate n (⟨place, price⟩ : SoldUnit)).countP (fun u => u.line == place') =
      if place = place' then n else 0 := by
  simp [List.countP_replicate]

/-- No unit is on a line before the first one. -/
theorem countP_take_unitsFrom_of_lt (n : Nat) {place place' : Nat} (h : place' < place)
    (lines : List LineItem) :
    ((unitsFrom place lines).take n).countP (fun u => u.line == place') = 0 := by
  have hle : ∀ u ∈ unitsFrom place lines, place ≤ u.line := by
    clear h
    induction lines generalizing place with
    | nil => simp [unitsFrom]
    | cons l lines ih =>
      intro u hu
      rcases List.mem_append.1 hu with hu | hu
      · rw [List.eq_of_mem_replicate hu]
      · have := ih u hu
        omega
  refine List.countP_eq_zero.2 ?_
  intro u hu
  have := hle u (List.mem_of_mem_take hu)
  simp only [beq_iff_eq]
  omega

/-- The first units are on the lines as if these were served in their order. -/
theorem map_countP_take_unitsFrom (n place : Nat) (lines : List LineItem) :
    ((List.range lines.length).map fun i =>
        (((unitsFrom place lines).take n).countP (fun u => u.line == place + i) : Int)) =
      serve n lines := by
  induction lines generalizing n place with
  | nil => rfl
  | cons l lines ih =>
    have hcount : ∀ i, ((unitsFrom place (l :: lines)).take n).countP
        (fun u => u.line == place + i) =
        (if i = 0 then min l.quantity.toNat n else 0) +
          ((unitsFrom (place + 1) lines).take (n - l.quantity.toNat)).countP
            (fun u => u.line == place + i) := by
      intro i
      rw [unitsFrom, List.take_append, List.countP_append, List.take_replicate,
        countP_replicate_line, List.length_replicate, Nat.min_comm]
      congr 1
      split <;> split <;> omega
    rw [List.length_cons, List.range_succ_eq_map, List.map_cons, List.map_map, serve,
      ← ih (n - l.quantity.toNat) (place + 1)]
    congr 1
    · rw [hcount, countP_take_unitsFrom_of_lt _ (by omega)]
      simp
    · refine List.map_congr_left ?_
      intro i _
      simp only [Function.comp_apply, hcount, Nat.succ_eq_add_one]
      rw [if_neg (by omega), Nat.zero_add, Nat.add_right_comm, Nat.add_assoc]

/-- If the first so many of some units are covered, as many are counted. -/
theorem coverCount_eq_min {units : Nat}
    (h : ∀ j, 0 < j → j ≤ units → (covered (gross + price * j) = true ↔ j ≤ n)) :
    coverCount covered price units gross = (min units n : Nat) := by
  induction units generalizing gross n with
  | zero => simp [coverCount]
  | succ units ih =>
    have hfirst := h 1 (by omega) (by omega)
    rw [Int.natCast_one, Int.mul_one] at hfirst
    have hrest : coverCount covered price units (gross + price) = (min units (n - 1) : Nat) := by
      refine ih ?_
      intro j hj hle
      have := h (j + 1) (by omega) (by omega)
      rw [price_mul_succ, Int.add_comm (price * j), ← Int.add_assoc] at this
      rw [this]
      omega
    rw [coverCount, hrest]
    by_cases hn : 1 ≤ n
    · rw [if_pos (hfirst.2 hn)]
      omega
    · rw [if_neg (fun hc => hn (hfirst.1 hc))]
      omega

/-- If the first so many units of the lines are covered, the loops count them line by line. -/
theorem coverageFrom_eq (hlines : ∀ l ∈ lines, l.Countable) (place : Nat)
    (h : ∀ j, 0 < j → j ≤ (unitsFrom place lines).length →
      (covered (gross + priceOf ((unitsFrom place lines).take j)) = true ↔ j ≤ n)) :
    coverageFrom covered gross lines = serve n lines := by
  induction lines generalizing gross n place with
  | nil => rfl
  | cons l lines ih =>
    obtain ⟨hl, hrest⟩ := List.forall_mem_cons.1 hlines
    have hlength : (unitsFrom place (l :: lines)).length =
        l.quantity.toNat + (unitsFrom (place + 1) lines).length := by
      simp [unitsFrom]
    have htake : ∀ j, priceOf ((unitsFrom place (l :: lines)).take j) =
        l.unitPrice * (min j l.quantity.toNat : Nat) +
          priceOf ((unitsFrom (place + 1) lines).take (j - l.quantity.toNat)) := by
      intro j
      rw [unitsFrom, List.take_append, priceOf_append, List.take_replicate, priceOf_replicate,
        List.length_replicate]
    rw [coverageFrom, serve]
    congr 1
    · refine coverCount_eq_min ?_
      intro j hj hle
      have := h j hj (by omega)
      rw [htake, Nat.min_eq_left hle, Nat.sub_eq_zero_of_le hle] at this
      simpa [priceOf] using this
    · refine ih hrest (place + 1) ?_
      intro j hj hle
      have := h (l.quantity.toNat + j) (by omega) (by omega)
      rw [htake, Nat.min_eq_right (by omega), total_eq_toNat hl.quantity, Nat.add_sub_cancel_left,
        ← Int.add_assoc] at this
      rw [this]
      omega

/-! ### The threshold -/

/-- What the threshold needs: the units of the lines can be counted, the subtotal is the price of
all of them, and the totals are numbers of cents. -/
structure Countable (t : Transaction) : Prop where
  lines : ∀ l ∈ t.lines, l.Countable
  subtotal : t.subtotal = grossOf t.lines
  grand : 0 ≤ t.grand
  fits : Cents.Fits t.subtotal ∧ Cents.Fits t.grand

theorem Countable.subtotal_nonneg (h : t.Countable) : 0 ≤ t.subtotal :=
  h.subtotal ▸ grossOf_nonneg h.lines

theorem Reaches.of_le (h : t.Countable) (hle : n ≤ m) (hm : t.Reaches refunded m) :
    t.Reaches refunded n :=
  (Int.mul_le_mul_of_nonneg_right (grossOfFirst_mono h.lines hle) h.grand).trans hm

theorem reaches_zero (h : t.Countable) (hrefunded : 0 ≤ refunded) : t.Reaches refunded 0 := by
  rw [Reaches, grossOfFirst_zero, Int.zero_mul]
  exact Int.mul_nonneg hrefunded h.subtotal_nonneg

theorem reaches_threshold (h : t.Countable) (hrefunded : 0 ≤ refunded) :
    t.Reaches refunded (t.threshold refunded) := by
  rw [threshold]
  split
  · exact reaches_zero h hrefunded
  · exact Nat.findGreatest_spec (Nat.zero_le _) (reaches_zero h hrefunded)

theorem threshold_le (t : Transaction) (refunded : Int) :
    t.threshold refunded ≤ t.units.length := by
  rw [threshold]
  split
  · exact Nat.zero_le _
  · exact Nat.findGreatest_le _

/-- **A unit is within reach** exactly if it is below the threshold. -/
theorem reaches_iff (h : t.Countable) (hrefunded : 0 < refunded) (hn : n ≤ t.units.length) :
    t.Reaches refunded n ↔ n ≤ t.threshold refunded := by
  constructor
  · intro hreaches
    rw [threshold, if_neg (by omega)]
    exact Nat.le_findGreatest hn hreaches
  · intro hle
    exact (reaches_threshold h hrefunded.le).of_le h hle

theorem isGreatest_threshold (h : t.Countable) (hrefunded : 0 < refunded) :
    IsGreatest {n | n ≤ t.units.length ∧ t.Reaches refunded n} (t.threshold refunded) := by
  refine ⟨⟨t.threshold_le refunded, reaches_threshold h hrefunded.le⟩, ?_⟩
  rintro n ⟨hn, hreaches⟩
  exact (reaches_iff h hrefunded hn).1 hreaches

theorem threshold_mono (h : t.Countable) (hbefore : 0 ≤ before) (hle : before ≤ after) :
    t.threshold before ≤ t.threshold after := by
  rcases Int.le_iff_eq_or_lt.1 hbefore with hzero | hpos
  · rw [threshold, if_pos hzero.symm]
    exact Nat.zero_le _
  · refine (reaches_iff h (hpos.trans_le hle) (t.threshold_le before)).1 ?_
    exact (reaches_threshold h hbefore).trans
      (Int.mul_le_mul_of_nonneg_right hle h.subtotal_nonneg)

theorem threshold_full (h : t.Countable) (hgrand : 0 < t.grand) :
    t.threshold t.grand = t.units.length := by
  refine Nat.le_antisymm (t.threshold_le t.grand) ((reaches_iff h hgrand (Nat.le_refl _)).1 ?_)
  rw [Reaches, grossOfFirst_length h.lines, h.subtotal, Int.mul_comm]

/-- A unit is covered exactly if it is below the threshold. -/
theorem covers_iff (h : t.Countable) (hrefunded : 0 ≤ refunded) (hpos : 0 < n)
    (hn : n ≤ t.units.length) :
    t.covers refunded (t.grossOfFirst n) = true ↔ n ≤ t.threshold refunded := by
  rcases Int.le_iff_eq_or_lt.1 hrefunded with hzero | hrefunded
  · subst hzero
    have hnone : t.threshold 0 = 0 := rfl
    simp [covers, hnone]
    omega
  · rw [← reaches_iff h hrefunded hn]
    simp [covers, hrefunded, Reaches]

theorem grossOfFirst_le (h : t.Countable) (n : Nat) :
    0 ≤ t.grossOfFirst n ∧ t.grossOfFirst n ≤ t.subtotal := by
  have hlow := grossOfFirst_mono h.lines (Nat.zero_le n)
  rw [grossOfFirst_zero] at hlow
  refine ⟨hlow, ?_⟩
  rw [h.subtotal, ← grossOfFirst_length h.lines]
  rcases Nat.le_total n t.units.length with hle | hle
  · exact grossOfFirst_mono h.lines hle
  · rw [grossOfFirst, List.take_of_length_le hle, grossOfFirst, List.take_length]

/-- Two amounts of cents have a product of 128 bits. -/
theorem fitsProduct_mul {a b : Int} (ha : 0 ≤ a) (ha' : a ≤ Cents.greatest) (hb : 0 ≤ b)
    (hb' : b ≤ Cents.greatest) : FitsProduct (a * b) :=
  ⟨Int.le_trans (by decide) (Int.mul_nonneg ha hb),
    (Int.mul_le_mul ha' hb' hb (by decide)).trans (by decide)⟩

/-! ### The covered units -/

theorem Countable.grandFits (h : t.Countable) : t.GrandFits := ⟨h.grand, h.fits.2.2⟩

/-- The loops count, line by line, the units below the threshold. -/
theorem coveredUnits_eq_ok (h : t.Countable) (hrefunded : 0 ≤ refunded) :
    t.coveredUnits refunded = .ok (t.lineCountsOfFirst (t.threshold refunded)) := by
  have hfits : 0 + grossOf t.lines ≤ Cents.greatest := by
    rw [Int.zero_add, ← h.subtotal]
    exact h.fits.1.2
  have hcoverage : t.coverage refunded = serve (t.threshold refunded) t.lines := by
    refine coverageFrom_eq h.lines 0 ?_
    intro j hj hle
    rw [Int.zero_add]
    exact covers_iff h hrefunded hj hle
  have hserve := map_countP_take_unitsFrom (t.threshold refunded) 0 t.lines
  simp only [Nat.zero_add] at hserve
  rw [coveredUnits, coveredFrom_eq h.grandFits refunded h.lines (Int.le_refl 0) hfits]
  exact congrArg Except.ok (hcoverage.trans hserve.symm)

/-- The test of a unit tells whether it is below the threshold. -/
theorem isCovered_eq_ok (h : t.Countable) (hrefunded : 0 ≤ refunded) (hpos : 0 < n)
    (hn : n ≤ t.units.length) :
    t.isCovered refunded (t.grossOfFirst n) = .ok (decide (n ≤ t.threshold refunded)) := by
  obtain ⟨hlow, hhigh⟩ := grossOfFirst_le h n
  rw [isCovered_eq h.grandFits refunded ⟨hlow, hhigh.trans h.fits.1.2⟩]
  congr 1
  rw [Bool.eq_iff_iff, decide_eq_true_eq]
  exact covers_iff h hrefunded hpos hn

/-- What the test compares are products of 128 bits. -/
theorem fitsProduct_compared (h : t.Countable) (hrefunded : 0 ≤ refunded)
    (hle : refunded ≤ t.grand) :
    FitsProduct (refunded * t.subtotal) ∧ ∀ n, FitsProduct (t.grossOfFirst n * t.grand) := by
  refine ⟨fitsProduct_mul hrefunded (hle.trans h.fits.2.2) h.subtotal_nonneg h.fits.1.2, ?_⟩
  intro n
  obtain ⟨hlow, hhigh⟩ := grossOfFirst_le h n
  exact fitsProduct_mul hlow (hhigh.trans h.fits.1.2) h.grand h.fits.2.2

/-- **Units are covered from the first one on.** -/
structure CoversInOrder (t : Transaction) : Prop where
  /-- Nothing is covered while nothing is refunded. -/
  none : t.threshold 0 = 0
  /-- Otherwise the threshold is the greatest number of units within reach. -/
  greatest : ∀ {refunded}, 0 < refunded → refunded ≤ t.grand →
    IsGreatest {n | n ≤ t.units.length ∧ t.grossOfFirst n * t.grand ≤ refunded * t.subtotal}
      (t.threshold refunded)
  /-- Each line has as many covered units as it has below the threshold. -/
  counts : ∀ {refunded}, 0 ≤ refunded → refunded ≤ t.grand →
    t.coveredUnits refunded = .ok (t.lineCountsOfFirst (t.threshold refunded))
  /-- The units that pass the test are those below the threshold. -/
  inOrder : ∀ {refunded n}, 0 ≤ refunded → refunded ≤ t.grand → 0 < n → n ≤ t.units.length →
    t.isCovered refunded (t.grossOfFirst n) = .ok (decide (n ≤ t.threshold refunded))
  /-- More refunded, no fewer units covered. -/
  mono : ∀ {before after}, 0 ≤ before → before ≤ after → after ≤ t.grand →
    t.threshold before ≤ t.threshold after
  /-- All units are covered once the whole total was paid back. -/
  full : 0 < t.grand → t.threshold t.grand = t.units.length
  /-- The covered units are worth at most the refunded part of the subtotal. -/
  share : ∀ {refunded}, 0 ≤ refunded → refunded ≤ t.grand →
    t.grossOfFirst (t.threshold refunded) * t.grand ≤ refunded * t.subtotal
  /-- The products that are compared fit. -/
  products : ∀ {refunded}, 0 ≤ refunded → refunded ≤ t.grand →
    FitsProduct (refunded * t.subtotal) ∧ ∀ n, FitsProduct (t.grossOfFirst n * t.grand)

/-- **Units are covered from the first one on**, whatever the prices and totals of a transaction. -/
theorem coversInOrder (h : t.Countable) : t.CoversInOrder where
  none := rfl
  greatest := fun hrefunded _ => isGreatest_threshold h hrefunded
  counts := fun hrefunded _ => coveredUnits_eq_ok h hrefunded
  inOrder := fun hrefunded _ hpos hn => isCovered_eq_ok h hrefunded hpos hn
  mono := fun hbefore hle _ => threshold_mono h hbefore hle
  full := threshold_full h
  share := fun hrefunded _ => reaches_threshold h hrefunded
  products := fitsProduct_compared h

/-- Two units, one that costs nothing and three more, sold for more than their subtotal: when 300 of
400 cents were paid back, the first four units are covered. -/
theorem coversInOrder_withTax :
    let cart : Cart :=
      ⟨[⟨"tea", 2, 100, 0⟩, ⟨"bag", 1, 0, 0⟩, ⟨"cup", 3, 50, 0⟩], .none, .cash, none⟩
    let c : SaleContext :=
      ⟨"sale", ⟨"cashier", .cashier, "store", none⟩, "shift", "key", ⟨1428⟩, ⟨0⟩⟩
    let t := sold cart c {} ⟨350, 0, 50, 400⟩
    t.Countable ∧ t.CoversInOrder ∧ t.coveredUnits 300 = .ok [2, 1, 1] := by
  intro cart c t
  have hlines : ∀ l ∈ t.lines, 0 < l.quantity ∧ 0 ≤ l.unitPrice := by decide
  have h : t.Countable :=
    ⟨fun l hl => ⟨(hlines l hl).1, (hlines l hl).2⟩, by decide, by decide, by decide⟩
  have hcovers := coversInOrder h
  have hthreshold : t.threshold 300 = 4 := by decide
  refine ⟨h, hcovers, ?_⟩
  rw [hcovers.counts (by decide) (by decide), hthreshold]
  rfl

end Transaction

end Till
