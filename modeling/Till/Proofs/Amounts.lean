import Mathlib.Algebra.Order.BigOperators.Group.List
import Mathlib.Algebra.Order.Ring.Int
import Mathlib.Algebra.Order.Ring.Nat
import Till.Proofs.Outcome
import Till.Store.Stock

/-!
# Sums of changes

The stock of a product is a sum of changes, and it is added up in two ways: from the left, where
every partial sum has to fit, and by the store, which adds up what left first.

* `Cents.total_eq_ok`, `Store.sumOfChanges_eq_ok` : what is added up, when it fits, is the sum;
* `Cents.total_of_fits`, `Store.sumOfChanges_of_fits` : it fits when no part of the changes is too
  large;
* `Amounts.NeverNegative` : no beginning of the changes has a sum below zero.
-/

namespace Till

/-! ### Adding up -/

namespace Cents

variable {ε : Type} {amounts : List Int} {n : Int}

theorem foldlM_exact_eq_ok {a : Int}
    (h : amounts.foldlM (fun sum n => exact (sum + n)) a = (.ok n : Outcome ε Int)) :
    n = a + amounts.sum := by
  induction amounts generalizing a with
  | nil =>
    obtain rfl := Outcome.pure_eq_ok.1 h
    simp
  | cons b amounts ih =>
    simp only [List.foldlM_cons, Outcome.bind_eq_ok, exact_eq_ok] at h
    obtain ⟨_, ⟨-, rfl⟩, hrest⟩ := h
    rw [ih hrest, List.sum_cons]
    omega

theorem total_eq_ok (h : (total amounts : Outcome ε Int) = .ok n) : n = amounts.sum := by
  rw [foldlM_exact_eq_ok h]
  omega

theorem foldlM_exact_of_fits {a : Int}
    (h : ∀ front, front <+: amounts → Fits (a + front.sum)) :
    amounts.foldlM (fun sum n => exact (sum + n)) a = (.ok (a + amounts.sum) : Outcome ε Int) := by
  induction amounts generalizing a with
  | nil => simp [pure, Except.pure]
  | cons b amounts ih =>
    have hb : Fits (a + b) := by simpa using h [b] ⟨amounts, rfl⟩
    -- A beginning of the rest is a beginning of the whole without its first amount.
    have hfits : ∀ front, front <+: amounts → Fits (a + b + front.sum) := by
      intro front hfront
      have hwhole := h (b :: front) (List.cons_prefix_cons.2 ⟨rfl, hfront⟩)
      rwa [List.sum_cons, ← Int.add_assoc] at hwhole
    have hrest := ih hfits
    rw [List.foldlM_cons, exact_of_fits hb]
    simp only [bind, Except.bind]
    rw [hrest, List.sum_cons, Int.add_assoc]

/-- Amounts can be added up if the sums of their beginnings fit. -/
theorem total_of_fits (h : ∀ front, front <+: amounts → Fits front.sum) :
    (total amounts : Outcome ε Int) = .ok amounts.sum := by
  have hfits : ∀ front, front <+: amounts → Fits (0 + front.sum) := by
    intro front hfront
    rw [Int.zero_add]
    exact h front hfront
  have hsum := foldlM_exact_of_fits (ε := ε) hfits
  rw [total, hsum, Int.zero_add]

end Cents

namespace Store

variable {deltas : List Int} {n : Int}

theorem sumOfChanges_eq_ok (h : sumOfChanges deltas = .ok n) : n = deltas.sum := by
  rw [sumOfChanges] at h
  split at h
  · exact (Except.ok.inj h).symm
  · cases h

theorem sumOfChanges_of_fits (hleaving : Cents.Fits (deltas.filter fun d => decide (d < 0)).sum)
    (hall : Cents.Fits deltas.sum) : sumOfChanges deltas = .ok deltas.sum :=
  if_pos ⟨hleaving.1, hall.2⟩

end Store

namespace Amounts

/-! ### Bounds -/

/-- The sum of the sizes of all changes. -/
def turnover (deltas : List Int) : Nat := (deltas.map Int.natAbs).sum

/-- The sum of a part of the changes is no larger than all their sizes together. -/
theorem natAbs_sum_le_of_sublist {part deltas : List Int} (h : List.Sublist part deltas) :
    part.sum.natAbs ≤ turnover deltas :=
  (List.le_sum_of_subadditive Int.natAbs (by decide) Int.natAbs_add_le part).trans
    ((h.map Int.natAbs).sum_le_sum fun _ _ => Nat.zero_le _)

theorem fits_of_sublist {part deltas : List Int} (h : List.Sublist part deltas)
    (hfits : (turnover deltas : Int) ≤ Cents.greatest) : Cents.Fits part.sum := by
  have := natAbs_sum_le_of_sublist h
  simp only [Cents.Fits, Cents.least, Cents.greatest] at *
  omega

/-! ### Beginnings -/

/-- **No beginning of the changes has a sum below zero.** -/
def NeverNegative (deltas : List Int) : Prop := ∀ front, front <+: deltas → 0 ≤ front.sum

variable {deltas more : List Int}

theorem neverNegative_nil : NeverNegative [] := by
  intro front h
  rw [List.prefix_nil.1 h]
  exact Int.le_refl 0

theorem prefix_append_cases {front : List Int} (h : front <+: deltas ++ more) :
    front <+: deltas ∨ ∃ begun left, front = deltas ++ begun ∧ more = begun ++ left := by
  rcases List.prefix_or_prefix_of_prefix h (List.prefix_append deltas more) with hin | hout
  · exact .inl hin
  · obtain ⟨begun, rfl⟩ := hout
    obtain ⟨left, hleft⟩ := (List.prefix_append_right_inj deltas).1 h
    exact .inr ⟨begun, left, rfl, hleft.symm⟩

theorem NeverNegative.append_of_nonneg (h : NeverNegative deltas) (hmore : ∀ d ∈ more, 0 ≤ d) :
    NeverNegative (deltas ++ more) := by
  intro front hfront
  rcases prefix_append_cases hfront with hin | ⟨begun, left, rfl, rfl⟩
  · exact h front hin
  · have hold := h deltas (List.prefix_refl deltas)
    have hnew : 0 ≤ begun.sum := by
      refine List.sum_nonneg ?_
      intro d hd
      exact hmore d (List.mem_append_left _ hd)
    rw [List.sum_append]
    omega

/-- What leaves leaves nothing below zero if something not below zero is left at the end. -/
theorem NeverNegative.append_of_nonpos (h : NeverNegative deltas) (hmore : ∀ d ∈ more, d ≤ 0)
    (hend : 0 ≤ deltas.sum + more.sum) : NeverNegative (deltas ++ more) := by
  intro front hfront
  rcases prefix_append_cases hfront with hin | ⟨begun, left, rfl, rfl⟩
  · exact h front hin
  · -- What has still to leave only lowers the sum, and at the end it is not below zero.
    have hleft : left.sum ≤ left.length • 0 := by
      refine List.sum_le_card_nsmul left 0 ?_
      intro d hd
      exact hmore d (List.mem_append_right _ hd)
    rw [nsmul_zero] at hleft
    rw [List.sum_append] at hend ⊢
    omega

end Amounts

end Till
