import Till.Cents

/-!
# Shares in basis points

`Cents.portion` computes a share with more than 64 bits, rounds it, and keeps the low 64 bits of the
result.  As long as a share is at most the whole, nothing is lost that way:

* `Cents.roundedQuotient_bounds` : a share of an amount lies between the amount and zero;
* `Cents.portion_eq` : so it fits, and keeping 64 bits of it changes nothing;
* `Cents.portion_bounds` : what is kept lies between the amount and zero, too;
* `Cents.portion_of_nonneg` : of an amount that is not negative it is the half-up share.
-/

namespace Till

namespace Cents

variable {amount : Int} {bps : Nat}

/-- A share of an amount that is not negative, halves rounded up. -/
def halfUp (amount : Int) (bps : Nat) : Int := (amount * bps + 5000) / 10000

theorem roundedQuotient_of_nonneg (h : 0 ≤ amount) :
    roundedQuotient (amount * bps) wholeBps = halfUp amount bps := by
  have hproduct : 0 ≤ amount * (bps : Int) := Int.mul_nonneg h (Int.natCast_nonneg bps)
  rw [roundedQuotient, if_pos hproduct]
  rfl

/-- A share that is not yet brought into 64 bits lies between its amount and zero. -/
theorem roundedQuotient_bounds (amount : Int) (h : bps ≤ wholeBps) :
    min amount 0 ≤ roundedQuotient (amount * bps) wholeBps ∧
      roundedQuotient (amount * bps) wholeBps ≤ max amount 0 := by
  have hbps : (bps : Int) ≤ 10000 := Int.ofNat_le.2 h
  have hnonneg : (0 : Int) ≤ bps := Int.natCast_nonneg bps
  rcases Int.le_total 0 amount with hamount | hamount
  · have hlow : 0 ≤ amount * (bps : Int) := Int.mul_nonneg hamount hnonneg
    have hhigh : amount * (bps : Int) ≤ amount * 10000 :=
      Int.mul_le_mul_of_nonneg_left hbps hamount
    rw [roundedQuotient_of_nonneg hamount, halfUp]
    omega
  · have hlow : amount * 10000 ≤ amount * (bps : Int) :=
      Int.mul_le_mul_of_nonpos_left hamount hbps
    have hhigh : amount * (bps : Int) ≤ 0 := Int.mul_nonpos_of_nonpos_of_nonneg hamount hnonneg
    unfold roundedQuotient
    simp only [wholeBps]
    split <;> omega

theorem fits_wrap (n : Int) : Fits (wrap n) := by
  have hlow : -9223372036854775808 ≤ wrap n := Int.le_bmod (by decide)
  have hhigh : wrap n < 9223372036854775808 := Int.bmod_lt (by decide)
  exact ⟨hlow, Int.le_of_lt_add_one hhigh⟩

theorem wrap_of_fits {n : Int} (h : Fits n) : wrap n = n := by
  simp only [Fits, least, greatest] at h
  refine Int.bmod_eq_of_le ?_ ?_
  all_goals omega

theorem portion_eq (hfits : Fits amount) (h : bps ≤ wholeBps) :
    portion amount bps = roundedQuotient (amount * bps) wholeBps := by
  obtain ⟨hlow, hhigh⟩ := roundedQuotient_bounds amount h
  rw [portion, wrap_of_fits]
  simp only [Fits, least, greatest] at hfits ⊢
  omega

theorem portion_fits (amount : Int) (bps : Nat) : Fits (portion amount bps) := fits_wrap _

/-- **A share lies between its amount and zero.** -/
theorem portion_bounds (hfits : Fits amount) (h : bps ≤ wholeBps) :
    min amount 0 ≤ portion amount bps ∧ portion amount bps ≤ max amount 0 := by
  rw [portion_eq hfits h]
  exact roundedQuotient_bounds amount h

theorem portion_of_nonneg (hnonneg : 0 ≤ amount) (hfits : amount ≤ greatest)
    (h : bps ≤ wholeBps) : portion amount bps = halfUp amount bps := by
  have hleast : least ≤ amount := Int.le_trans (by decide) hnonneg
  rw [portion_eq ⟨hleast, hfits⟩ h, roundedQuotient_of_nonneg hnonneg]

end Cents

end Till
