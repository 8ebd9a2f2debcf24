import Till.Proofs.Portions

/-!
# Shares are rounded to the nearest cent

`Cents.portion` rounds a product that is negative and one that is not in two different ways, and
keeps 64 bits of what it finds.  Here its result is compared with what it is to be nearest, said
without a division: no integer is nearer to the quotient, and of two that are as near it is the one
farther from zero.

* `Cents.IsNearest` : the integer nearest to a quotient;
* `Cents.IsNearest.neg`, `Cents.IsNearest.mono` : being nearest goes along with signs and with the
  order, so there is only one nearest integer (`Cents.IsNearest.unique`);
* `Cents.isNearest_roundedQuotient` : the rounded quotient is the nearest integer;
* `Cents.RoundsShare`, `Cents.roundsShare` : all that holds of the share of an amount.

Once the two ways of rounding are known to give the nearest integer, no proof looks at them again.
-/

namespace Till

namespace Cents

/-! ### The nearest integer -/

/-- How far an integer is from the quotient of `n` and `d`, in parts of `1 / d`. -/
def distance (n : Int) (d : Nat) (m : Int) : Nat := (d * m - n).natAbs

/-- **The integer nearest to a quotient**, of two that are as near the one farther from zero. -/
structure IsNearest (n : Int) (d : Nat) (r : Int) : Prop where
  nearest : ∀ m, distance n d r ≤ distance n d m
  away : ∀ m, distance n d m = distance n d r → m.natAbs ≤ r.natAbs

variable {n m r s : Int} {d : Nat}

theorem distance_neg (n : Int) (d : Nat) (m : Int) : distance (-n) d m = distance n d (-m) := by
  have h : (d : Int) * m - -n = -((d : Int) * -m - n) := by
    rw [Int.mul_neg]
    omega
  rw [distance, h, Int.natAbs_neg, distance]

/-- Different integers are at least a whole apart. -/
theorem mul_add_le_mul (d : Nat) (h : r < s) : (d : Int) * r + d ≤ d * s := by
  have hstep := Int.mul_le_mul_of_nonneg_left (Int.add_one_le_of_lt h) (Int.natCast_nonneg d)
  rwa [Int.mul_add, Int.mul_one] at hstep

theorem IsNearest.neg (h : IsNearest n d r) : IsNearest (-n) d (-r) where
  nearest := by
    intro m
    rw [distance_neg, distance_neg, Int.neg_neg]
    exact h.nearest (-m)
  away := by
    intro m hm
    rw [distance_neg, distance_neg, Int.neg_neg] at hm
    rw [Int.natAbs_neg, ← Int.natAbs_neg m]
    exact h.away (-m) hm

/-- The nearest integer is at most one half away. -/
theorem IsNearest.distance_le (hd : 0 < d) (h : IsNearest n d r) : 2 * distance n d r ≤ d := by
  have hup := h.nearest (r + 1)
  have hdown := h.nearest (r - 1)
  simp only [distance, Int.mul_add, Int.mul_sub, Int.mul_one] at *
  omega

theorem IsNearest.mono (hd : 0 < d) (hr : IsNearest n d r) (hs : IsNearest m d s) (hle : n ≤ m) :
    r ≤ s := by
  refine Int.not_lt.1 ?_
  intro hlt
  have hrHalf := hr.distance_le hd
  have hsHalf := hs.distance_le hd
  -- Each is at most one half away, so both quotients are the one halfway between two neighbours.
  have hapart := mul_add_le_mul d hlt
  have hmul : (d : Int) * r = d * (s + 1) := by
    simp only [distance, Int.mul_add, Int.mul_one] at *
    omega
  obtain rfl : r = s + 1 := Int.eq_of_mul_eq_mul_left (by omega) hmul
  obtain ⟨rfl, hequal⟩ : n = m ∧ distance n d s = distance n d (s + 1) := by
    simp only [distance, Int.mul_add, Int.mul_one] at *
    omega
  -- Both are as near, so both are as far from zero, which neighbours are not.
  have hfar := hr.away s hequal
  have hfar' := hs.away (s + 1) hequal.symm
  omega

/-- There is only one nearest integer. -/
theorem IsNearest.unique (hd : 0 < d) (hr : IsNearest n d r) (hs : IsNearest n d s) : r = s :=
  Int.le_antisymm (hr.mono hd hs (Int.le_refl n)) (hs.mono hd hr (Int.le_refl n))

/-! ### The rounded quotient -/

/-- Of two integers around a quotient that is not negative, the greater one is nearest from the half
on. -/
theorem isNearest_of_nonneg (hn : 0 ≤ n) (hr : 0 ≤ r) (hlow : d * r ≤ n + (d / 2 : Nat))
    (hhigh : n + (d / 2 : Nat) < d * r + d) : IsNearest n d r where
  nearest := by
    intro m
    rcases Int.lt_trichotomy m r with hlt | rfl | hgt
    · have hapart := mul_add_le_mul d hlt
      simp only [distance]
      omega
    · exact Nat.le_refl _
    · have hapart := mul_add_le_mul d hgt
      simp only [distance]
      omega
  away := by
    intro m hm
    simp only [distance] at hm
    rcases Int.lt_or_le r m with hgt | hle
    · -- The next integer is more than a half away.
      have hapart := mul_add_le_mul d hgt
      omega
    · rcases Int.lt_or_le m 0 with hneg | hnonneg
      · -- Below zero all integers are a whole away.
        have hapart := mul_add_le_mul d hneg
        rw [Int.mul_zero] at hapart
        omega
      · omega

theorem roundedQuotient_of_neg (hn : n < 0) : roundedQuotient n d = -roundedQuotient (-n) d := by
  rw [roundedQuotient, if_neg (by omega), roundedQuotient, if_pos (by omega)]

theorem isNearest_roundedQuotient_of_nonneg (hd : 0 < d) (hn : 0 ≤ n) :
    IsNearest n d (roundedQuotient n d) := by
  rw [roundedQuotient, if_pos hn]
  exact isNearest_of_nonneg hn (Int.ediv_nonneg (by omega) (by omega))
    (Int.mul_ediv_self_le (by omega)) (Int.lt_mul_ediv_self_add (by omega))

/-- **The rounded quotient is the nearest integer.** -/
theorem isNearest_roundedQuotient (n : Int) (hd : 0 < d) : IsNearest n d (roundedQuotient n d) := by
  rcases Int.lt_or_le n 0 with hneg | hnonneg
  · have hopposite : IsNearest (-n) d (roundedQuotient (-n) d) :=
      isNearest_roundedQuotient_of_nonneg hd (by omega)
    have h := hopposite.neg
    rwa [Int.neg_neg, ← roundedQuotient_of_neg hneg] at h
  · exact isNearest_roundedQuotient_of_nonneg hd hnonneg

/-! ### Shares -/

variable {amount more : Int} {bps : Nat}

/-- 64 bits hold a share of an amount, rounded to the nearest cent. -/
def ShareFits (amount : Int) (bps : Nat) : Prop :=
  ∃ share, Fits share ∧ IsNearest (amount * bps) wholeBps share

theorem wholeBps_pos : 0 < wholeBps := by decide

theorem shareFits_iff : ShareFits amount bps ↔ Fits (roundedQuotient (amount * bps) wholeBps) := by
  have hnearest := isNearest_roundedQuotient (amount * bps) wholeBps_pos
  constructor
  · rintro ⟨share, hfits, hshare⟩
    rwa [hnearest.unique wholeBps_pos hshare]
  · intro hfits
    exact ⟨_, hfits, hnearest⟩

instance : Decidable (ShareFits amount bps) := decidable_of_iff _ shareFits_iff.symm

/-- **A share is the nearest number of cents** exactly if 64 bits hold that number. -/
theorem isNearest_portion_iff :
    IsNearest (amount * bps) wholeBps (portion amount bps) ↔ ShareFits amount bps := by
  constructor
  · intro h
    exact ⟨_, portion_fits amount bps, h⟩
  · intro h
    rw [portion, wrap_of_fits (shareFits_iff.1 h)]
    exact isNearest_roundedQuotient _ wholeBps_pos

/-- 64 bits do not hold twice the greatest amount. -/
example : ¬ ShareFits greatest 20000 ∧ portion greatest 20000 = -2 := by decide

theorem ShareFits.isNearest (h : ShareFits amount bps) :
    IsNearest (amount * bps) wholeBps (portion amount bps) :=
  isNearest_portion_iff.2 h

theorem ShareFits.halfCent (h : ShareFits amount bps) :
    (10000 * portion amount bps - amount * bps).natAbs ≤ 5000 := by
  have hhalf := h.isNearest.distance_le wholeBps_pos
  simp only [distance, wholeBps] at hhalf
  omega

theorem ShareFits.portion_neg (h : ShareFits amount bps) (hneg : ShareFits (-amount) bps) :
    portion (-amount) bps = -portion amount bps := by
  have hnearest := hneg.isNearest
  rw [Int.neg_mul] at hnearest
  exact hnearest.unique wholeBps_pos h.isNearest.neg

theorem ShareFits.portion_mono (h : ShareFits amount bps) (hmore : ShareFits more bps)
    (hle : amount ≤ more) : portion amount bps ≤ portion more bps :=
  h.isNearest.mono wholeBps_pos hmore.isNearest
    (Int.mul_le_mul_of_nonneg_right hle (Int.natCast_nonneg bps))

/-- 64 bits hold every share that is at most the whole. -/
theorem shareFits_of_le (hfits : Fits amount) (hbps : bps ≤ wholeBps) : ShareFits amount bps := by
  rw [shareFits_iff, ← portion_eq hfits hbps]
  exact portion_fits amount bps

/-- A share and the rest make the whole, up to a cent: each of the two is half a cent off at
most. -/
theorem portion_add_rest (hfits : Fits amount) (hbps : bps ≤ wholeBps) :
    (portion amount bps + portion amount (wholeBps - bps) - amount).natAbs ≤ 1 := by
  have hshare := (shareFits_of_le hfits hbps).halfCent
  have hrest := (shareFits_of_le hfits (Nat.sub_le wholeBps bps)).halfCent
  rw [Int.natCast_sub hbps, Int.mul_sub] at hrest
  have hwhole : amount * (wholeBps : Nat) = 10000 * amount := Int.mul_comm _ _
  omega

/-- **The share of an amount is rounded to the nearest cent.** -/
structure RoundsShare (amount : Int) (bps : Nat) : Prop where
  /-- It is the nearest number of cents, halves away from zero, exactly if 64 bits hold that. -/
  nearest : IsNearest (amount * bps) wholeBps (portion amount bps) ↔ ShareFits amount bps
  /-- Then it is half a cent off at most. -/
  halfCent : ShareFits amount bps → (10000 * portion amount bps - amount * bps).natAbs ≤ 5000
  /-- The opposite amount has the opposite share. -/
  opposite : ShareFits amount bps → ShareFits (-amount) bps →
    portion (-amount) bps = -portion amount bps
  /-- A greater amount has no smaller share. -/
  mono : ∀ {more}, amount ≤ more → ShareFits amount bps → ShareFits more bps →
    portion amount bps ≤ portion more bps
  /-- 64 bits hold a share of at most the whole. -/
  fits : bps ≤ wholeBps → ShareFits amount bps
  /-- It lies between zero and the amount. -/
  between : bps ≤ wholeBps → min amount 0 ≤ portion amount bps ∧ portion amount bps ≤ max amount 0
  /-- With the share of the rest it makes the amount, up to a cent. -/
  rest : bps ≤ wholeBps →
    (portion amount bps + portion amount (wholeBps - bps) - amount).natAbs ≤ 1

/-- **Shares are rounded to the nearest cent**, for every amount that 64 bits hold and whatever the
basis points. -/
theorem roundsShare (hfits : Fits amount) (bps : Nat) : RoundsShare amount bps where
  nearest := isNearest_portion_iff
  halfCent := ShareFits.halfCent
  opposite := ShareFits.portion_neg
  mono := fun hle h hmore => h.portion_mono hmore hle
  fits := shareFits_of_le hfits
  between := portion_bounds hfits
  rest := portion_add_rest hfits

/-- A debt of 10.00 at 8.25 percent: half a cent goes away from zero in the share and in the rest,
which are one cent more than the debt. -/
theorem roundsShare_debt :
    Fits (-1000) ∧ ShareFits (-1000) 825 ∧ RoundsShare (-1000) 825 ∧ portion (-1000) 825 = -83 ∧
      portion 1000 825 = 83 ∧ portion (-1000) 825 + portion (-1000) (wholeBps - 825) = -1001 := by
  have hfits : Fits (-1000) := by decide
  have h := roundsShare hfits 825
  exact ⟨hfits, h.fits (by decide), h, by decide, by decide, by decide⟩

end Cents

end Till
