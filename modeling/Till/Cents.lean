import Till.Fault

/-!
# Amounts in cents

Amounts are whole cents, kept in 64 bits.  They are written as integers here, and what the width
means is said by the operations:

* `Cents.exact` : the number itself if it fits, an overflow otherwise;
* `Cents.checked` : the number itself if it fits, nothing otherwise;
* `Cents.total` : the sum of a list, added up from the left, every partial sum having to fit;
* `Cents.portion` : a share in basis points, rounded to the nearest cent, halves away from zero.

`Cents.portion` is the one operation that neither fails nor refuses: a share of up to
`2 ^ 32` basis points may leave the range, and then the low 64 bits remain.
-/

namespace Till

/-- An amount of money in cents, or a count, kept in 64 bits. -/
abbrev Cents := Int

namespace Cents

/-- The least number that 64 bits hold. -/
def least : Int := -9223372036854775808

/-- The greatest number that 64 bits hold. -/
def greatest : Int := 9223372036854775807

/-- The numbers that 64 bits hold. -/
def Fits (n : Int) : Prop := least ≤ n ∧ n ≤ greatest

instance (n : Int) : Decidable (Fits n) := inferInstanceAs (Decidable (_ ∧ _))

/-- The number if it fits. -/
def checked (n : Int) : Option Int := if Fits n then some n else none

/-- The number if it fits, an overflow otherwise. -/
def exact {ε : Type} (n : Int) : Outcome ε Int := if Fits n then .ok n else .error .overflow

/-- The sum of the amounts, added up from the left. -/
def total {ε : Type} (amounts : List Int) : Outcome ε Int :=
  amounts.foldlM (fun sum n => exact (sum + n)) 0

/-- The low 64 bits of a number, read as a signed number. -/
def wrap (n : Int) : Int := Int.bmod n 18446744073709551616

/-- Basis points in a whole. -/
def wholeBps : Nat := 10000

/-- A quotient rounded to the nearest integer, halves away from zero. -/
def roundedQuotient (n : Int) (d : Nat) : Int :=
  if 0 ≤ n then (n + (d / 2 : Nat)) / d else -((-n + (d / 2 : Nat)) / d)

/-- A share of an amount in basis points, to the nearest cent. -/
def portion (amount : Int) (bps : Nat) : Int :=
  wrap (roundedQuotient (amount * bps) wholeBps)

/-- Two decimal digits. -/
def twoDigits (n : Nat) : String :=
  if n < 10 then "0" ++ toString n else toString n

/-- An amount as money, such as `-$5.50`. -/
def display (n : Int) : String :=
  (if n < 0 then "-" else "") ++ "$" ++ toString (n.natAbs / 100) ++ "." ++
    twoDigits (n.natAbs % 100)

theorem exact_eq_ok {ε : Type} {n m : Int} : (exact n : Outcome ε Int) = .ok m ↔ Fits n ∧ n = m := by
  unfold exact; split <;> simp_all

theorem checked_eq_some {n m : Int} : checked n = some m ↔ Fits n ∧ n = m := by
  unfold checked; split <;> simp_all

theorem exact_of_fits {ε : Type} {n : Int} (h : Fits n) : (exact n : Outcome ε Int) = .ok n := by
  simp [exact, h]

end Cents

/-- The tax rate of a store. -/
structure TaxRate where
  /-- The rate in basis points, below `2 ^ 32`. -/
  bps : Nat
  deriving DecidableEq, Repr

namespace TaxRate

/-- The greatest number that 32 bits hold. -/
def greatestBps : Nat := 4294967295

/-- A rate given in percent, which has to fit 32 bits in basis points. -/
def ofPercent {ε : Type} (percent : Nat) : Outcome ε TaxRate :=
  if percent * 100 ≤ greatestBps then .ok ⟨percent * 100⟩ else .error .overflow

/-- A rate is at most the whole. -/
def isValid (rate : TaxRate) : Bool := decide (rate.bps ≤ Cents.wholeBps)

end TaxRate

end Till
