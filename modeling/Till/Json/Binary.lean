/-!
# Binary numbers

A binary number is `mantissa · 2 ^ exponent` with a mantissa of at most 53 bits and an exponent from
-1074 to 971.  What lies between two of them is rounded to the nearer one, and a tie goes to the one
with the even mantissa.

* `Binary.nearest?` : the binary number nearest to a fraction, nothing beyond the greatest one;
* `Binary.times?` and `Binary.over?` : the product and the quotient with a power of ten, rounded
  once, where the power is itself rounded to a binary number.
-/

namespace Till

/-- A binary number that is not negative. -/
structure Binary where
  /-- The mantissa, below `2 ^ 53`. -/
  mantissa : Nat
  /-- The power of two of its last bit.  Unless it is -1074, the mantissa has 53 bits. -/
  exponent : Int
  deriving DecidableEq, Repr

namespace Binary

/-- The least mantissa of 53 bits. -/
def leastFull : Nat := 4503599627370496

/-- The least exponent. -/
def leastExponent : Int := -1074

/-- The greatest exponent. -/
def greatestExponent : Int := 971

/-- The quotient rounded to a whole number, a tie to the even one. -/
def roundedQuotient (num den : Nat) : Nat :=
  let below := num / den
  let twice := 2 * (num % den)
  if twice < den ∨ (twice = den ∧ below % 2 = 0) then below else below + 1

/-- The fraction `num / den` in units of `2 ^ exponent`, again as a fraction. -/
def inUnits (num den : Nat) (exponent : Int) : Nat × Nat :=
  if 0 ≤ exponent then (num, den * Nat.pow 2 exponent.toNat)
  else (num * Nat.pow 2 (-exponent).toNat, den)

/-- The exponent for which the whole part of the fraction has 53 bits, or the least one. -/
def unitOf (num den : Nat) : Int :=
  let guess : Int := (Nat.log2 num : Int) - Nat.log2 den - 53
  let (n, d) := inUnits num den guess
  let unit := if n / d < 2 * leastFull then guess else guess + 1
  if num = 0 ∨ unit < leastExponent then leastExponent else unit

/-- The binary number nearest to a fraction. -/
def nearest? (num den : Nat) : Option Binary :=
  let unit := unitOf num den
  let (n, d) := inUnits num den unit
  let rounded := roundedQuotient n d
  let x : Binary :=
    if rounded = 2 * leastFull then ⟨leastFull, unit + 1⟩ else ⟨rounded, unit⟩
  if x.exponent ≤ greatestExponent then some x else none

/-- The value of a binary number as a fraction. -/
def fraction (x : Binary) : Nat × Nat :=
  if 0 ≤ x.exponent then (x.mantissa * Nat.pow 2 x.exponent.toNat, 1)
  else (x.mantissa, Nat.pow 2 (-x.exponent).toNat)

/-- A power of ten as a fraction, rounded to a binary number. -/
def powerOfTen (power : Nat) : Nat × Nat :=
  match nearest? (Nat.pow 10 power) 1 with
  | some x => x.fraction
  | none => (Nat.pow 10 power, 1)

/-- A binary number times a power of ten. -/
def times? (x : Binary) (power : Nat) : Option Binary :=
  let (a, b) := x.fraction
  let (c, d) := powerOfTen power
  nearest? (a * c) (b * d)

/-- A binary number over a power of ten. -/
def over? (x : Binary) (power : Nat) : Option Binary :=
  let (a, b) := x.fraction
  let (c, d) := powerOfTen power
  nearest? (a * d) (b * c)

end Binary

end Till
