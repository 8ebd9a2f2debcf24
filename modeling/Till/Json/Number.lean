import Till.Json.Basic
import Till.Json.Real

/-!
# Reading numbers

A number is an integer when it is written with digits only, is not `-0` and fits 64 bits, signed
or not.  Every other number is a real one.  Its significand takes as many of its digits as 64 bits
hold; those of the whole part that are left only count as places, and those of the fraction that
are left are passed over.

* `Json.readNumber` : reads a number.  What has the form of a number and is too large is read as no
  value.
-/

namespace Till

namespace Json

/-- The number that digits stand for. -/
def ofDigits (digits : List Char) : Nat :=
  digits.foldl (fun n c => n * 10 + (c.toNat - '0'.toNat)) 0

/-- The digits at the front. -/
def digitsOf (cs : List Char) : List Char := cs.takeWhile Char.isDigit

/-- The rest after the digits at the front. -/
def afterDigits (cs : List Char) : List Char := cs.dropWhile Char.isDigit

/-- Takes digits onto a significand as long as 64 bits hold it, and gives those that are left. -/
def takeDigits (significand : Nat) : List Char → Nat × List Char
  | [] => (significand, [])
  | c :: rest =>
    let next := significand * 10 + (c.toNat - '0'.toNat)
    if next ≤ greatest64 then takeDigits next rest else (significand, c :: rest)

/-- Reads the digits of a fraction after a point, if there is one. -/
def readFraction : List Char → Option (List Char × List Char)
  | '.' :: cs => if (digitsOf cs).isEmpty then none else some (digitsOf cs, afterDigits cs)
  | cs => some ([], cs)

/-- Reads an exponent, if there is one. -/
def readExponent (cs : List Char) : Option (Option Int × List Char) :=
  match cs with
  | c :: rest =>
    if c = 'e' ∨ c = 'E' then
      let (negative, rest) := match rest with
        | '-' :: r => (true, r)
        | '+' :: r => (false, r)
        | r => (false, r)
      let digits := digitsOf rest
      if digits.isEmpty then none
      else
        let n : Int := ofDigits digits
        some (some (if negative then -n else n), afterDigits rest)
    else some (none, cs)
  | [] => some (none, [])

/-- The real number with the given parts, if it is not too large. -/
def realOf? (negative : Bool) (whole fraction : List Char) (exponent : Int) : Option Json :=
  let (significand, places) := takeDigits 0 whole
  let (significand, left) := takeDigits significand fraction
  let power := (places.length : Int) - (fraction.length - left.length) + exponent
  (Real.ofParts? significand power).map fun x => .real (Real.text negative x)

/-- The number with the given parts, if it is not too large. -/
def numberOf? (negative : Bool) (whole fraction : List Char) (exponent : Option Int) :
    Option Json :=
  let n : Int := if negative then -(ofDigits whole : Int) else ofDigits whole
  if fraction.isEmpty ∧ exponent.isNone ∧ ¬(negative ∧ n = 0) ∧
      Cents.least ≤ n ∧ n ≤ (greatest64 : Int) then
    some (.int n)
  else realOf? negative whole fraction (exponent.getD 0)

/-- Reads a number after its sign. -/
def readMagnitude (negative : Bool) (cs : List Char) : Option (Option Json × List Char) := do
  let whole := digitsOf cs
  if whole.isEmpty ∨ (whole.length > 1 ∧ whole.head? = some '0') then none
  else
    let (fraction, cs) ← readFraction (afterDigits cs)
    let (exponent, cs) ← readExponent cs
    some (numberOf? negative whole fraction exponent, cs)

/-- Reads a number. -/
def readNumber : List Char → Option (Option Json × List Char)
  | '-' :: cs => readMagnitude true cs
  | cs => readMagnitude false cs

end Json

end Till
