import Till.Json.Binary

/-!
# The written form of a real number

A number that is not a whole one is kept as a binary number and written with the fewest digits to
which that binary number is the nearest.

* `Real.ofParts?` : the binary number that `significand · 10 ^ power` is read as.  The significand
  is rounded, then scaled by the power in one step, or in steps of at most 308 places if it is a
  small one: so the last bit need not be that of the nearest binary number;
* `Real.shortest` : the digits and the power of ten of the shortest decimal, searched on the decimal
  grids from coarse to fine in exact arithmetic;
* `Real.written` : the written form of a decimal: positional while its first digit stands at most
  sixteen places before the point or five behind it, with an exponent of a sign and at least two
  digits otherwise.
-/

namespace Till

namespace Real

/-! ### Reading -/

/-- The most places by which a binary number is scaled in one step. -/
def greatestStep : Nat := 308

/-- A binary number divided so many times by the greatest power of ten of a step. -/
def stepsDown? : Nat → Binary → Option Binary
  | 0, x => some x
  | steps + 1, x =>
    if x.mantissa = 0 then some x else x.over? greatestStep >>= stepsDown? steps

/-- A binary number divided by a power of ten, in steps. -/
def scaledDown? (x : Binary) (power : Nat) : Option Binary := do
  let steps := (power - 1) / greatestStep
  let y ← stepsDown? steps x
  y.over? (power - steps * greatestStep)

/-- A binary number multiplied by a power of ten, nothing if it is too large. -/
def scaledUp? (x : Binary) (power : Nat) : Option Binary :=
  if x.mantissa = 0 then some x
  else if power ≤ greatestStep then x.times? power
  else none

/-- The binary number that `significand · 10 ^ power` is read as, nothing if it is too large. -/
def ofParts? (significand : Nat) (power : Int) : Option Binary := do
  let x ← Binary.nearest? significand 1
  if 0 ≤ power then scaledUp? x power.toNat else scaledDown? x (-power).toNat

/-! ### Writing -/

/-- The power of ten by which numbers are scaled to become whole. -/
def scalePower : Nat := 1100

/-- Searches the grids of width `10 ^ power` for a point in the range that reads back, the nearer
of two, or the even one if they are equally near. -/
def searchGrid (value low high : Nat) (endsCount : Bool) : Nat → Option (Nat × Nat)
  | 0 => none
  | power + 1 =>
    let width := 4 * Nat.pow 10 power
    let below := value / width
    let inside (n : Nat) : Bool :=
      if endsCount then decide (low ≤ n * width) && decide (n * width ≤ high)
      else decide (low < n * width) && decide (n * width < high)
    let toBelow := value - below * width
    let toAbove := (below + 1) * width - value
    let aboveIsBetter := decide (toAbove < toBelow ∨ (toAbove = toBelow ∧ below % 2 = 1))
    if inside below && (!inside (below + 1) || !aboveIsBetter) then some (below, power)
    else if inside (below + 1) then some (below + 1, power)
    else searchGrid value low high endsCount power

/-- The shortest decimal `digits · 10 ^ power` to which a binary number is the nearest. -/
def shortest (x : Binary) : Nat × Int :=
  let scale := Nat.pow 5 scalePower * Nat.pow 2 (x.exponent + scalePower).toNat
  let lowGap :=
    if x.mantissa = Binary.leastFull ∧ x.exponent > Binary.leastExponent then 1 else 2
  let value := 4 * x.mantissa * scale
  match searchGrid value (value - lowGap * scale) (value + 2 * scale) (x.mantissa % 2 == 0)
      (scalePower + 320) with
  | some (digits, power) => (digits, (power : Int) - scalePower)
  | none => (0, 0)

/-- The exponent of a written form. -/
def exponentText (exponent : Int) : List Char :=
  let digits := (toString exponent.natAbs).toList
  'e' :: (if exponent < 0 then '-' else '+') :: List.replicate (2 - digits.length) '0' ++ digits

/-- A decimal with its sign in written form. -/
def written (negative : Bool) (digits : Nat) (power : Int) : String :=
  let ds := (toString digits).toList
  let zeros (n : Int) : List Char := List.replicate n.toNat '0'
  let first := (ds.length : Int) + power
  let sign := if negative then ['-'] else []
  String.ofList <| sign ++
    if digits = 0 then "0.0".toList
    else if 0 ≤ power ∧ first ≤ 16 then ds ++ zeros power ++ ['.', '0']
    else if 0 < first ∧ first ≤ 16 then ds.take first.toNat ++ '.' :: ds.drop first.toNat
    else if -5 < first ∧ first ≤ 0 then '0' :: '.' :: zeros (-first) ++ ds
    else
      match ds with
      | [d] => d :: exponentText (first - 1)
      | d :: rest => d :: '.' :: rest ++ exponentText (first - 1)
      | [] => []

/-- A binary number with its sign in written form. -/
def text (negative : Bool) (x : Binary) : String :=
  let (digits, power) := if x.mantissa = 0 then (0, 0) else shortest x
  written negative digits power

end Real

end Till
