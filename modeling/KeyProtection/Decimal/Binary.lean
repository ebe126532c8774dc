import KeyProtection.Decimal

/-!
Binary floating-point numbers of 64 bits behind their decimal texts: the nearest one to a decimal,
and the shortest decimal that is nearest to the same one.
-/

namespace KeyProtection

/-- The magnitude `significand * 2 ^ exponent`. -/
structure Binary where
  significand : Nat
  exponent : Int
  deriving DecidableEq, Repr

namespace Binary

/-- The exact value as a quotient. -/
def quotient (binary : Binary) : Nat × Nat :=
  if 0 ≤ binary.exponent then (binary.significand <<< binary.exponent.natAbs, 1)
  else (binary.significand, 1 <<< binary.exponent.natAbs)

/-- The whole part of the value. -/
def floor (binary : Binary) : Nat := binary.quotient.1 / binary.quotient.2

/-- A quotient rounded to the nearest whole number, a half to the even neighbour. -/
def roundHalfEven (numerator denominator : Nat) : Nat :=
  let whole := numerator / denominator
  let rest := 2 * (numerator % denominator)
  if rest < denominator then whole else if denominator < rest then whole + 1 else whole + whole % 2

/-- The quotient after division by a power of two. -/
def scaled (numerator denominator : Nat) (power : Int) : Nat × Nat :=
  if 0 ≤ power then (numerator, denominator <<< power.natAbs)
  else (numerator <<< power.natAbs, denominator)

/-- The power of two just below a positive quotient. -/
def floorLog2 (numerator denominator : Nat) : Int :=
  let estimate : Int := (Nat.log2 numerator : Int) - Nat.log2 denominator
  let (upper, lower) := scaled numerator denominator estimate
  if lower ≤ upper then estimate else estimate - 1

/-- The number of 53 significant bits nearest to a positive quotient, or none when that exceeds the
largest one. -/
def nearest? (numerator denominator : Nat) : Option Binary :=
  let power := max (floorLog2 numerator denominator - 52) (-1074)
  let (upper, lower) := scaled numerator denominator power
  let significand := roundHalfEven upper lower
  let binary : Binary := if significand = 1 <<< 53 then ⟨1 <<< 52, power + 1⟩ else ⟨significand, power⟩
  if 971 < binary.exponent then none else some binary

end Binary

namespace Decimal

/-- The nearest binary number to the magnitude of a decimal. Magnitudes far outside the range of
exponents are decided without computing their powers of ten. -/
def binary? (decimal : Decimal) : Option Binary :=
  if decimal.coefficient = 0 then some ⟨0, 0⟩
  else if 400 < decimal.leadingExponent then none
  else if decimal.leadingExponent < -400 then some ⟨0, 0⟩
  else if 0 ≤ decimal.exponent then
    Binary.nearest? (decimal.coefficient * Nat.pow 10 decimal.exponent.natAbs) 1
  else Binary.nearest? decimal.coefficient (Nat.pow 10 decimal.exponent.natAbs)

/-- The two neighbours of a quotient among the multiples of a power of ten, the nearer one first. -/
def neighbours (negative : Bool) (numerator denominator : Nat) (power : Int) : List Decimal :=
  let (upper, lower) :=
    if 0 ≤ power then (numerator, denominator * Nat.pow 10 power.natAbs)
    else (numerator * Nat.pow 10 power.natAbs, denominator)
  let below := ofParts negative (upper / lower) power
  let above := ofParts negative (upper / lower + 1) power
  if Binary.roundHalfEven upper lower = upper / lower then [below, above] else [above, below]

/-- The shortest decimal that is nearest to the same binary number: the coarsest grid of powers of
ten on which a neighbour of that number leads back to it. There is none when the decimal exceeds the
largest binary number. -/
def shortest? (decimal : Decimal) : Option Decimal :=
  decimal.binary?.map fun binary =>
    if binary.significand = 0 then ofParts decimal.negative 0 0
    else
      let (numerator, denominator) := binary.quotient
      let grids := (List.range 20).map fun (step : Nat) => decimal.leadingExponent + 1 - (step : Int)
      let candidates := grids.flatMap (neighbours decimal.negative numerator denominator)
      (candidates.find? fun candidate => candidate.binary? == some binary).getD decimal

end Decimal

end KeyProtection
