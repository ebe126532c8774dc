/-!
Decimal numbers with a sign, a coefficient and a power of ten, kept without trailing zeros, so that
each number (and each signed zero) has one representation.
-/

namespace KeyProtection

def digits (number : Nat) : List Char := Nat.toDigits 10 number

def ofDigits (text : List Char) : Nat := Nat.ofDigitChars 10 text 0

/-- The decimal text of an integer. -/
def integerText : Int → List Char
  | .ofNat number => digits number
  | .negSucc below => '-' :: digits (below + 1)

theorem ofDigits_digits (number : Nat) : ofDigits (digits number) = number :=
  Nat.ofDigitChars_toDigits (by decide) (by decide)

/-- The value `± coefficient * 10 ^ exponent`. -/
structure Decimal where
  negative : Bool
  coefficient : Nat
  exponent : Int
  reduced : if coefficient = 0 then exponent = 0 else coefficient % 10 ≠ 0
  deriving DecidableEq

namespace Decimal

/-- Moves trailing zeros of a coefficient into the exponent. -/
def reduce (coefficient : Nat) (exponent : Int) : Nat × Int :=
  if coefficient = 0 then (0, 0)
  else if coefficient % 10 = 0 then reduce (coefficient / 10) (exponent + 1)
  else (coefficient, exponent)
termination_by coefficient
decreasing_by omega

theorem reduce_reduced (coefficient : Nat) (exponent : Int) :
    if (reduce coefficient exponent).1 = 0 then (reduce coefficient exponent).2 = 0
    else (reduce coefficient exponent).1 % 10 ≠ 0 := by
  fun_induction reduce coefficient exponent with
  | case1 => simp
  | case2 coefficient exponent nonzero multiple ih => exact ih
  | case3 coefficient exponent nonzero last => simp [nonzero, last]

def ofParts (negative : Bool) (coefficient : Nat) (exponent : Int) : Decimal :=
  let parts := reduce coefficient exponent
  ⟨negative, parts.1, parts.2, reduce_reduced coefficient exponent⟩

/-- The power of ten of the leading digit. -/
def leadingExponent (decimal : Decimal) : Int :=
  decimal.exponent + (digits decimal.coefficient).length - 1

def signText (negative : Bool) : List Char := if negative then ['-'] else []

def exponentText (exponent : Int) : List Char :=
  let magnitude := digits exponent.natAbs
  (if exponent < 0 then ['e', '-'] else ['e', '+']) ++
    (if magnitude.length < 2 then '0' :: magnitude else magnitude)

/-- Digits around a point that stands `position` digits after the first one begins; a number always
has a digit on both sides of its point. -/
def positional (digits : List Char) (position : Int) : List Char :=
  if position ≤ 0 then '0' :: '.' :: (List.replicate position.natAbs '0' ++ digits)
  else if digits.length ≤ position.natAbs then
    digits ++ List.replicate (position.natAbs - digits.length) '0' ++ ['.', '0']
  else digits.take position.natAbs ++ '.' :: digits.drop position.natAbs

def scientific : List Char → Int → List Char
  | first :: [], exponent => first :: exponentText exponent
  | first :: rest, exponent => first :: '.' :: (rest ++ exponentText exponent)
  | [], exponent => exponentText exponent

/-- Numbers from `0.0001` up to, but not including, `10 ^ 16` are written with a point and no power
of ten; all others with one digit before the point and a signed exponent of at least two digits. -/
def text (decimal : Decimal) : List Char :=
  let exponent := decimal.leadingExponent
  signText decimal.negative ++
    (if -4 ≤ exponent ∧ exponent < 16 then positional (digits decimal.coefficient) (exponent + 1)
    else scientific (digits decimal.coefficient) exponent)

end Decimal

end KeyProtection
