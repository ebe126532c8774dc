import KeyProtection.Decimal

/-!
Numerals: an optional minus sign, a whole part without needless zeros, then an optional fraction and
an optional power of ten. A numeral without the last two is an integer.
-/

namespace KeyProtection

structure Numeral where
  negative : Bool
  whole : List Char
  fraction : List Char
  power : Option Int
  deriving DecidableEq

namespace Numeral

def power? : List Char → Option Int
  | '-' :: text => if text ≠ [] ∧ text.all Char.isDigit then some (-(ofDigits text : Int)) else none
  | '+' :: text => if text ≠ [] ∧ text.all Char.isDigit then some (ofDigits text : Int) else none
  | text => if text ≠ [] ∧ text.all Char.isDigit then some (ofDigits text : Int) else none

def afterFraction (negative : Bool) (whole fraction : List Char) : List Char → Option Numeral
  | [] => some ⟨negative, whole, fraction, none⟩
  | mark :: text =>
    if mark = 'e' ∨ mark = 'E' then
      (power? text).map fun power => ⟨negative, whole, fraction, some power⟩
    else none

def afterWhole (negative : Bool) (whole : List Char) : List Char → Option Numeral
  | '.' :: text =>
    let fraction := text.takeWhile Char.isDigit
    if fraction = [] then none
    else afterFraction negative whole fraction (text.dropWhile Char.isDigit)
  | text => afterFraction negative whole [] text

def unsigned? (negative : Bool) (text : List Char) : Option Numeral :=
  let whole := text.takeWhile Char.isDigit
  if whole = [] ∨ (whole.head? = some '0' ∧ whole ≠ ['0']) then none
  else afterWhole negative whole (text.dropWhile Char.isDigit)

def ofText? : List Char → Option Numeral
  | '-' :: text => unsigned? true text
  | text => unsigned? false text

/-- The integer that a numeral with neither fraction nor power stands for. -/
def integer? (numeral : Numeral) : Option Int :=
  if numeral.fraction = [] ∧ numeral.power = none then
    some (if numeral.negative then -(ofDigits numeral.whole : Int) else (ofDigits numeral.whole : Int))
  else none

def decimal (numeral : Numeral) : Decimal :=
  Decimal.ofParts numeral.negative (ofDigits (numeral.whole ++ numeral.fraction))
    (numeral.power.getD 0 - numeral.fraction.length)

end Numeral

end KeyProtection
