import KeyProtection.Numeral
import KeyProtection.Decimal.Binary

/-!
Floating-point values. A finite one is held by its shortest decimal. Each undefined value carries
the number of its occurrence, for it equals nothing but itself.
-/

namespace KeyProtection

inductive Floating where
  | finite (decimal : Decimal)
  | infinite (negative : Bool)
  | nan (occurrence : Nat)
  deriving DecidableEq

namespace Floating

def text : Floating → List Char
  | finite decimal => decimal.text
  | infinite false => ['i', 'n', 'f']
  | infinite true => ['-', 'i', 'n', 'f']
  | nan _ => ['n', 'a', 'n']

/-- Reads a text as `text` writes it; `occurrence` numbers an undefined value. -/
def ofText? (occurrence : Nat) (text : List Char) : Option Floating :=
  if text = ['n', 'a', 'n'] then some (nan occurrence)
  else if text = ['i', 'n', 'f'] then some (infinite false)
  else if text = ['-', 'i', 'n', 'f'] then some (infinite true)
  else (Numeral.ofText? text).map fun numeral =>
    match numeral.decimal.shortest? with
    | some decimal => finite decimal
    | none => infinite numeral.negative

def isZero : Floating → Bool
  | finite decimal => decimal.coefficient == 0
  | _ => false

end Floating

end KeyProtection
