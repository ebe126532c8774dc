/-!
Integers as two's complement bit strings without end: a negative number has all high bits set.
-/

namespace KeyProtection.Bits

/-- Bit `index` of `number`. -/
def test (number : Int) (index : Nat) : Bool :=
  match number with
  | .ofNat magnitude => magnitude.testBit index
  | .negSucc magnitude => !magnitude.testBit index

def and : Int → Int → Int
  | .ofNat left, .ofNat right => .ofNat (left &&& right)
  | .ofNat left, .negSucc right => .ofNat (left ^^^ (left &&& right))
  | .negSucc left, .ofNat right => .ofNat (right ^^^ (left &&& right))
  | .negSucc left, .negSucc right => .negSucc (left ||| right)

def or : Int → Int → Int
  | .ofNat left, .ofNat right => .ofNat (left ||| right)
  | .ofNat left, .negSucc right => .negSucc (right ^^^ (left &&& right))
  | .negSucc left, .ofNat right => .negSucc (left ^^^ (left &&& right))
  | .negSucc left, .negSucc right => .negSucc (left &&& right)

def xor : Int → Int → Int
  | .ofNat left, .ofNat right => .ofNat (left ^^^ right)
  | .ofNat left, .negSucc right => .negSucc (left ^^^ right)
  | .negSucc left, .ofNat right => .negSucc (left ^^^ right)
  | .negSucc left, .negSucc right => .ofNat (left ^^^ right)

@[simp] theorem test_natCast (number index : Nat) :
    test (number : Int) index = number.testBit index := rfl

theorem test_and (left right : Int) (index : Nat) :
    test (and left right) index = (test left index && test right index) := by
  cases left <;> cases right <;>
    simp only [test, and, Nat.testBit_and, Nat.testBit_or, Nat.testBit_xor] <;>
    cases Nat.testBit _ index <;> cases Nat.testBit _ index <;> rfl

theorem test_or (left right : Int) (index : Nat) :
    test (or left right) index = (test left index || test right index) := by
  cases left <;> cases right <;>
    simp only [test, or, Nat.testBit_and, Nat.testBit_or, Nat.testBit_xor] <;>
    cases Nat.testBit _ index <;> cases Nat.testBit _ index <;> rfl

end KeyProtection.Bits
