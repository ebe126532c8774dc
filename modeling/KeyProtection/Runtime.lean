/-!
What a runtime bounds: the digits of an integer that is read from a text or written as one. The bound
can be moved, and there may be none.
-/

namespace KeyProtection

class Runtime where
  /-- The most digits of an integer that is read or written. -/
  digitLimit : Option Nat

namespace Runtime

/-- The bound of a runtime in which nobody has set one. -/
instance standard : Runtime := ⟨some 4300⟩

variable [Runtime]

/-- The bound that a number of digits exceeds. -/
def exceeded? (count : Nat) : Option Nat := digitLimit.filter fun limit => decide (limit < count)

/-- Integers of that many digits are read and written. -/
def Allows (count : Nat) : Prop := exceeded? count = none

instance (count : Nat) : Decidable (Allows count) := inferInstanceAs (Decidable (_ = none))

theorem allows_iff {count : Nat} : Allows count ↔ ∀ limit ∈ digitLimit, count ≤ limit := by
  simp [Allows, exceeded?, Option.filter_eq_none_iff]

/-- Without a bound there are never too many digits. -/
theorem allows_of_unbounded (unbounded : digitLimit = none) (count : Nat) : Allows count := by
  simp [allows_iff, unbounded]

theorem Allows.mono {count other : Nat} (allows : Allows other) (fewer : count ≤ other) :
    Allows count :=
  allows_iff.mpr fun limit bound => Nat.le_trans fewer (allows_iff.mp allows limit bound)

end Runtime

end KeyProtection
