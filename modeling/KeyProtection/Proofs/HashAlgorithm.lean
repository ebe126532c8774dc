import KeyProtection.HashAlgorithm
import KeyProtection.Proofs.Flag.Layers

/-! The choice of hash algorithms. One bit of a mask decides it, in two's complement where the mask is
negative. A union of masks chooses what one of them does and an intersection what both do, unless a union
is held as a mask of the flag type with one member, whose range is too small for that bit of a negative
integer. -/

namespace KeyProtection

namespace Bits

/-- The bits of an integer are those of its quotient, rounded down, by a power of two. -/
theorem test_eq_decide (number : Int) (index : Nat) :
    test number index = decide (number / 2 ^ index % 2 = 1) := by
  cases number with
  | ofNat magnitude =>
    have quotient : Int.ofNat magnitude / 2 ^ index = (magnitude / 2 ^ index : Nat) := by
      push_cast
      rfl
    rw [test, Nat.testBit_eq_decide_div_mod_eq, decide_eq_decide, quotient]
    omega
  | negSucc below =>
    have positive : (0 : Int) < 2 ^ index := Int.pow_pos (by decide)
    have quotient : Int.negSucc below / 2 ^ index = -((below / 2 ^ index : Nat) + 1 : Int) := by
      rw [Int.negSucc_ediv below positive]
      push_cast
      rfl
    rw [test, Nat.testBit_eq_decide_div_mod_eq, ← decide_not, decide_eq_decide, quotient]
    omega

theorem or_natCast (left right : Nat) : or left right = ((left ||| right : Nat) : Int) := rfl

theorem or_comm (left right : Int) : or left right = or right left := by
  cases left with
  | ofNat left =>
    cases right with
    | ofNat right => exact congrArg Int.ofNat (Nat.or_comm left right)
    | negSucc right => exact congrArg Int.negSucc (by rw [Nat.and_comm])
  | negSucc left =>
    cases right with
    | ofNat right => exact congrArg Int.negSucc (by rw [Nat.and_comm])
    | negSucc right => exact congrArg Int.negSucc (Nat.and_comm left right)

end Bits

namespace FlagSet

/-- The number of bits that a negative integer has when it turns into a flag set: those of the members, or
more if it takes more to write it. -/
def width (type : FlagType) (below : Nat) : Nat :=
  if below < type.range then type.memberNames.length
  else max type.memberNames.length (Nat.log2 (below + 1) + 1)

theorem maskOf_negSucc (type : FlagType) (below : Nat) :
    maskOf type (.negSucc below) = 2 ^ width type below - (below + 1) := by
  rw [maskOf, width, FlagType.range, Nat.one_shiftLeft, Nat.one_shiftLeft]
  split
  · rfl
  · rcases Nat.le_total type.memberNames.length (Nat.log2 (below + 1) + 1) with wide | narrow
    · rw [Nat.max_eq_right wide, Nat.max_eq_right (Nat.pow_le_pow_right (by decide) wide)]
    · rw [Nat.max_eq_left narrow, Nat.max_eq_left (Nat.pow_le_pow_right (by decide) narrow)]

theorem lt_two_pow_width (type : FlagType) (below : Nat) : below < 2 ^ width type below := by
  rw [width]
  split
  · next small =>
    rw [FlagType.range, Nat.one_shiftLeft] at small
    exact small
  · have written : below + 1 < 2 ^ (Nat.log2 (below + 1) + 1) := Nat.lt_log2_self
    have wider : 2 ^ (Nat.log2 (below + 1) + 1) ≤
        2 ^ max type.memberNames.length (Nat.log2 (below + 1) + 1) :=
      Nat.pow_le_pow_right (by decide) (Nat.le_max_right _ _)
    omega

/-- A negative integer keeps its bits up to the width, and loses the endless ones above. -/
theorem testBit_maskOf_negSucc (type : FlagType) (below index : Nat) :
    (maskOf type (.negSucc below)).testBit index =
      (decide (index < width type below) && Bits.test (.negSucc below) index) := by
  rw [maskOf_negSucc, Nat.testBit_two_pow_sub_succ (lt_two_pow_width type below)]
  rfl

/-- Only −1 and −2 have a width of one bit, and only where there is one member. -/
theorem one_lt_width_iff (type : FlagType) (below : Nat) :
    1 < width type below ↔ ¬ (type = .userAuthenticator ∧ below < 2) := by
  by_cases single : type = .userAuthenticator
  · subst single
    by_cases small : below < 2
    · have narrow : width .userAuthenticator below = 1 := if_pos small
      simp [narrow, small]
    · have wide : width .userAuthenticator below = max 1 (Nat.log2 (below + 1) + 1) := if_neg small
      have log : 1 ≤ Nat.log2 (below + 1) := (Nat.le_log2 (by omega)).mpr (by omega)
      simp only [small, and_false, not_false_eq_true, iff_true]
      omega
  · have members : 1 < type.memberNames.length := by
      cases type with
      | userAuthenticator => exact absurd rfl single
      | _ => decide
    have wide : type.memberNames.length ≤ width type below := by
      rw [width]
      split
      · exact Nat.le_refl _
      · exact Nat.le_max_left _ _
    simp only [single, false_and, not_false_eq_true, iff_true]
    omega

/-- The second bit of an integer is kept in every type, up to −1 and −2 in the type with one member. -/
theorem testBit_maskOf_one (type : FlagType) (number : Int) :
    (maskOf type number).testBit 1 = true ↔
      Bits.test number 1 = true ∧ ¬ (type = .userAuthenticator ∧ (number = -1 ∨ number = -2)) := by
  cases number with
  | ofNat bits =>
    have nonnegative : ¬ (Int.ofNat bits = -1 ∨ Int.ofNat bits = -2) := by
      rw [Int.ofNat_eq_natCast]
      omega
    simp only [nonnegative, and_false, not_false_eq_true, and_true]
    rfl
  | negSucc below =>
    have small : below < 2 ↔ Int.negSucc below = -1 ∨ Int.negSucc below = -2 := by omega
    rw [testBit_maskOf_negSucc, Bool.and_eq_true, decide_eq_true_eq, one_lt_width_iff, small]
    exact and_comm

end FlagSet

/-- Inside layers the second bit of an integer is kept, but for two integers inside the type with one
member. -/
theorem Value.test_maskInside_one (layers : List FlagType) (number : Int) :
    Bits.test (maskInside layers number) 1 = true ↔ Bits.test number 1 = true ∧
      ¬ (layers.getLast? = some .userAuthenticator ∧ (number = -1 ∨ number = -2)) := by
  rw [maskInside]
  cases innermost : layers.getLast? with
  | none => simp
  | some type =>
    simp only [Bits.test_natCast, FlagSet.testBit_maskOf_one, Option.some.injEq]

namespace HashAlgorithm

/-- A digest restriction that some algorithm is chosen for. -/
def Selects (digests : Value) : Prop :=
  ∃ selected, ofDigests digests = .ok selected ∧ ∃ algorithm, algorithm ∈ selected

theorem ofDigests_of_integer? {digests : Value} {number : Int}
    (integer : digests.integer? = some number) :
    ofDigests digests = .ok (if number / 2 % 2 = 1 then [sha256] else []) := by
  have bit := Bits.test_eq_decide number 1
  rw [Int.pow_one] at bit
  rw [ofDigests, Value.operand, integer]
  simp only [Except.map, ofBits, selectors, List.filter_cons, List.filter_nil, bit, decide_eq_true_eq]
  split
  · rfl
  · rfl

theorem selects_iff {digests : Value} {number : Int} (integer : digests.integer? = some number) :
    Selects digests ↔ Bits.test number 1 = true := by
  have bit := Bits.test_eq_decide number 1
  rw [Int.pow_one] at bit
  rw [Selects, ofDigests_of_integer? integer, bit]
  by_cases chosen : number / 2 % 2 = 1
  · simp [chosen]
  · simp [chosen]

/-- A flag set whose mask is, in the end, held as one of authenticators, and an integer, whose union as
integers is −1 or −2: that type has one member, and the integer is counted from its range of two. -/
def OutOfRange (holdings : Holdings) (left right : Value) : Prop :=
  ∃ set number, (left = .flags set ∧ right = .int number ∨ left = .int number ∧ right = .flags set) ∧
    ((Value.flags set).layers holdings).getLast? = some .userAuthenticator ∧
    (Bits.or set.bits number = -1 ∨ Bits.or set.bits number = -2)

variable (holdings : Holdings) {left right : Value} {number other : Int}

/-- A union is out of range exactly if its innermost layer and its integer are. -/
theorem outOfRange_iff (first : left.mask? = some number) (second : right.mask? = some other) :
    OutOfRange holdings left right ↔
      (left.layers holdings ++ right.layers holdings).getLast? = some .userAuthenticator ∧
        (Bits.or number other = -1 ∨ Bits.or number other = -2) := by
  rcases Value.mask?_eq_some_iff.mp first with rfl | ⟨set, rfl, rfl⟩
  · rcases Value.mask?_eq_some_iff.mp second with rfl | ⟨part, rfl, rfl⟩
    · simp [OutOfRange, Value.layers]
    · simp [OutOfRange, Value.layers, Bits.or_comm number]
  · rcases Value.mask?_eq_some_iff.mp second with rfl | ⟨part, rfl, rfl⟩
    · simp [OutOfRange, Value.layers]
    · have nonnegative : ¬ (Bits.or set.bits part.bits = -1 ∨ Bits.or set.bits part.bits = -2) := by
        rw [Bits.or_natCast]
        omega
      simp [OutOfRange, nonnegative]

theorem selects_union [Runtime] {union : Value} (first : left.mask? = some number)
    (second : right.mask? = some other) (made : left.or holdings right = .ok union) :
    Selects union ↔ (Selects left ∨ Selects right) ∧ ¬ OutOfRange holdings left right := by
  obtain rfl := Value.inside_of_bitwise holdings first second made
  rw [selects_iff (Value.integer?_of_mask? first), selects_iff (Value.integer?_of_mask? second),
    selects_iff (Value.integer?_of_mask? (Value.mask?_inside _ _)), Value.test_maskInside_one,
    Bits.test_or, Bool.or_eq_true, outOfRange_iff holdings first second]

theorem selects_intersection [Runtime] {common : Value} (first : left.mask? = some number)
    (second : right.mask? = some other) (made : left.and holdings right = .ok common) :
    Selects common ↔ Selects left ∧ Selects right := by
  obtain rfl := Value.inside_of_bitwise holdings first second made
  rw [selects_iff (Value.integer?_of_mask? first), selects_iff (Value.integer?_of_mask? second),
    selects_iff (Value.integer?_of_mask? (Value.mask?_inside _ _)), Value.test_maskInside_one,
    Bits.test_and, Bool.and_eq_true]
  refine and_iff_left_of_imp fun ⟨chosen, chosenToo⟩ => ?_
  rintro ⟨innermost, negative⟩
  -- With a layer there is a flag set, and then the common bits are no negative integer.
  rcases Value.mask?_eq_some_iff.mp first with rfl | ⟨set, rfl, rfl⟩
  · rcases Value.mask?_eq_some_iff.mp second with rfl | ⟨part, rfl, rfl⟩
    · cases innermost
    · obtain ⟨bits, _, same, _⟩ := Bits.exists_and_natCast part.bits number
      omega
  · obtain ⟨bits, same, _⟩ := Bits.exists_and_natCast set.bits other
    omega

end HashAlgorithm

end KeyProtection
