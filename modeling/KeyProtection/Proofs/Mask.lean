import KeyProtection.Mask
import KeyProtection.Proofs.Writing

/-! Values read as masks. A mask is an integer or a flag set that is not negative, and it is made into a flag
set of a type if that one has a name: the bits without a member are written as an integer as soon as there
is a member beside them. -/

namespace KeyProtection

namespace Value

/-- A mask is an integer or a flag set of any type, and not negative. -/
def IsMask : Value → Prop
  | .int number => 0 ≤ number
  | .flags _ => True
  | _ => False

instance : DecidablePred IsMask
  | .int number => inferInstanceAs (Decidable (0 ≤ number))
  | .flags _ => .isTrue trivial
  | .null | .bool _ | .float _ | .text _ | .time _ | .context _ | .list _ | .dict _ =>
    .isFalse not_false

/-- The natural number that a mask stands for. -/
def maskBits (value : Value) : Nat := (value.mask?.getD 0).toNat

/-- Masks are integers and flag sets. -/
theorem mask?_eq_some_iff {value : Value} {number : Int} :
    value.mask? = some number ↔
      value = .int number ∨ ∃ set, value = .flags set ∧ (set.bits : Int) = number := by
  cases value with
  | int _ => simp [mask?, integer?]
  | flags _ => simp [mask?, integer?]
  | _ => simp [mask?, integer?]

theorem integer?_of_mask? {value : Value} {number : Int} (mask : value.mask? = some number) :
    value.integer? = some number := by
  rcases mask?_eq_some_iff.mp mask with rfl | ⟨set, rfl, rfl⟩
  · rfl
  · rfl

theorem isMask_iff {value : Value} : value.IsMask ↔ ∃ number, value.mask? = some number ∧ 0 ≤ number := by
  cases value with
  | int number => simp [IsMask, mask?, integer?]
  | flags set => simp [IsMask, mask?, integer?]
  | _ => simp [IsMask, mask?, integer?]

theorem mask?_of_isMask {value : Value} (mask : value.IsMask) :
    value.mask? = some (value.maskBits : Int) := by
  obtain ⟨number, integer, nonnegative⟩ := isMask_iff.mp mask
  rw [maskBits, integer, Option.getD_some, Int.toNat_of_nonneg nonnegative]

theorem not_isMask_iff {value : Value} {number : Int} (integer : value.mask? = some number) :
    ¬ value.IsMask ↔ number < 0 := by
  rw [isMask_iff, integer]
  simp

theorem toInteger_of_isMask [Runtime] {value : Value} (mask : value.IsMask) :
    value.toInteger = .ok (value.maskBits : Int) := by
  have integer := mask?_of_isMask mask
  cases value with
  | int number => rw [← Option.some.inj integer]; rfl
  | flags set => rfl
  | _ => exact absurd mask not_false

end Value

namespace FlagSet

theorem unknownBits_le (flags : FlagSet) : flags.unknownBits ≤ flags.bits := by
  rw [unknownBits, Nat.shiftLeft_eq, Nat.shiftRight_eq_div_pow]
  exact Nat.div_mul_le_self _ _

variable [Runtime]

/-- The name of the flag set can be written, if it has one. -/
def Nameable (flags : FlagSet) : Prop :=
  (flags.members = [] ∨ flags.unknownBits = 0) ∨ Text.Writable flags.unknownBits

instance (flags : FlagSet) : Decidable flags.Nameable := inferInstanceAs (Decidable (_ ∨ _))

theorem writesIf_named (flags : FlagSet) : WritesIf flags.Nameable flags.named := by
  rw [named]
  split
  · next short => exact (writesIf_ok flags).congr (iff_of_true trivial (.inl short))
  · next long => exact ((writesIf_ofInteger _).map _).congr (or_iff_right long).symm

theorem eq_of_named {flags set : FlagSet} (made : flags.named = .ok set) : set = flags := by
  rw [named] at made
  split at made
  · exact (Except.ok.inj made).symm
  · obtain ⟨_, _, same⟩ := map_eq_ok_iff.mp made
    exact same.symm

theorem named_eq_ok_iff {flags set : FlagSet} : flags.named = .ok set ↔ flags.Nameable ∧ flags = set := by
  constructor
  · intro made
    exact ⟨(writesIf_named flags).exists_iff.mp ⟨set, made⟩, (eq_of_named made).symm⟩
  · rintro ⟨nameable, rfl⟩
    obtain ⟨set, made⟩ := (writesIf_named flags).made nameable
    rw [made, eq_of_named made]

theorem ofValue_of_isMask (type : FlagType) {value : Value} (mask : value.IsMask) :
    ofValue type value = named ⟨type, value.maskBits⟩ := by
  have nonnegative : ¬ (value.maskBits : Int) < 0 := by omega
  simp only [ofValue, Value.mask?_of_isMask mask, if_neg nonnegative, ofInt, maskOf_natCast]

theorem ofValue_of_mask?_none (type : FlagType) {value : Value} (other : value.mask? = none) :
    ofValue type value = .error (.maskNotInteger type value.kind) := by
  simp only [ofValue, other]

theorem ofValue_of_negative (type : FlagType) {value : Value} {number : Int}
    (integer : value.mask? = some number) (below : number < 0) :
    ofValue type value = (Text.ofInteger number).bind fun shown =>
      .error (.maskNegative type (String.ofList shown)) := by
  simp only [ofValue, integer, if_pos below]
  rfl

/-- A value is read as a flag set of a type exactly if it is a mask whose set has a name there. -/
theorem ofValue_eq_ok_iff {type : FlagType} {value : Value} {set : FlagSet} :
    ofValue type value = .ok set ↔
      value.IsMask ∧ Nameable ⟨type, value.maskBits⟩ ∧ ⟨type, value.maskBits⟩ = set := by
  by_cases mask : value.IsMask
  · rw [ofValue_of_isMask type mask, named_eq_ok_iff, and_iff_right mask]
  · simp only [mask, false_and, iff_false]
    cases integer : value.mask? with
    | none => simp [ofValue_of_mask?_none type integer]
    | some number =>
      rw [ofValue_of_negative type integer ((Value.not_isMask_iff integer).mp mask)]
      cases Text.ofInteger number with
      | error error => simp [Except.bind]
      | ok shown => simp [Except.bind]

end FlagSet

end KeyProtection
