import Mathlib.Data.List.Perm.Basic
import Mathlib.Data.Set.Basic
import KeyProtection.Proofs.Equality
import KeyProtection.Proofs.Flag.Layers

/-! Flag sets as sets. A flag set stands for the set of its bits, known and unknown ones alike, so that
containment is inclusion, and the operations on integers are union, intersection and symmetric difference,
of the bits as well as of the members that are listed, wherever they have a result. -/

namespace KeyProtection

namespace FlagSet

/-- The places of the bits of a flag set. -/
def bitSet (flags : FlagSet) : Set Nat := fun index => flags.bits.testBit index = true

theorem mem_bitSet {flags : FlagSet} {index : Nat} :
    index ∈ flags.bitSet ↔ flags.bits.testBit index = true := Iff.rfl

theorem bits_eq_iff {left right : FlagSet} : left.bits = right.bits ↔ left.bitSet = right.bitSet := by
  constructor
  · intro same
    ext index
    rw [mem_bitSet, mem_bitSet, same]
  · intro same
    apply Nat.eq_of_testBit_eq
    intro index
    rw [Bool.eq_iff_iff]
    exact Set.ext_iff.mp same index

/-- All bits of the part are in the whole, which can be asked within one type only. -/
def Contains (whole part : FlagSet) : Prop := whole.contains (.flags part) = .ok true

/-- Two flag sets are equal as values. -/
def Same (left right : FlagSet) : Prop := (Value.flags left).equal (.flags right) = true

theorem contains_iff (whole part : FlagSet) (type : part.type = whole.type) :
    whole.Contains part ↔ part.bitSet ⊆ whole.bitSet := by
  rw [Contains, contains, if_pos type, Except.ok.injEq, includes_iff]
  rfl

theorem same_iff {left right : FlagSet} : left.Same right ↔ left.bitSet = right.bitSet := by
  rw [Same, Value.equal_iff_meaning, ← bits_eq_iff]
  simp only [Value.meaning, Meaning.number.injEq, Number.finite.injEq, Rat.intCast_inj,
    Int.ofNat_inj]

/-- All bits of two flag sets, in the type of the first. -/
def union (left right : FlagSet) : FlagSet := ⟨left.type, left.bits ||| right.bits⟩

/-- The common bits of two flag sets. -/
def intersection (left right : FlagSet) : FlagSet := ⟨left.type, left.bits &&& right.bits⟩

/-- The bits that are in one of two flag sets only. -/
def difference (left right : FlagSet) : FlagSet := ⟨left.type, left.bits ^^^ right.bits⟩

theorem bitSet_union (left right : FlagSet) : (left.union right).bitSet = left.bitSet ∪ right.bitSet := by
  ext index
  simp only [union, mem_bitSet, Set.mem_union, Nat.testBit_or, Bool.or_eq_true]

theorem bitSet_intersection (left right : FlagSet) :
    (left.intersection right).bitSet = left.bitSet ∩ right.bitSet := by
  ext index
  simp only [intersection, mem_bitSet, Set.mem_inter_iff, Nat.testBit_and, Bool.and_eq_true]

theorem bitSet_difference (left right : FlagSet) :
    (left.difference right).bitSet = left.bitSet \ right.bitSet ∪ right.bitSet \ left.bitSet := by
  ext index
  simp only [difference, mem_bitSet, Set.mem_union, Set.mem_sdiff, Nat.testBit_xor]
  cases left.bits.testBit index with
  | false => simp
  | true => simp

/-- The members listed are those of a kind if this is so of every single name. -/
theorem members_eq_filter {flags : FlagSet} {kept : String → Prop} [DecidablePred kept]
    (exact : ∀ index name, flags.type.memberNames[index]? = some name →
      (index ∈ flags.bitSet ↔ kept name)) :
    flags.members = flags.type.memberNames.filter fun name => kept name := by
  have names := flags.type.nodup_memberNames
  apply (List.Nodup.perm_iff_eq_of_sublist names flags.members_sublist List.filter_sublist).mp
  apply (List.perm_ext_iff_of_nodup flags.nodup_members (names.filter _)).mpr
  intro name
  rw [List.mem_filter, decide_eq_true_eq]
  constructor
  · intro listed
    have named := flags.members_sublist.subset listed
    obtain ⟨index, owner⟩ := List.mem_iff_getElem?.mp named
    exact ⟨named, (exact index name owner).mp ((mem_members_iff owner).mp listed)⟩
  · rintro ⟨named, chosen⟩
    obtain ⟨index, owner⟩ := List.mem_iff_getElem?.mp named
    exact (mem_members_iff owner).mpr ((exact index name owner).mpr chosen)

/-- The least flag set of a type that contains two others of it, members listed in their order. -/
structure IsUnion (left right whole : FlagSet) : Prop where
  type : whole.type = left.type
  containsLeft : whole.Contains left
  containsRight : whole.Contains right
  least : ∀ other : FlagSet, other.type = left.type → other.Contains left → other.Contains right →
    other.Contains whole
  members : whole.members = left.type.memberNames.filter fun name =>
    name ∈ left.members ∨ name ∈ right.members

/-- The greatest flag set of a type that two others of it contain. -/
structure IsIntersection (left right part : FlagSet) : Prop where
  type : part.type = left.type
  insideLeft : left.Contains part
  insideRight : right.Contains part
  greatest : ∀ other : FlagSet, other.type = left.type → left.Contains other → right.Contains other →
    part.Contains other
  members : part.members = left.type.memberNames.filter fun name =>
    name ∈ left.members ∧ name ∈ right.members

/-- The flag set of what is in one of two others but not in both. The second one, taken away in the same
way again, leaves the first. -/
structure IsSymmetricDifference (left right apart : FlagSet) : Prop where
  type : apart.type = left.type
  bits : apart.bitSet = left.bitSet \ right.bitSet ∪ right.bitSet \ left.bitSet
  undone : (apart.difference right).Same left
  members : apart.members = left.type.memberNames.filter fun name =>
    name ∈ left.members ∧ name ∉ right.members ∨ name ∈ right.members ∧ name ∉ left.members

variable {left right : FlagSet}

theorem isUnion_union (same : right.type = left.type) : IsUnion left right (left.union right) where
  type := rfl
  containsLeft := by
    rw [contains_iff (left.union right) left rfl, bitSet_union]
    exact Set.subset_union_left
  containsRight := by
    rw [contains_iff (left.union right) right same, bitSet_union]
    exact Set.subset_union_right
  least := by
    intro other type
    rw [contains_iff other left type.symm, contains_iff other right (same.trans type.symm),
      contains_iff other (left.union right) type.symm, bitSet_union]
    exact Set.union_subset
  members := by
    apply members_eq_filter
    intro index name (owner : left.type.memberNames[index]? = some name)
    rw [bitSet_union, Set.mem_union, mem_bitSet, mem_bitSet, mem_members_iff owner,
      mem_members_iff (same ▸ owner)]

theorem isIntersection_intersection (same : right.type = left.type) :
    IsIntersection left right (left.intersection right) where
  type := rfl
  insideLeft := by
    rw [contains_iff left (left.intersection right) rfl, bitSet_intersection]
    exact Set.inter_subset_left
  insideRight := by
    rw [contains_iff right (left.intersection right) same.symm, bitSet_intersection]
    exact Set.inter_subset_right
  greatest := by
    intro other type
    rw [contains_iff left other type, contains_iff right other (type.trans same.symm),
      contains_iff (left.intersection right) other type, bitSet_intersection]
    exact Set.subset_inter
  members := by
    apply members_eq_filter
    intro index name (owner : left.type.memberNames[index]? = some name)
    rw [bitSet_intersection, Set.mem_inter_iff, mem_bitSet, mem_bitSet, mem_members_iff owner,
      mem_members_iff (same ▸ owner)]

theorem isSymmetricDifference_difference (same : right.type = left.type) :
    IsSymmetricDifference left right (left.difference right) where
  type := rfl
  bits := bitSet_difference left right
  undone := by
    rw [same_iff, ← bits_eq_iff, difference, difference, Nat.xor_assoc, Nat.xor_self, Nat.xor_zero]
  members := by
    apply members_eq_filter
    intro index name (owner : left.type.memberNames[index]? = some name)
    rw [bitSet_difference, Set.mem_union, Set.mem_sdiff, Set.mem_sdiff, mem_bitSet, mem_bitSet,
      mem_members_iff owner, mem_members_iff (same ▸ owner)]

section

variable [Runtime]

/-- The flag set is the result, if every layer that takes part can name it. -/
structure ResultsIn (layers : List FlagType) (set : FlagSet) (result : Except Error Value) : Prop where
  made : (∀ type ∈ layers, Nameable ⟨type, set.bits⟩) → result = .ok (.flags set)
  refused : ¬ (∀ type ∈ layers, Nameable ⟨type, set.bits⟩) →
    ∃ limit, Runtime.digitLimit = some limit ∧ result = .error (.integerTooLong limit)

/-- An operation that does to masks what it does to natural numbers results in the flag set of their mask. -/
theorem resultsIn_bitwise (holdings : Holdings) (sign : Char) {operation : Int → Int → Int}
    (left : FlagSet) {operand : Value} {bits mask : Nat} (second : operand.mask? = some (bits : Int))
    (exact : operation left.bits bits = mask) :
    ResultsIn (left.type :: (holdings.inner left ++ operand.layers holdings)) ⟨left.type, mask⟩
      (Value.bitwise holdings sign operation (.flags left) operand) := by
  have first : (Value.flags left).mask? = some (left.bits : Int) := rfl
  have writes := Value.writesIf_bitwise holdings sign operation first second
  have layers : (Value.flags left).layers holdings ++ operand.layers holdings =
      left.type :: (holdings.inner left ++ operand.layers holdings) := rfl
  simp only [Value.NameableIn, layers, exact, Value.maskInside_natCast, Int.toNat_natCast] at writes
  refine ⟨fun nameable => ?_, writes.refused⟩
  obtain ⟨result, made⟩ := writes.made nameable
  have only := Value.inside_of_bitwise holdings first second made
  rw [layers, exact, Value.inside_natCast] at only
  rw [made, only]

end

end FlagSet

end KeyProtection
