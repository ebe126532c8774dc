import Mathlib.Data.List.Nodup
import Mathlib.Data.Nat.Bitwise
import KeyProtection.Proofs.Mask

/-! Members of flag sets. Every member of a flag type owns one bit. A mask consists of the bits of the
members that are listed of it and of bits that no member owns, and all of them are kept when it is read
as a flag set, of whatever types it was before. -/

namespace KeyProtection

namespace FlagType

theorem nodup_memberNames (type : FlagType) : type.memberNames.Nodup := by
  cases type <;> decide

/-- Members own the powers of two in the order of their names. -/
theorem mem_members_iff {type : FlagType} {name : String} {mask : Nat} :
    (name, mask) ∈ type.members ↔
      ∃ index, type.memberNames[index]? = some name ∧ mask = 2 ^ index := by
  simp only [members, List.mem_map, Prod.exists, List.mem_zipIdx_iff_getElem?, Prod.mk.injEq,
    Nat.one_shiftLeft]
  constructor
  · rintro ⟨_, index, owner, rfl, rfl⟩
    exact ⟨index, owner, rfl⟩
  · rintro ⟨index, owner, rfl⟩
    exact ⟨name, index, owner, rfl, rfl⟩

/-- No two members have one name. -/
theorem index_unique {type : FlagType} {name : String} {index other : Nat}
    (owner : type.memberNames[index]? = some name) (again : type.memberNames[other]? = some name) :
    index = other := by
  obtain ⟨inside, _⟩ := List.getElem?_eq_some_iff.mp owner
  exact (List.getElem?_inj inside type.nodup_memberNames).mp (owner.trans again.symm)

/-- Members of a mask, in the order of definition and none twice: those whose bit is in the mask. -/
structure Lists (type : FlagType) (bits : Nat) (listed : List String) : Prop where
  ordered : listed.Sublist type.memberNames
  distinct : listed.Nodup
  exact : ∀ name mask, (name, mask) ∈ type.members → (name ∈ listed ↔ bits &&& mask = mask)

/-- The masks of the members with some names. -/
def masksOf (type : FlagType) (names : List String) : List Nat :=
  (type.members.filter fun member => member.1 ∈ names).map Prod.snd

/-- Bits that no member owns. -/
def IsUnknown (type : FlagType) (bits : Nat) : Prop := ∀ member ∈ type.members, member.2 &&& bits = 0

end FlagType

/-- Numbers that share no bit, and that have all bits of the whole together. -/
structure DisjointUnion (parts : List Nat) (whole : Nat) : Prop where
  disjoint : parts.Pairwise fun left right => left &&& right = 0
  union : parts.foldr (· ||| ·) 0 = whole

theorem testBit_foldr_or (parts : List Nat) (index : Nat) :
    (parts.foldr (· ||| ·) 0).testBit index = true ↔ ∃ part ∈ parts, part.testBit index = true := by
  induction parts with
  | nil => simp
  | cons first rest step => simp [Nat.testBit_or, step]

theorem and_two_pow_eq_self_iff {bits index : Nat} :
    bits &&& 2 ^ index = 2 ^ index ↔ bits.testBit index = true := by
  rw [Nat.and_two_pow]
  cases bits.testBit index with
  | false => simp [(Nat.two_pow_pos index).ne]
  | true => simp

namespace FlagSet

/-- A member is listed exactly if the set has its bit. -/
theorem mem_members_iff {flags : FlagSet} {name : String} {index : Nat}
    (owner : flags.type.memberNames[index]? = some name) :
    name ∈ flags.members ↔ flags.bits.testBit index = true := by
  simp only [members, List.mem_map, List.mem_filter, Prod.exists, List.mem_zipIdx_iff_getElem?]
  constructor
  · rintro ⟨_, other, ⟨again, present⟩, rfl⟩
    rw [FlagType.index_unique owner again]
    exact present
  · intro present
    exact ⟨name, index, ⟨owner, present⟩, rfl⟩

theorem members_sublist (flags : FlagSet) : flags.members.Sublist flags.type.memberNames := by
  have kept := (List.filter_sublist (l := flags.type.memberNames.zipIdx)
    (p := fun member => flags.bits.testBit member.2)).map Prod.fst
  rw [List.zipIdx_map_fst] at kept
  exact kept

theorem nodup_members (flags : FlagSet) : flags.members.Nodup :=
  flags.members_sublist.nodup flags.type.nodup_memberNames

theorem lists_members (flags : FlagSet) : flags.type.Lists flags.bits flags.members where
  ordered := flags.members_sublist
  distinct := flags.nodup_members
  exact := by
    intro name mask member
    obtain ⟨index, owner, rfl⟩ := FlagType.mem_members_iff.mp member
    rw [mem_members_iff owner, and_two_pow_eq_self_iff]

theorem testBit_unknownBits (flags : FlagSet) (index : Nat) :
    flags.unknownBits.testBit index =
      (decide (flags.type.memberNames.length ≤ index) && flags.bits.testBit index) := by
  rw [unknownBits, Nat.testBit_shiftLeft, Nat.testBit_shiftRight]
  by_cases above : flags.type.memberNames.length ≤ index
  · simp [above]
  · simp [above]

theorem isUnknown_unknownBits (flags : FlagSet) : flags.type.IsUnknown flags.unknownBits := by
  rintro ⟨name, mask⟩ member
  obtain ⟨index, owner, rfl⟩ := FlagType.mem_members_iff.mp member
  obtain ⟨below, _⟩ := List.getElem?_eq_some_iff.mp owner
  have absent : flags.unknownBits.testBit index = false := by
    rw [testBit_unknownBits]
    simp [below]
  rw [Nat.two_pow_and, absent]
  simp

theorem mem_masksOf_members_iff {flags : FlagSet} {mask : Nat} :
    mask ∈ flags.type.masksOf flags.members ↔
      ∃ index < flags.type.memberNames.length, flags.bits.testBit index = true ∧ mask = 2 ^ index := by
  simp only [FlagType.masksOf, List.mem_map, List.mem_filter, decide_eq_true_eq, Prod.exists]
  constructor
  · rintro ⟨name, _, ⟨member, listed⟩, rfl⟩
    obtain ⟨index, owner, rfl⟩ := FlagType.mem_members_iff.mp member
    obtain ⟨below, _⟩ := List.getElem?_eq_some_iff.mp owner
    exact ⟨index, below, (mem_members_iff owner).mp listed, rfl⟩
  · rintro ⟨index, below, present, rfl⟩
    have owner := List.getElem?_eq_getElem below
    exact ⟨_, _, ⟨FlagType.mem_members_iff.mpr ⟨index, owner, rfl⟩, (mem_members_iff owner).mpr present⟩,
      rfl⟩

theorem pairwise_masks (type : FlagType) :
    (type.members.map Prod.snd).Pairwise fun left right => left &&& right = 0 := by
  cases type <;> decide

/-- A mask is made of the bits of its members and of the bits that no member owns. -/
theorem disjointUnion_members (flags : FlagSet) :
    DisjointUnion (flags.unknownBits :: flags.type.masksOf flags.members) flags.bits where
  disjoint := by
    rw [List.pairwise_cons]
    constructor
    · intro mask member
      obtain ⟨⟨name, _⟩, found, rfl⟩ := List.mem_map.mp member
      rw [Nat.land_comm]
      exact flags.isUnknown_unknownBits _ (List.mem_filter.mp found).1
    · exact (pairwise_masks flags.type).sublist (List.filter_sublist.map Prod.snd)
  union := by
    apply Nat.eq_of_testBit_eq
    intro index
    rw [Bool.eq_iff_iff, testBit_foldr_or]
    simp only [List.mem_cons, exists_eq_or_imp, mem_masksOf_members_iff, testBit_unknownBits]
    constructor
    · rintro (unknown | ⟨_, ⟨other, _, present, rfl⟩, here⟩)
      · exact (Bool.and_eq_true_iff.mp unknown).2
      · rw [Nat.testBit_two_pow, decide_eq_true_eq] at here
        exact here ▸ present
    · intro present
      by_cases above : flags.type.memberNames.length ≤ index
      · exact .inl (by simp [above, present])
      · exact .inr ⟨2 ^ index, ⟨index, by omega, present, rfl⟩, Nat.testBit_two_pow_self⟩

/-- A mask that has been read as a flag set of one type is read as one of another type like before. -/
theorem ofValue_flags [Runtime] {type other : FlagType} {value : Value} {between : FlagSet}
    (read : ofValue other value = .ok between) :
    ofValue type (.flags between) = ofValue type value := by
  obtain ⟨mask, _, rfl⟩ := ofValue_eq_ok_iff.mp read
  rw [ofValue_of_isMask type mask]
  have again : (Value.flags ⟨other, value.maskBits⟩).IsMask := trivial
  exact ofValue_of_isMask type again

end FlagSet

end KeyProtection
