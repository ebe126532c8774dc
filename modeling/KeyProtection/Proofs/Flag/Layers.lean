import KeyProtection.Proofs.Flag

/-! Bitwise operations. The result goes into all layers of both operands: the outermost gives it its type,
the innermost decides what becomes of a negative integer, and it is there if every layer can name it. -/

namespace KeyProtection

/-- What is in common with a natural number is one, and has no other bits. -/
theorem Bits.exists_and_natCast (bits : Nat) (number : Int) : ∃ common : Nat,
    and bits number = common ∧ and number bits = common ∧
      ∀ index, common.testBit index = true → bits.testBit index = true ∧ test number index = true := by
  have found : ∃ common : Nat, and bits number = common ∧ and number bits = common := by
    cases number with
    | ofNat other => exact ⟨bits &&& other, rfl, congrArg Int.ofNat (Nat.and_comm other bits)⟩
    | negSucc below => exact ⟨bits ^^^ (bits &&& below), rfl, congrArg Int.ofNat (by rw [Nat.and_comm below])⟩
  obtain ⟨common, left, right⟩ := found
  refine ⟨common, left, right, fun index present => ?_⟩
  have meet := test_and bits number index
  rw [left, test_natCast, test_natCast, present] at meet
  simpa using meet.symm

namespace FlagSet

variable {type : FlagType} {bits part : Nat}

theorem members_eq_nil_of_part (none : members ⟨type, bits⟩ = [])
    (included : ∀ index, part.testBit index = true → bits.testBit index = true) :
    members ⟨type, part⟩ = [] := by
  apply List.eq_nil_iff_forall_not_mem.mpr
  intro name listed
  obtain ⟨index, owner⟩ := List.mem_iff_getElem?.mp ((members_sublist _).subset listed)
  have present : part.testBit index = true := (mem_members_iff owner).mp listed
  have ownerToo : (FlagSet.mk type bits).type.memberNames[index]? = some name := owner
  have whole := (mem_members_iff ownerToo).mpr (included index present)
  rw [none] at whole
  cases whole

theorem unknownBits_le_of_part
    (included : ∀ index, part.testBit index = true → bits.testBit index = true) :
    unknownBits ⟨type, part⟩ ≤ unknownBits ⟨type, bits⟩ := by
  have common : unknownBits ⟨type, part⟩ &&& unknownBits ⟨type, bits⟩ = unknownBits ⟨type, part⟩ := by
    apply Nat.eq_of_testBit_eq
    intro index
    rw [Nat.testBit_and, testBit_unknownBits, testBit_unknownBits]
    cases present : part.testBit index with
    | false => simp
    | true => simp [included index present]
  rw [← common]
  exact Nat.and_le_right

/-- A part of a flag set that can be named can be named too. -/
theorem Nameable.of_part [Runtime] (nameable : Nameable ⟨type, bits⟩)
    (included : ∀ index, part.testBit index = true → bits.testBit index = true) :
    Nameable ⟨type, part⟩ := by
  have fewer : unknownBits ⟨type, part⟩ ≤ unknownBits ⟨type, bits⟩ := unknownBits_le_of_part included
  rcases nameable with (none | known) | writable
  · exact .inl (.inl (members_eq_nil_of_part none included))
  · exact .inl (.inr (Nat.le_zero.mp (known ▸ fewer)))
  · exact .inr (writable.mono fewer)

end FlagSet

namespace Value

/-- The mask that layers make of an integer, which is up to the innermost of them. -/
def maskInside (layers : List FlagType) (number : Int) : Int :=
  match layers.getLast? with
  | some type => FlagSet.maskOf type number
  | none => number

/-- What an integer is inside layers. -/
def inside (layers : List FlagType) (number : Int) : Value :=
  match layers with
  | [] => .int number
  | type :: _ => .flags ⟨type, (maskInside layers number).toNat⟩

theorem maskInside_natCast (layers : List FlagType) (bits : Nat) : maskInside layers bits = bits := by
  rw [maskInside]
  split
  · rfl
  · rfl

theorem maskInside_cons_cons (type next : FlagType) (rest : List FlagType) (number : Int) :
    maskInside (type :: next :: rest) number = maskInside (next :: rest) number := by
  rw [maskInside, maskInside, List.getLast?_cons_cons]

/-- As soon as there is a layer the mask is not negative. -/
theorem exists_maskInside (type : FlagType) (rest : List FlagType) (number : Int) :
    ∃ bits : Nat, maskInside (type :: rest) number = bits := by
  rw [maskInside, List.getLast?_cons]
  exact ⟨_, rfl⟩

theorem mask?_inside (layers : List FlagType) (number : Int) :
    (inside layers number).mask? = some (maskInside layers number) := by
  cases layers with
  | nil => rfl
  | cons type rest =>
    obtain ⟨bits, same⟩ := exists_maskInside type rest number
    simp only [inside, mask?, integer?, same, Int.toNat_natCast]

theorem inside_natCast (type : FlagType) (rest : List FlagType) (bits : Nat) :
    inside (type :: rest) bits = .flags ⟨type, bits⟩ := by
  rw [inside, maskInside_natCast, Int.toNat_natCast]

/-- One more layer outside makes no other mask of what is inside the others. -/
theorem maskOf_inside (type : FlagType) (rest : List FlagType) (number : Int) :
    FlagSet.maskOf type ((inside rest number).integer?.getD 0) =
      (maskInside (type :: rest) number).toNat := by
  cases rest with
  | nil => rfl
  | cons next more =>
    obtain ⟨bits, same⟩ := exists_maskInside next more number
    rw [maskInside_cons_cons, same, inside, same]
    rfl

section

variable [Runtime]

/-- Every layer can name the mask that they make of an integer. -/
def NameableIn (layers : List FlagType) (number : Int) : Prop :=
  ∀ type ∈ layers, FlagSet.Nameable ⟨type, (maskInside layers number).toNat⟩

instance (layers : List FlagType) (number : Int) : Decidable (NameableIn layers number) :=
  inferInstanceAs (Decidable (∀ type ∈ layers, _))

/-- The value is one that has been made: every layer of it can name its mask. -/
def IsMade (holdings : Holdings) (value : Value) : Prop :=
  ∀ type ∈ value.layers holdings, FlagSet.Nameable ⟨type, value.maskBits⟩

instance (holdings : Holdings) (value : Value) : Decidable (IsMade holdings value) :=
  inferInstanceAs (Decidable (∀ type ∈ _, _))

/-- An integer is made into what it is inside the layers, or the bound on digits is in the way. -/
theorem layered_spec (layers : List FlagType) (number : Int) :
    WritesIf (NameableIn layers number) (layered layers number) ∧
      ∀ value, layered layers number = .ok value → inside layers number = value := by
  induction layers with
  | nil =>
    refine ⟨(writesIf_ok _).congr (iff_of_true trivial nofun), ?_⟩
    rintro value ⟨rfl⟩
    rfl
  | cons type rest step =>
    obtain ⟨writes, only⟩ := step
    have set (held : Value) (made : layered rest number = .ok held) :
        FlagSet.ofInt type (held.integer?.getD 0) =
          FlagSet.named ⟨type, (maskInside (type :: rest) number).toNat⟩ := by
      obtain rfl := only held made
      rw [FlagSet.ofInt, maskOf_inside]
    constructor
    · have outer : WritesIf (NameableIn rest number ∧
          FlagSet.Nameable ⟨type, (maskInside (type :: rest) number).toNat⟩)
          (layered (type :: rest) number) := by
        rw [layered]
        refine (writes.bind fun held made => ?_)
        rw [set held made]
        exact (FlagSet.writesIf_named _).map _
      apply outer.congr
      cases rest with
      | nil => simp [NameableIn]
      | cons next more =>
        simp only [NameableIn, maskInside_cons_cons, List.forall_mem_cons]
        tauto
    · intro value made
      rw [layered] at made
      obtain ⟨held, found, again⟩ := bind_eq_ok_iff.mp made
      rw [set held found] at again
      obtain ⟨flags, named, same⟩ := bind_eq_ok_iff.mp again
      obtain rfl := FlagSet.eq_of_named named
      exact Except.ok.inj same

variable (holdings : Holdings) {left right : Value} {number other : Int}

theorem bitwise_of_mask? (sign : Char) (operation : Int → Int → Int) (first : left.mask? = some number)
    (second : right.mask? = some other) :
    bitwise holdings sign operation left right =
      layered (left.layers holdings ++ right.layers holdings) (operation number other) := by
  rcases mask?_eq_some_iff.mp first with rfl | ⟨set, rfl, rfl⟩
  · rcases mask?_eq_some_iff.mp second with rfl | ⟨part, rfl, rfl⟩
    · rfl
    · rfl
  · rcases mask?_eq_some_iff.mp second with rfl | ⟨part, rfl, rfl⟩
    · rfl
    · rfl

/-- The result of an operation on masks is there if all layers can name it. -/
theorem writesIf_bitwise (sign : Char) (operation : Int → Int → Int) (first : left.mask? = some number)
    (second : right.mask? = some other) :
    WritesIf (NameableIn (left.layers holdings ++ right.layers holdings) (operation number other))
      (bitwise holdings sign operation left right) := by
  rw [bitwise_of_mask? holdings sign operation first second]
  exact (layered_spec _ _).1

theorem inside_of_bitwise {sign : Char} {operation : Int → Int → Int} {result : Value}
    (first : left.mask? = some number) (second : right.mask? = some other)
    (made : bitwise holdings sign operation left right = .ok result) :
    inside (left.layers holdings ++ right.layers holdings) (operation number other) = result := by
  rw [bitwise_of_mask? holdings sign operation first second] at made
  exact (layered_spec _ _).2 result made

/-- What two values have in common can be named wherever they can. -/
theorem nameableIn_and (first : left.mask? = some number) (second : right.mask? = some other)
    (made : left.IsMade holdings) (madeToo : right.IsMade holdings) :
    NameableIn (left.layers holdings ++ right.layers holdings) (Bits.and number other) := by
  intro type member
  rcases List.mem_append.mp member with outer | inner
  · rcases mask?_eq_some_iff.mp first with rfl | ⟨set, rfl, rfl⟩
    · cases outer
    · obtain ⟨common, same, _, included⟩ := Bits.exists_and_natCast set.bits other
      rw [same, maskInside_natCast, Int.toNat_natCast]
      exact (made type outer).of_part fun index present => (included index present).1
  · rcases mask?_eq_some_iff.mp second with rfl | ⟨set, rfl, rfl⟩
    · cases inner
    · obtain ⟨common, _, same, included⟩ := Bits.exists_and_natCast set.bits number
      rw [same, maskInside_natCast, Int.toNat_natCast]
      exact (madeToo type inner).of_part fun index present => (included index present).1

theorem exists_and (first : left.mask? = some number) (second : right.mask? = some other)
    (made : left.IsMade holdings) (madeToo : right.IsMade holdings) :
    ∃ common, left.and holdings right = .ok common :=
  (writesIf_bitwise holdings '&' Bits.and first second).made
    (nameableIn_and holdings first second made madeToo)

end

end Value

end KeyProtection
