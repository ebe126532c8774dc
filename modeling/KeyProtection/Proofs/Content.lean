import Mathlib.Data.String.Basic
import KeyProtection.Proofs.Canonical

/-! What values hold. The parts of a value are the value and all that its lists and dictionaries hold;
two values have the same content if they differ only in the order of entries and in how masks are
typed. The canonical text is a function of the content, as long as no key is there twice. -/

namespace KeyProtection

theorem eq_of_mem_zip_self {α : Type} {items : List α} {pair : α × α}
    (member : pair ∈ items.zip items) : pair.1 ∈ items ∧ pair.2 = pair.1 := by
  rw [List.zip_eq_zipWith, List.zipWith_self] at member
  obtain ⟨item, inside, rfl⟩ := List.mem_map.mp member
  exact ⟨inside, rfl⟩

namespace Value

/-- What a list or a dictionary holds. -/
def children : Value → List Value
  | .list items => items
  | .dict entries => entries.map Prod.snd
  | _ => []

def keys : Value → List String
  | .dict entries => entries.map Prod.fst
  | _ => []

mutual

/-- The value itself and everything that lists and dictionaries in it hold, at any depth. -/
def parts : Value → List Value
  | .list items => .list items :: itemParts items
  | .dict entries => .dict entries :: entryParts entries
  | value => [value]

def itemParts : List Value → List Value
  | [] => []
  | item :: rest => item.parts ++ itemParts rest

def entryParts : List (String × Value) → List Value
  | [] => []
  | (_, value) :: rest => value.parts ++ entryParts rest

end

/-- The condition holds of all parts. -/
def Everywhere (holds : Value → Prop) (value : Value) : Prop := ∀ part ∈ value.parts, holds part

/-- Neither a time nor a context is among the parts. -/
def Plain : Value → Prop := Everywhere fun part => part.kind ≠ .time ∧ part.kind ≠ .context

/-- No integer and no mask of a flag set among the parts has more digits than are written. -/
def Writable [Runtime] : Value → Prop := Everywhere fun part => ∀ number ∈ part.mask?, Text.Writable number

def Serializable [Runtime] (value : Value) : Prop := value.Plain ∧ value.Writable

/-- No dictionary among the parts has a key twice. -/
def DistinctKeys : Value → Prop := Everywhere fun part => part.keys.Nodup

instance : DecidablePred Plain := fun value =>
  inferInstanceAs (Decidable (∀ part ∈ value.parts, part.kind ≠ .time ∧ part.kind ≠ .context))

instance [Runtime] : DecidablePred Writable := fun value =>
  inferInstanceAs (Decidable (∀ part ∈ value.parts, ∀ number ∈ part.mask?, Text.Writable number))

instance [Runtime] : DecidablePred Serializable := fun value =>
  inferInstanceAs (Decidable (value.Plain ∧ value.Writable))

instance : DecidablePred DistinctKeys := fun value =>
  inferInstanceAs (Decidable (∀ part ∈ value.parts, part.keys.Nodup))

/-- The keys of each dictionary among the parts stand in strictly increasing order. -/
def IncreasingKeys : Value → Prop := Everywhere fun part => part.keys.Pairwise (· < ·)

/-- No flag set is among the parts. -/
def FreeOfFlags : Value → Prop := Everywhere fun part => ∀ type, part.kind ≠ .flags type

/-- The second value is the first with the entries of dictionaries in any order, at any depth, and with
flag sets replaced by flag sets or integers of the same bits. Undefined numbers are all alike. -/
inductive SameContent : Value → Value → Prop
  | null : SameContent .null .null
  | bool (truth : Bool) : SameContent (.bool truth) (.bool truth)
  | int (number : Int) : SameContent (.int number) (.int number)
  | float (number : Floating) : SameContent (.float number) (.float number)
  | nan (first second : Nat) : SameContent (.float (.nan first)) (.float (.nan second))
  | text (content : String) : SameContent (.text content) (.text content)
  | retyped {set other : FlagSet} (bits : set.bits = other.bits) :
    SameContent (.flags set) (.flags other)
  | untyped (set : FlagSet) : SameContent (.flags set) (.int set.bits)
  | time (moment : DateTime) : SameContent (.time moment) (.time moment)
  | context (label : Value) : SameContent (.context label) (.context label)
  | list {items others : List Value} (length : items.length = others.length)
    (alike : ∀ pair ∈ items.zip others, SameContent pair.1 pair.2) :
    SameContent (.list items) (.list others)
  | dict {entries changed others : List (String × Value)}
    (keys : entries.map Prod.fst = changed.map Prod.fst)
    (alike : ∀ pair ∈ entries.zip changed, SameContent pair.1.2 pair.2.2)
    (reordered : changed.Perm others) : SameContent (.dict entries) (.dict others)

theorem sizeOf_lt_of_mem_children {child value : Value} (member : child ∈ value.children) :
    sizeOf child < sizeOf value := by
  cases value with
  | list items =>
    have smaller : sizeOf child < sizeOf items := List.sizeOf_lt_of_mem member
    simp only [list.sizeOf_spec]
    omega
  | dict entries =>
    obtain ⟨⟨key, found⟩, listed, rfl⟩ := List.mem_map.mp member
    have smaller := List.sizeOf_lt_of_mem listed
    simp only [Prod.mk.sizeOf_spec] at smaller
    simp only [dict.sizeOf_spec]
    omega
  | _ => cases member

/-- What holds of a value as soon as it holds of its children holds of all values. -/
@[elab_as_elim]
theorem children_induction {motive : Value → Prop}
    (step : ∀ value, (∀ child ∈ value.children, motive child) → motive value) (value : Value) :
    motive value :=
  step value fun child _ => children_induction step child
termination_by sizeOf value
decreasing_by exact sizeOf_lt_of_mem_children ‹_›

theorem SameContent.refl (value : Value) : value.SameContent value := by
  induction value using children_induction with
  | step value step =>
    cases value with
    | list items =>
      refine .list rfl ?_
      intro pair member
      obtain ⟨inside, same⟩ := eq_of_mem_zip_self member
      exact same ▸ step pair.1 inside
    | dict entries =>
      refine .dict rfl ?_ (.refl entries)
      intro pair member
      obtain ⟨inside, same⟩ := eq_of_mem_zip_self member
      exact same ▸ step pair.1.2 (List.mem_map_of_mem inside)
    | float number => exact .float number
    | flags set => exact .retyped rfl
    | null => exact .null
    | bool truth => exact .bool truth
    | int number => exact .int number
    | text content => exact .text content
    | time moment => exact .time moment
    | context label => exact .context label

/-- Entries in another order have the same content. -/
theorem SameContent.reordered {entries others : List (String × Value)}
    (reordered : entries.Perm others) : (Value.dict entries).SameContent (.dict others) := by
  refine .dict rfl ?_ reordered
  intro pair member
  obtain ⟨_, same⟩ := eq_of_mem_zip_self member
  exact same ▸ .refl pair.1.2

theorem itemParts_eq_flatMap (items : List Value) : itemParts items = items.flatMap parts := by
  induction items with
  | nil => rfl
  | cons item rest step => rw [itemParts, List.flatMap_cons, step]

theorem entryParts_eq_flatMap (entries : List (String × Value)) :
    entryParts entries = (entries.map Prod.snd).flatMap parts := by
  induction entries with
  | nil => rfl
  | cons entry rest step => rw [entryParts, List.map_cons, List.flatMap_cons, step]

theorem parts_eq (value : Value) : value.parts = value :: value.children.flatMap parts := by
  cases value with
  | list items => rw [parts, itemParts_eq_flatMap, children]
  | dict entries => rw [parts, entryParts_eq_flatMap, children]
  | _ => rfl

/-- A condition holds everywhere in a value if it holds of the value and everywhere in its children. -/
theorem everywhere_iff {holds : Value → Prop} {value : Value} :
    value.Everywhere holds ↔ holds value ∧ ∀ child ∈ value.children, child.Everywhere holds := by
  simp only [Everywhere, parts_eq value, List.forall_mem_cons, List.mem_flatMap]
  constructor
  · rintro ⟨self, inside⟩
    exact ⟨self, fun child member part found => inside part ⟨child, member, found⟩⟩
  · rintro ⟨self, inside⟩
    exact ⟨self, fun part ⟨child, member, found⟩ => inside child member part found⟩

theorem Everywhere.child {holds : Value → Prop} {value child : Value}
    (everywhere : value.Everywhere holds) (member : child ∈ value.children) :
    child.Everywhere holds :=
  (everywhere_iff.mp everywhere).2 child member

end Value

theorem sortMembers_strict {α : Type} {members : List (String × α)}
    (distinct : (members.map Prod.fst).Nodup) :
    (sortMembers members).Pairwise fun left right => left.1 < right.1 := by
  have sorted := sortMembers_pairwise members
  have different : (sortMembers members).Pairwise fun left right => left.1 ≠ right.1 := by
    rw [← List.pairwise_map]
    exact ((sortMembers_perm members).map Prod.fst).nodup_iff.mpr distinct
  exact (sorted.and different).imp fun order => lt_of_le_of_ne order.1 order.2

/-- Where no key is there twice, sorting forgets the order. -/
theorem sortMembers_eq_of_perm {α : Type} {members others : List (String × α)}
    (reordered : members.Perm others) (distinct : (members.map Prod.fst).Nodup) :
    sortMembers members = sortMembers others := by
  have distinctToo := (reordered.map Prod.fst).nodup_iff.mp distinct
  have same : (sortMembers members).Perm (sortMembers others) :=
    (sortMembers_perm members).trans (reordered.trans (sortMembers_perm others).symm)
  apply List.Perm.eq_of_pairwise _ (sortMembers_strict distinct) (sortMembers_strict distinctToo) same
  intro left right _ _ before after
  exact absurd before (lt_asymm after)

/-- Two lists have one image if they are of one length and agree position by position. -/
theorem map_eq_map_iff {α β : Type} {change : α → β} {items others : List α} :
    items.map change = others.map change ↔
      items.length = others.length ∧
        ∀ pair ∈ items.zip others, change pair.1 = change pair.2 := by
  induction items generalizing others with
  | nil =>
    cases others with
    | nil => simp
    | cons other more => simp
  | cons item rest step =>
    cases others with
    | nil => simp
    | cons other more =>
      simp only [List.map_cons, List.cons.injEq, List.length_cons, Nat.succ.injEq,
        List.zip_cons_cons, List.forall_mem_cons, step]
      exact and_left_comm

namespace Value

theorem itemsToJson_eq_mapM [Runtime] (items : List Value) :
    itemsToJson items = (items.map toJson).mapM id := by
  induction items with
  | nil => rfl
  | cons item rest step =>
    rw [itemsToJson, List.map_cons, List.mapM_cons, step]
    rfl

theorem entriesToJson_eq_map [Runtime] (entries : List (String × Value)) :
    entriesToJson entries = entries.map fun entry => (entry.1, entry.2.toJson) := by
  induction entries with
  | nil => rfl
  | cons entry rest step => rw [entriesToJson, List.map_cons, step]

/-- The document of a value, or the reason why there is none, is that of its content. -/
theorem SameContent.toJson_eq [Runtime] {value other : Value} (same : value.SameContent other)
    (distinct : value.DistinctKeys) : value.toJson = other.toJson := by
  induction same with
  | @list items others length alike step =>
    have written : items.map toJson = others.map toJson := by
      refine map_eq_map_iff.mpr ⟨length, ?_⟩
      intro pair member
      exact step pair member (Everywhere.child distinct (List.of_mem_zip member).1)
    rw [toJson, toJson, itemsToJson_eq_mapM, itemsToJson_eq_mapM, written]
  | @dict entries changed others keys alike reordered step =>
    obtain ⟨length, sameKeys⟩ := map_eq_map_iff.mp keys
    have written : entriesToJson entries = entriesToJson changed := by
      rw [entriesToJson_eq_map, entriesToJson_eq_map]
      refine map_eq_map_iff.mpr ⟨length, ?_⟩
      intro pair member
      have child : pair.1.2 ∈ (Value.dict entries).children :=
        List.mem_map_of_mem (List.of_mem_zip member).1
      rw [sameKeys pair member, step pair member (Everywhere.child distinct child)]
    have distinctKeys : ((entriesToJson changed).map Prod.fst).Nodup := by
      have self : (entries.map Prod.fst).Nodup := (everywhere_iff.mp distinct).1
      rw [entriesToJson_eq_map, List.map_map]
      exact keys ▸ self
    have sorted : sortMembers (entriesToJson changed) = sortMembers (entriesToJson others) := by
      apply sortMembers_eq_of_perm _ distinctKeys
      rw [entriesToJson_eq_map, entriesToJson_eq_map]
      exact reordered.map _
    rw [toJson, toJson, written, sorted]
  | retyped bits => rw [toJson, toJson, bits]
  | _ => rfl

theorem SameContent.canonicalText_eq [Runtime] {value other : Value} (same : value.SameContent other)
    (distinct : value.DistinctKeys) : value.canonicalText = other.canonicalText := by
  rw [canonicalText, canonicalText, same.toJson_eq distinct]

end Value

end KeyProtection
