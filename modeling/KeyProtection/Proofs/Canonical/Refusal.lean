import Mathlib.Data.List.Perm.Basic
import KeyProtection.Proofs.Content
import KeyProtection.Proofs.Timestamp
import KeyProtection.Proofs.Writing
import KeyProtection.Proofs.Writing

/-! Values without a text. Times and contexts cannot be written, and neither can integers with too many
digits, so that a value in which one occurs has no text; the error is about the first of them in the
order in which the text would be written, and that order does not depend on the order of entries. -/

namespace KeyProtection

/-- A search among what many items expand to, item after item. -/
theorem findSome?_flatMap {α β γ : Type} {items : List α} {expand : α → List β}
    {check : β → Option γ} {direct : α → Option γ}
    (same : ∀ item ∈ items, direct item = (expand item).findSome? check) :
    items.findSome? direct = (items.flatMap expand).findSome? check := by
  induction items with
  | nil => rfl
  | cons item rest step =>
    have first := same item List.mem_cons_self
    have later := step fun other member => same other (List.mem_cons_of_mem item member)
    rw [findSome?_cons_or, List.flatMap_cons, List.findSome?_append, first, later]

/-- The error of a sequence of members is that of the first one that fails. -/
theorem errorOf?_sequenceMembers {α : Type} (results : List (String × Except Error α)) :
    errorOf? (sequenceMembers results) = results.findSome? fun entry => errorOf? entry.2 := by
  induction results with
  | nil => rfl
  | cons head rest step =>
    obtain ⟨key, result⟩ := head
    rw [sequenceMembers, findSome?_cons_or]
    apply errorOf?_bind rfl
    intro item
    rw [← step, ← Option.or_none (o := errorOf? (sequenceMembers rest))]
    exact errorOf?_bind rfl fun _ => rfl

namespace Value

section

variable [Runtime]

/-- What is said of a value that cannot be written, whatever it holds. -/
inductive RefusedWith : Value → Error → Prop
  | kind {value : Value} (unwritable : value.kind = .time ∨ value.kind = .context) :
    RefusedWith value (.notSerializable value.kind)
  | digits {value : Value} {number : Int} {limit : Nat} (integer : value.mask? = some number)
    (long : Runtime.exceeded? (digits number.natAbs).length = some limit) :
    RefusedWith value (.integerTooLong limit)

/-- The error about a value by itself. -/
def refusal? (value : Value) : Option Error :=
  if value.kind = .time ∨ value.kind = .context then some (.notSerializable value.kind)
  else value.mask?.bind fun number => errorOf? (Text.ofInteger number)

/-- A time, a context, or an integer with too many digits. -/
def IsUnwritable (value : Value) : Prop := (value.refusal?).isSome = true

instance : DecidablePred IsUnwritable := fun _ => inferInstanceAs (Decidable (_ = true))

end

mutual

/-- The parts of a value in the order of its text: a container before what it holds, items by their
places, and entries by the code points of their keys. -/
def walk : Value → List Value
  | .list items => .list items :: walkItems items
  | .dict entries => .dict entries :: (sortMembers (walkEntries entries)).flatMap Prod.snd
  | value => [value]

def walkItems : List Value → List Value
  | [] => []
  | item :: rest => item.walk ++ walkItems rest

def walkEntries : List (String × Value) → List (String × List Value)
  | [] => []
  | (key, value) :: rest => (key, value.walk) :: walkEntries rest

end

/-- The part cannot be written, and it is the first such part that a walk meets. -/
structure FirstUnwritable [Runtime] (value part : Value) : Prop where
  unwritable : part.IsUnwritable
  earlier : ∃ before after, value.walk = before ++ part :: after ∧
    ∀ other ∈ before, ¬ other.IsUnwritable

/-- What a value holds in the order of its text. -/
def orderedChildren : Value → List Value
  | .list items => items
  | .dict entries => (sortMembers entries).map Prod.snd
  | _ => []

theorem orderedChildren_perm (value : Value) : value.orderedChildren.Perm value.children := by
  cases value with
  | dict entries => exact (sortMembers_perm entries).map Prod.snd
  | _ => exact .refl _

theorem walkItems_eq_flatMap (items : List Value) : walkItems items = items.flatMap walk := by
  induction items with
  | nil => rfl
  | cons item rest step => rw [walkItems, List.flatMap_cons, step]

theorem walkEntries_eq_map (entries : List (String × Value)) :
    walkEntries entries = entries.map fun (key, value) => (key, value.walk) := by
  induction entries with
  | nil => rfl
  | cons entry rest step => rw [walkEntries, List.map_cons, step]

theorem walk_eq (value : Value) : value.walk = value :: value.orderedChildren.flatMap walk := by
  cases value with
  | list items => rw [walk, walkItems_eq_flatMap, orderedChildren]
  | dict entries =>
    rw [walk, walkEntries_eq_map, ← map_sortMembers walk, orderedChildren, List.flatMap_map,
      List.flatMap_map]
  | _ => rfl

/-- A walk meets every part as often as it occurs. -/
theorem walk_perm_parts (value : Value) : value.walk.Perm value.parts := by
  induction value using children_induction with
  | step value step =>
    rw [walk_eq, parts_eq]
    apply List.Perm.cons
    apply (orderedChildren_perm value).flatMap
    intro child member
    exact step child ((orderedChildren_perm value).mem_iff.mp member)

theorem mask?_of_kind {value : Value} (unwritable : value.kind = .time ∨ value.kind = .context) :
    value.mask? = none := by
  cases value <;> simp [kind, mask?, integer?] at unwritable ⊢

section

variable [Runtime]

theorem refusal?_eq_some_iff {value : Value} {error : Error} :
    value.refusal? = some error ↔ value.RefusedWith error := by
  rw [refusal?]
  constructor
  · intro refused
    split at refused
    · next unwritable => exact Option.some.inj refused ▸ .kind unwritable
    · obtain ⟨number, integer, failed⟩ := Option.bind_eq_some_iff.mp refused
      obtain ⟨limit, long, rfl⟩ := Text.ofInteger_eq_error_iff.mp (errorOf?_eq_some_iff.mp failed)
      exact .digits integer long
  · rintro (unwritable | ⟨integer, long⟩)
    · rw [if_pos unwritable]
    · have other : ¬ (value.kind = .time ∨ value.kind = .context) := fun unwritable => by
        simp [mask?_of_kind unwritable] at integer
      rw [if_neg other, integer, Option.bind_some, errorOf?_eq_some_iff]
      exact Text.ofInteger_eq_error_iff.mpr ⟨_, long, rfl⟩

theorem refusal?_eq_none_iff {value : Value} :
    value.refusal? = none ↔
      (value.kind ≠ .time ∧ value.kind ≠ .context) ∧ ∀ number ∈ value.mask?, Text.Writable number := by
  rw [refusal?]
  split
  · next unwritable =>
    simp only [reduceCtorEq, false_iff, not_and]
    rintro ⟨noTime, noContext⟩
    exact absurd unwritable (not_or.mpr ⟨noTime, noContext⟩)
  · next other =>
    rw [Option.bind_eq_none_iff, and_iff_right (not_or.mp other)]
    refine forall₂_congr fun number _ => ?_
    simp [errorOf?_eq_none_iff, Text.ofInteger_eq_ok_iff]

/-- A value can be written if this is so of each part by itself. -/
theorem serializable_iff {value : Value} :
    value.Serializable ↔ value.Everywhere fun part => part.refusal? = none := by
  simp only [Serializable, Plain, Writable, Everywhere, refusal?_eq_none_iff, forall_and]

theorem serializable_iff_plain {value : Value} (unbounded : Runtime.digitLimit = none) :
    value.Serializable ↔ value.Plain :=
  and_iff_left fun _ _ _ _ => Runtime.allows_of_unbounded unbounded _

theorem errorOf?_itemsToJson (items : List Value) :
    errorOf? (itemsToJson items) = items.findSome? fun item => errorOf? item.toJson := by
  induction items with
  | nil => rfl
  | cons item rest step =>
    rw [itemsToJson, findSome?_cons_or]
    apply errorOf?_bind rfl
    intro json
    rw [← step, ← Option.or_none (o := errorOf? (itemsToJson rest))]
    exact errorOf?_bind rfl fun _ => rfl

/-- A value fails by itself, or as the first of what it holds that fails. -/
theorem errorOf?_toJson_children (value : Value) :
    errorOf? value.toJson =
      value.refusal?.or (value.orderedChildren.findSome? fun child => errorOf? child.toJson) := by
  cases value with
  | list items =>
    rw [toJson, errorOf?_map, errorOf?_itemsToJson]
    rfl
  | dict entries =>
    rw [toJson, errorOf?_map, errorOf?_sequenceMembers, entriesToJson_eq_map,
      ← map_sortMembers toJson, List.findSome?_map, orderedChildren, List.findSome?_map]
    rfl
  | int number => simp [toJson, errorOf?_map, refusal?, kind, mask?, integer?, orderedChildren]
  | flags set => simp [toJson, errorOf?_map, refusal?, kind, mask?, integer?, orderedChildren]
  | _ => rfl

/-- The error of a value is about the first part on the walk that cannot be written. -/
theorem errorOf?_toJson (value : Value) : errorOf? value.toJson = value.walk.findSome? refusal? := by
  induction value using children_induction with
  | step value step =>
    rw [errorOf?_toJson_children, walk_eq, findSome?_cons_or]
    congr 1
    apply findSome?_flatMap
    intro child member
    exact step child ((orderedChildren_perm value).mem_iff.mp member)

theorem exists_canonicalText_iff (value : Value) :
    (∃ text, value.canonicalText = .ok text) ↔ value.Serializable := by
  rw [canonicalText, exists_map_eq_ok_iff, ← errorOf?_eq_none_iff, errorOf?_toJson,
    List.findSome?_eq_none_iff, serializable_iff, Everywhere]
  simp only [(walk_perm_parts value).mem_iff]

theorem canonicalText_eq_error_iff (value : Value) (error : Error) :
    value.canonicalText = .error error ↔
      ∃ part, value.FirstUnwritable part ∧ part.RefusedWith error := by
  rw [canonicalText, map_eq_error_iff, ← errorOf?_eq_some_iff, errorOf?_toJson,
    List.findSome?_eq_some_iff]
  constructor
  · rintro ⟨before, part, after, order, refused, earlier⟩
    refine ⟨part, ⟨Option.isSome_of_eq_some refused, before, after, order, fun other member => ?_⟩,
      refusal?_eq_some_iff.mp refused⟩
    simp [IsUnwritable, earlier other member]
  · rintro ⟨part, ⟨unwritable, before, after, order, earlier⟩, refused⟩
    refine ⟨before, part, after, order, refusal?_eq_some_iff.mpr refused, fun other member => ?_⟩
    simpa [IsUnwritable] using earlier other member

/-- Without times and contexts only the bound on digits can prevent a text. -/
theorem writesIf_canonicalText {value : Value} (plain : value.Plain) :
    WritesIf value.Writable value.canonicalText where
  made writable := (exists_canonicalText_iff value).mpr ⟨plain, writable⟩
  refused long := by
    cases written : value.canonicalText with
    | ok text => exact absurd ((exists_canonicalText_iff value).mp ⟨text, written⟩).2 long
    | error error =>
      obtain ⟨part, first, refused⟩ := (canonicalText_eq_error_iff value error).mp written
      obtain ⟨before, after, order, _⟩ := first.earlier
      have inside : part ∈ value.parts := (walk_perm_parts value).mem_iff.mp (by simp [order])
      cases refused with
      | kind unwritable => exact absurd unwritable (not_or.mpr (plain part inside))
      | digits integer long => exact ⟨_, (Runtime.exceeded?_eq_some_iff.mp long).1, rfl⟩

end

end Value

end KeyProtection
