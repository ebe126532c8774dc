import KeyProtection.Canonical
import KeyProtection.Proofs.Json.Read

/-! Canonical texts read back. The text of a value is the text of one document, and the value that
this document stands for is the value written, with its entries sorted and its flag sets read as
integers. -/

namespace KeyProtection

mutual

/-- The value that a document stands for. -/
def Json.value : Json → Value
  | .atom .null => .null
  | .atom (.bool truth) => .bool truth
  | .atom (.int number) => .int number
  | .atom (.decimal number) => .float (.finite number)
  | .atom (.infinite negative) => .float (.infinite negative)
  | .atom .nan => .float (.nan 0)
  | .atom (.text content) => .text content
  | .array items => .list (itemValues items)
  | .object members => .dict (memberValues members)

def Json.itemValues : List Json → List Value
  | [] => []
  | item :: rest => item.value :: itemValues rest

def Json.memberValues : List (String × Json) → List (String × Value)
  | [] => []
  | (key, item) :: rest => (key, item.value) :: memberValues rest

end

mutual

/-- A value with the entries of all its dictionaries in the order of their keys, and with what a text
does not tell apart made one: flag sets are integers, and undefined numbers the same. -/
def Value.settled : Value → Value
  | .null => .null
  | .bool truth => .bool truth
  | .int number => .int number
  | .float (.finite number) => .float (.finite number)
  | .float (.infinite negative) => .float (.infinite negative)
  | .float (.nan _) => .float (.nan 0)
  | .text content => .text content
  | .flags set => .int set.bits
  | .time moment => .time moment
  | .context label => .context label
  | .list items => .list (settledItems items)
  | .dict entries => .dict (sortMembers (settledEntries entries))

def Value.settledItems : List Value → List Value
  | [] => []
  | item :: rest => item.settled :: settledItems rest

def Value.settledEntries : List (String × Value) → List (String × Value)
  | [] => []
  | (key, value) :: rest => (key, value.settled) :: settledEntries rest

end

theorem Json.memberValues_eq_map (members : List (String × Json)) :
    memberValues members = members.map fun (key, item) => (key, item.value) := by
  induction members with
  | nil => rfl
  | cons member rest step => rw [memberValues, List.map_cons, step]

theorem Value.settledEntries_eq_map (entries : List (String × Value)) :
    settledEntries entries = entries.map fun (key, value) => (key, value.settled) := by
  induction entries with
  | nil => rfl
  | cons entry rest step => rw [settledEntries, List.map_cons, step]

/-- Sorting goes by the keys alone. -/
theorem map_sortMembers {α β : Type} (change : α → β) (members : List (String × α)) :
    (sortMembers members).map (fun (key, item) => (key, change item)) =
      sortMembers (members.map fun (key, item) => (key, change item)) :=
  List.map_mergeSort fun _ _ _ _ => rfl

/-- A sequence of results is the list of what they hold, where none of them is an error. -/
theorem sequenceMembers_eq_ok_iff {α : Type} (results : List (String × Except Error α))
    (members : List (String × α)) :
    sequenceMembers results = .ok members ↔
      results = members.map fun (key, item) => (key, .ok item) := by
  induction results generalizing members with
  | nil =>
    cases members with
    | nil => simp [sequenceMembers]
    | cons member others => simp [sequenceMembers]
  | cons head rest step =>
    obtain ⟨key, result⟩ := head
    cases result with
    | error error =>
      cases members with
      | nil => simp [sequenceMembers, bind, Except.bind]
      | cons member others => simp [sequenceMembers, bind, Except.bind]
    | ok item =>
      constructor
      · intro sequenced
        cases found : sequenceMembers rest with
        | error error => simp [sequenceMembers, found, bind, Except.bind] at sequenced
        | ok others =>
          have same : (key, item) :: others = members := by
            simpa [sequenceMembers, found, bind, Except.bind, pure, Except.pure] using sequenced
          rw [← same, List.map_cons, (step others).mp found]
      · intro listed
        cases members with
        | nil => cases listed
        | cons member others =>
          obtain ⟨first, later⟩ := List.cons.inj listed
          have found := (step others).mpr later
          obtain ⟨rfl, same⟩ := Prod.mk.inj first
          obtain rfl := Except.ok.inj same
          simp [sequenceMembers, found, bind, Except.bind, pure, Except.pure]

/-- What the result of writing a value stands for. -/
def writtenValue : Except Error Json → Value
  | .ok json => json.value
  | .error _ => .null

/-- The members of a written dictionary stand for its entries, sorted. -/
theorem memberValues_of_sequence [Runtime] {entries : List (String × Value)} {members : List (String × Json)}
    (sequenced : sequenceMembers (sortMembers (Value.entriesToJson entries)) = .ok members)
    (written : (∀ entry ∈ Value.entriesToJson entries, ∃ json, entry.2 = .ok json) →
      (Value.entriesToJson entries).map (fun (key, result) => (key, writtenValue result)) =
        Value.settledEntries entries) :
    Json.memberValues members = sortMembers (Value.settledEntries entries) := by
  have listed := (sequenceMembers_eq_ok_iff _ _).mp sequenced
  have fine : ∀ entry ∈ Value.entriesToJson entries, ∃ json, entry.2 = .ok json := by
    intro entry member
    have sorted := (sortMembers_perm _).mem_iff.mpr member
    rw [listed] at sorted
    obtain ⟨found, _, rfl⟩ := List.mem_map.mp sorted
    exact ⟨found.2, rfl⟩
  calc
    Json.memberValues members =
        (members.map fun (key, item) => (key, (.ok item : Except Error Json))).map
          fun (key, result) => (key, writtenValue result) := by
      rw [Json.memberValues_eq_map, List.map_map]
      rfl
    _ = (sortMembers (Value.entriesToJson entries)).map
          fun (key, result) => (key, writtenValue result) := by rw [listed]
    _ = sortMembers (Value.settledEntries entries) := by rw [map_sortMembers, written fine]

variable [Runtime]

/-- An integer is written as it is. -/
theorem eq_int_of_written {number : Int} {json : Json}
    (written : ((Text.ofInteger number).map fun _ => Json.int number) = .ok json) :
    json = Json.int number := by
  cases shown : Text.ofInteger number with
  | error error => simp [shown, Except.map] at written
  | ok digits => simpa [shown, Except.map] using written.symm

mutual

/-- The document written for a value stands for that value, settled. -/
theorem value_of_toJson : (value : Value) → (json : Json) → value.toJson = .ok json →
    json.value = value.settled
  | .null, _, rfl => rfl
  | .bool _, _, rfl => rfl
  | .int _, _, written => eq_int_of_written written ▸ rfl
  | .float (.finite _), _, rfl => rfl
  | .float (.infinite _), _, rfl => rfl
  | .float (.nan _), _, rfl => rfl
  | .text _, _, rfl => rfl
  | .flags _, _, written => eq_int_of_written written ▸ rfl
  | .list items, json, written => by
    rw [Value.toJson] at written
    cases found : Value.itemsToJson items with
    | error error => simp [found, Except.map] at written
    | ok jsons =>
      have same : json = .array jsons := by simpa [found, Except.map] using written.symm
      rw [same, Json.value, Value.settled, itemValues_of_itemsToJson items jsons found]
  | .dict entries, json, written => by
    rw [Value.toJson] at written
    cases found : sequenceMembers (sortMembers (Value.entriesToJson entries)) with
    | error error => simp [found, Except.map] at written
    | ok members =>
      have same : json = .object members := by simpa [found, Except.map] using written.symm
      rw [same, Json.value, Value.settled,
        memberValues_of_sequence found (settledEntries_of_entriesToJson entries)]

theorem itemValues_of_itemsToJson : (items : List Value) → (jsons : List Json) →
    Value.itemsToJson items = .ok jsons → Json.itemValues jsons = Value.settledItems items
  | [], _, rfl => rfl
  | item :: rest, jsons, written => by
    rw [Value.itemsToJson] at written
    cases first : item.toJson with
    | error error => simp [first, bind, Except.bind] at written
    | ok json =>
      cases found : Value.itemsToJson rest with
      | error error => simp [first, found, bind, Except.bind] at written
      | ok others =>
        have same : jsons = json :: others := by
          simpa [first, found, bind, Except.bind, pure, Except.pure] using written.symm
        rw [same, Json.itemValues, Value.settledItems, value_of_toJson item json first,
          itemValues_of_itemsToJson rest others found]

theorem settledEntries_of_entriesToJson : (entries : List (String × Value)) →
    (∀ entry ∈ Value.entriesToJson entries, ∃ json, entry.2 = .ok json) →
    (Value.entriesToJson entries).map (fun (key, result) => (key, writtenValue result)) =
      Value.settledEntries entries
  | [], _ => rfl
  | (key, value) :: rest, fine => by
    rw [Value.entriesToJson] at fine ⊢
    obtain ⟨json, written⟩ : ∃ json, value.toJson = .ok json := fine _ List.mem_cons_self
    have others := settledEntries_of_entriesToJson rest fun entry member =>
      fine entry (List.mem_cons_of_mem _ member)
    have same : writtenValue value.toJson = value.settled := by
      rw [written]
      exact value_of_toJson value json written
    simp only [List.map_cons, others, Value.settledEntries, same]

end

/-- The text of a value is read back as a document that stands for the value, settled. -/
theorem read?_canonicalText {value : Value} {text : String} (written : value.canonicalText = .ok text) :
    ∃ json, Json.read? text.toList = some json ∧ json.value = value.settled := by
  rw [Value.canonicalText] at written
  cases found : value.toJson with
  | error error => simp [found, Except.map] at written
  | ok json =>
    have same : text = json.render := by simpa [found, Except.map] using written.symm
    refine ⟨json, ?_, value_of_toJson value json found⟩
    rw [same, Json.render, String.toList_ofList]
    exact Json.read?_chars json

end KeyProtection
