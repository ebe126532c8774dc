import KeyProtection.Proofs.Canonical.Refusal

/-! Canonical texts as encodings of contents. The text of a value is read back as a value of the same
content in settled form, and values of one content have one text. -/

namespace KeyProtection

/-- No control character, which are those below the blank, is in the text. -/
def Printed (text : List Char) : Prop := ∀ char ∈ text, 32 ≤ char.toNat

instance (text : List Char) : Decidable (Printed text) :=
  List.decidableBAll (fun (char : Char) => 32 ≤ char.toNat) text

theorem printed_of_isNumeralChar {text : List Char}
    (numeral : ∀ char ∈ text, Numeral.isNumeralChar char = true) : Printed text := by
  intro char member
  have kind := numeral char member
  simp only [Numeral.isNumeralChar, Bool.or_eq_true, List.contains_iff_mem] at kind
  rcases kind with digit | mark
  · have first : 48 ≤ char.toNat := (Char.isDigit_iff_toNat.mp digit).1
    omega
  · exact (by decide : Printed ['-', '+', '.', 'e']) char mark

namespace Json

/-- Control characters are written by characters that are none. -/
theorem printed_escape (char : Char) : Printed (escape char) := by
  unfold escape
  split
  · decide
  split
  · decide
  split
  · decide
  split
  · decide
  split
  · decide
  split
  · decide
  split
  · decide
  split
  · next control =>
    have low : ∀ code < 32, Printed
        ['\\', 'u', '0', '0', Nat.digitChar (code / 16), Nat.digitChar (code % 16)] := by decide
    exact low char.toNat control
  · next printed =>
    intro found member
    rw [List.mem_singleton.mp member]
    exact Nat.le_of_not_lt printed

theorem printed_quoted (content : String) : Printed (quoted content) := by
  intro char member
  simp only [quoted, List.mem_cons, List.mem_append, List.mem_flatMap, List.not_mem_nil,
    or_false] at member
  rcases member with rfl | ⟨origin, _, written⟩ | rfl
  · decide
  · exact printed_escape origin char written
  · decide

theorem printed_atom (leaf : Atom) : Printed leaf.chars := by
  cases leaf with
  | int number =>
    exact printed_of_isNumeralChar fun _ member => Numeral.isNumeralChar_of_mem_integerText member
  | decimal number =>
    exact printed_of_isNumeralChar fun _ member => Numeral.isNumeralChar_of_mem_text member
  | text content => exact printed_quoted content
  | bool truth => cases truth <;> decide
  | infinite negative => cases negative <;> decide
  | null => decide
  | nan => decide

theorem printed_chars (json : Json) : Printed json.chars := by
  intro char member
  obtain ⟨token, _, written⟩ := List.mem_flatMap.mp member
  cases token with
  | atom leaf => exact printed_atom leaf char written
  | _ => exact (by decide : Printed (Token.chars _)) char written

end Json

namespace Value

theorem settledItems_eq_map (items : List Value) : settledItems items = items.map settled := by
  induction items with
  | nil => rfl
  | cons item rest step => rw [settledItems, List.map_cons, step]

theorem mem_children_settled_iff {value child : Value} :
    child ∈ value.settled.children ↔ ∃ origin ∈ value.children, origin.settled = child := by
  cases value with
  | list items => rw [settled, children, settledItems_eq_map, List.mem_map, children]
  | dict entries =>
    have sorted := (sortMembers_perm (settledEntries entries)).map Prod.snd
    rw [settled, children, sorted.mem_iff, settledEntries_eq_map, children, List.map_map]
    simp only [List.mem_map, exists_exists_and_eq_and, Function.comp_apply]
  | float number => cases number <;> simp [settled, children]
  | _ => simp [settled, children]

theorem keys_settled_increasing {value : Value} (distinct : value.keys.Nodup) :
    value.settled.keys.Pairwise (· < ·) := by
  cases value with
  | dict entries =>
    have same : (settledEntries entries).map Prod.fst = entries.map Prod.fst := by
      simp [settledEntries_eq_map]
    rw [settled, keys, List.pairwise_map]
    exact sortMembers_strict (same ▸ distinct)
  | float number => cases number <;> exact .nil
  | _ => exact .nil

theorem increasingKeys_settled {value : Value} (distinct : value.DistinctKeys) :
    value.settled.IncreasingKeys := by
  induction value using children_induction with
  | step value step =>
    obtain ⟨self, inside⟩ := everywhere_iff.mp distinct
    rw [IncreasingKeys, everywhere_iff]
    refine ⟨keys_settled_increasing self, ?_⟩
    intro child member
    obtain ⟨origin, listed, rfl⟩ := mem_children_settled_iff.mp member
    exact step origin listed (inside origin listed)

theorem freeOfFlags_settled (value : Value) : value.settled.FreeOfFlags := by
  induction value using children_induction with
  | step value step =>
    rw [FreeOfFlags, everywhere_iff]
    constructor
    · intro type
      cases value with
      | float number => cases number <;> simp [settled, kind]
      | _ => simp [settled, kind]
    · intro child member
      obtain ⟨origin, listed, rfl⟩ := mem_children_settled_iff.mp member
      exact step origin listed

theorem sameContent_settled (value : Value) : value.SameContent value.settled := by
  induction value using children_induction with
  | step value step =>
    cases value with
    | list items =>
      rw [settled, settledItems_eq_map]
      refine .list (List.length_map ..).symm ?_
      intro pair member
      rw [← List.map_prod_left_eq_zip] at member
      obtain ⟨item, inside, rfl⟩ := List.mem_map.mp member
      exact step item inside
    | dict entries =>
      rw [settled]
      refine .dict ?_ ?_ (sortMembers_perm _).symm
      · simp [settledEntries_eq_map]
      · intro pair member
        rw [settledEntries_eq_map, ← List.map_prod_left_eq_zip] at member
        obtain ⟨entry, inside, rfl⟩ := List.mem_map.mp member
        exact step entry.2 (List.mem_map_of_mem inside)
    | float number =>
      cases number with
      | nan occurrence => exact .nan occurrence 0
      | _ => exact .float _
    | flags set => exact .untyped set
    | null => exact .null
    | bool truth => exact .bool truth
    | int number => exact .int number
    | text content => exact .text content
    | time moment => exact .time moment
    | context label => exact .context label

section

variable [Runtime]

/-- A value that can be written has a text, which is that of one document. -/
theorem exists_text {value : Value} (serializable : value.Serializable) :
    ∃ text json, value.canonicalText = .ok text ∧ text = json.render ∧
      Json.read? text.toList = some json ∧ json.value = value.settled := by
  obtain ⟨text, written⟩ := (exists_canonicalText_iff value).mpr serializable
  obtain ⟨json, made, shown⟩ := map_eq_ok_iff.mp written
  refine ⟨text, json, written, shown.symm, ?_, value_of_toJson value json made⟩
  rw [← shown, Json.render, String.toList_ofList]
  exact Json.read?_chars json

/-- The text tells the whole content of a value: it has no control characters, read as a whole it is a value
of that content, with integers for flag sets and with the keys of all dictionaries in increasing order, and
all values that have this text have this content. -/
structure Tells (text : String) (value : Value) (json : Json) : Prop where
  printed : Printed text.toList
  read : Json.read? text.toList = some json
  content : value.SameContent json.value
  freeOfFlags : json.value.FreeOfFlags
  increasing : json.value.IncreasingKeys
  unique : ∀ other : Value, other.canonicalText = .ok text → other.SameContent json.value

theorem exists_tells {value : Value} (distinct : value.DistinctKeys) {text : String}
    (written : value.canonicalText = .ok text) : ∃ json, Tells text value json := by
  have serializable := (exists_canonicalText_iff value).mp ⟨text, written⟩
  obtain ⟨text, json, again, shown, read, stands⟩ := exists_text serializable
  obtain rfl := Except.ok.inj (again.symm.trans written)
  refine ⟨json, ?_, read, ?_, ?_, ?_, ?_⟩
  · rw [shown, Json.render, String.toList_ofList]
    exact Json.printed_chars json
  · exact stands ▸ sameContent_settled value
  · exact stands ▸ freeOfFlags_settled value
  · exact stands ▸ increasingKeys_settled distinct
  · intro other writtenToo
    obtain ⟨again, readToo, standsToo⟩ := read?_canonicalText writtenToo
    obtain rfl : json = again := Option.some.inj (read.symm.trans readToo)
    exact standsToo ▸ sameContent_settled other

end

/-- Values of one content have one text. In it the keys of every object increase, and the value that
it is read as has the very same text. -/
theorem canonicalText_canonical [Runtime] {value other : Value} (serializable : value.Serializable)
    (distinct : value.DistinctKeys) (same : value.SameContent other) :
    ∃ text json, value.canonicalText = .ok text ∧ other.canonicalText = .ok text ∧
      Json.read? text.toList = some json ∧ json.value.IncreasingKeys ∧
      json.value.canonicalText = .ok text := by
  obtain ⟨text, json, written, _, read, stands⟩ := exists_text serializable
  refine ⟨text, json, written, ?_, read, ?_, ?_⟩
  · rw [← same.canonicalText_eq distinct, written]
  · exact stands ▸ increasingKeys_settled distinct
  · rw [stands, ← (sameContent_settled value).canonicalText_eq distinct, written]

/-- Neither the order of entries inside and outside nor the type of a flag set is in the text. -/
theorem canonicalText_canonical_nested :
    let value : Value := .dict
      [("z", .dict [("\x7f", .flags ⟨.purpose, 5⟩), ("", .null)]), ("a", .flags ⟨.digest, 2⟩)]
    let other : Value := .dict
      [("a", .flags ⟨.padding, 2⟩), ("z", .dict [("", .null), ("\x7f", .int 5)])]
    ∃ text, value.canonicalText = .ok text ∧ other.canonicalText = .ok text := by
  intro value other
  have inner : (Value.dict [("\x7f", .flags ⟨.purpose, 5⟩), ("", .null)]).SameContent
      (.dict [("", .null), ("\x7f", .int 5)]) := by
    refine @SameContent.dict _ [("\x7f", .int 5), ("", .null)] _ rfl ?_ (.swap ..)
    simp only [List.zip_cons_cons, List.zip_nil_left, List.forall_mem_cons]
    exact ⟨.untyped _, .null, by simp⟩
  have same : value.SameContent other := by
    refine @SameContent.dict _
      [("z", .dict [("", .null), ("\x7f", .int 5)]), ("a", .flags ⟨.padding, 2⟩)] _ rfl ?_ (.swap ..)
    simp only [List.zip_cons_cons, List.zip_nil_left, List.forall_mem_cons]
    exact ⟨inner, .retyped rfl, by simp⟩
  obtain ⟨text, _, written, writtenToo, _⟩ :=
    canonicalText_canonical (by decide) (by decide) same
  exact ⟨text, written, writtenToo⟩

end Value

end KeyProtection
