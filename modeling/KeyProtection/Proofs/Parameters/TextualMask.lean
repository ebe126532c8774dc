import KeyProtection.Proofs.Parameters.Obstacle
import KeyProtection.Proofs.Text.Integer

/-! Masks given as texts. Parameters that were not built can hold a text where a mask belongs. A document
shows it as the integer that it spells, if it spells one, and nothing else stands for it; any other text
is an error. -/

namespace KeyProtection

namespace Field

/-- The fields that hold masks. -/
def masks : List Field := [purposes, paddings, digests, blockModes, userAuthenticators]

variable [Runtime]

theorem entry_text {field : Field} (mask : field ∈ masks) (content : String) :
    field.entry (.text content) = (Value.text content).toInteger.map .int := by
  cases field with
  | flags | start | originationEnd | consumptionEnd | duration => exact absurd mask (by decide)
  | _ => rfl

theorem taken_text {field : Field} (mask : field ∈ masks) (content : String) :
    field.taken (.text content) = (Value.text content).toInteger.map .int := by
  rw [← entry_text mask]
  cases field with
  | flags => exact absurd mask (by decide)
  | _ => rfl

/-- A text can be shown as a mask exactly if it is a decimal integer. -/
theorem encodable_text_iff {field : Field} (mask : field ∈ masks) {content : String}
    (ascii : Text.IsAscii content.toList) :
    field.Encodable (.text content) ↔ Text.IsDecimal content.toList := by
  rw [← exists_taken_iff, taken_text mask, exists_map_eq_ok_iff, Value.exists_toInteger_text_iff ascii]

theorem obstacle_text_iff {field : Field} (mask : field ∈ masks) {content : String} {error : Error} :
    field.Obstacle (.text content) error ↔ (Value.text content).toInteger = .error error := by
  rw [← taken_eq_error_iff, taken_text mask, map_eq_error_iff]

/-- What stands in the way cannot be shown. -/
theorem Obstacle.not_encodable {field : Field} {value : Value} {error : Error}
    (obstacle : field.Obstacle value error) : ¬ field.Encodable value := by
  intro encodable
  obtain ⟨encoded, taken⟩ := (exists_taken_iff field value).mpr encodable
  rw [(taken_eq_error_iff field value error).mpr obstacle] at taken
  cases taken

end Field

namespace KeyParameters

section

variable [Runtime]

/-- There is a document, with the value under the name of the field. -/
def Shows (parameters : KeyParameters) (field : Field) (value : Value) : Prop :=
  ∃ entries, parameters.document = .ok (.dict entries) ∧ entries.lookup field.name = some value

/-- Where all values can be shown, the document has the entry of each. -/
theorem shows_of_entry {parameters : KeyParameters}
    (encodable : ∀ field : Field, field.Encodable (parameters.get field)) {field : Field}
    {value : Value} (entered : field.entry (parameters.get field) = .ok value) :
    parameters.Shows field value := by
  obtain ⟨document, made⟩ := (exists_document_iff parameters).mpr encodable
  obtain ⟨encryption, encoded, _, entries, rfl⟩ := (document_eq_ok_iff _ _).mp made
  obtain rfl := Except.ok.inj ((entries field).symm.trans entered)
  exact ⟨_, made, lookup_documentEntries encryption encoded field⟩

/-- Where the values of all other fields can be shown, it is up to the one field. -/
theorem encodable_of_others {parameters : KeyParameters} {field : Field}
    (others : ∀ other, other ≠ field → other.Encodable (parameters.get other))
    (encodable : field.Encodable (parameters.get field)) (other : Field) :
    other.Encodable (parameters.get other) := by
  by_cases same : other = field
  · rw [same]
    exact encodable
  · exact others other same

theorem obstacle_of_others {parameters : KeyParameters} {field : Field}
    (others : ∀ other, other ≠ field → other.Encodable (parameters.get other)) {error : Error}
    (failed : parameters.document = .error error) :
    field.Obstacle (parameters.get field) error := by
  obtain ⟨first, obstacle, _⟩ := (document_eq_error_iff parameters error).mp failed
  by_cases same : first = field
  · exact same ▸ obstacle
  · exact absurd (others first same) obstacle.not_encodable

variable {parameters : KeyParameters} {field : Field} {content : String}

theorem exists_document_text_iff (mask : field ∈ Field.masks)
    (held : parameters.get field = .text content) (ascii : Text.IsAscii content.toList)
    (others : ∀ other, other ≠ field → other.Encodable (parameters.get other)) :
    (∃ document, parameters.document = .ok document) ↔ Text.IsDecimal content.toList := by
  have decimal := Field.encodable_text_iff mask ascii
  rw [← held] at decimal
  rw [exists_document_iff, ← decimal]
  exact ⟨fun encodable => encodable field, encodable_of_others others⟩

/-- The entry of a decorated number is the number. -/
theorem shows_of_decorated (mask : field ∈ Field.masks) (held : parameters.get field = .text content)
    (ascii : Text.IsAscii content.toList)
    (others : ∀ other, other ≠ field → other.Encodable (parameters.get other)) {sign : Text.Sign}
    {digits : List Char} (decorated : Text.Decorated sign digits content.toList)
    (few : Runtime.Allows digits.length) :
    parameters.Shows field (.int (sign.number (ofDigits digits))) := by
  have document := (exists_document_text_iff mask held ascii others).mpr ⟨sign, digits, decorated, few⟩
  have read := (Value.toInteger_text_eq_ok_iff ascii).mpr ⟨sign, digits, decorated, few, rfl⟩
  apply shows_of_entry ((exists_document_iff parameters).mp document)
  rw [held, Field.entry_text mask, read]
  rfl

/-- A text for a mask, where the values of all other fields can be shown, has a document exactly if it is a
decimal integer: blanks, at most one sign, digits with single underscores between them, and blanks. The
entry is the integer, to which blanks, underscores and zeros in front add nothing; in particular the text
of an integer, grouped by underscores in any way, is that integer. Any other text is a wrong value, and
named as such unless its digits are too many to be read. -/
theorem textual_mask_is_decimal (mask : field ∈ Field.masks)
    (held : parameters.get field = .text content) (ascii : Text.IsAscii content.toList)
    (others : ∀ other, other ≠ field → other.Encodable (parameters.get other)) :
    ((∃ document, parameters.document = .ok document) ↔ Text.IsDecimal content.toList) ∧
    (∀ (sign : Text.Sign) (zeros : Nat) (digits : List Char),
      Text.Decorated sign (List.replicate zeros '0' ++ digits) content.toList →
      Runtime.Allows (zeros + digits.length) →
      parameters.Shows field (.int (sign.number (ofDigits digits)))) ∧
    (∀ number : Int, Text.Grouped (integerText number) content.toList →
      Runtime.Allows (digits number.natAbs).length → parameters.Shows field (.int number)) ∧
    (¬ Text.IsDecimal content.toList → ∃ error, parameters.document = .error error ∧
      error.errorClass = .value ∧
      (Runtime.Allows (content.toList.countP Char.isDigit) → error = .notDecimal content)) := by
  have documented := exists_document_text_iff mask held ascii others
  refine ⟨documented, ?_, ?_, ?_⟩
  · intro sign zeros digits decorated few
    rw [← ofDigits_zeros_append zeros]
    apply shows_of_decorated mask held ascii others decorated
    rw [List.length_append, List.length_replicate]
    exact few
  · intro number grouped few
    obtain ⟨sign, decorated, same⟩ := Text.exists_decorated_of_grouped grouped
    rw [← same, ← ofDigits_digits number.natAbs]
    exact shows_of_decorated mask held ascii others decorated few
  · intro other
    cases made : parameters.document with
    | ok document => exact absurd (documented.mp ⟨document, made⟩) other
    | error error =>
      have obstacle := obstacle_of_others others made
      rw [held, Field.obstacle_text_iff mask] at obstacle
      obtain ⟨wrong, named⟩ := Value.error_of_toInteger_text obstacle
      exact ⟨error, rfl, wrong, named ascii⟩

end

/-- Blanks on both sides, a sign, zeros in front and an underscore leave 42 with its sign. -/
theorem textual_mask_decorated :
    ∃ made, new [("purposes", .text "\t-0_042 \n")] = .ok made ∧
      made.Shows .purposes (.int (-42)) := by
  let made : KeyParameters := { purposes := .text "\t-0_042 \n" }
  have isRun : Text.IsRun ['0', '0', '4', '2'] ['0', '_', '0', '4', '2'] :=
    ⟨by simp, by simp, .underscore rfl rfl (.char '0' (.char '4' (.char '2' .nil)))⟩
  have decorated : Text.Decorated .minus (List.replicate 2 '0' ++ ['4', '2'])
      (['\t'] ++ (Text.Sign.minus.text ++ (['0', '_', '0', '4', '2'] ++ [' ', '\n']))) :=
    .intro (by simp [Text.asciiBlanks]) isRun (by simp [Text.asciiBlanks])
  have others : ∀ other : Field, other ≠ .purposes → other.Encodable (made.get other) := by
    intro other different
    cases other with
    | flags => exact .inl ⟨0, rfl⟩
    | start | originationEnd | consumptionEnd | digests => exact .inl rfl
    | purposes => exact absurd rfl different
    | duration => exact trivial
    | _ => exact ⟨0, rfl⟩
  have held : made.get .purposes = .text "\t-0_042 \n" := rfl
  have ascii : Text.IsAscii "\t-0_042 \n".toList := by simp [Text.IsAscii]
  obtain ⟨_, shown, _⟩ := textual_mask_is_decimal (by decide) held ascii others
  exact ⟨made, rfl, shown .minus 2 ['4', '2'] decorated (by decide)⟩

end KeyParameters

end KeyProtection
