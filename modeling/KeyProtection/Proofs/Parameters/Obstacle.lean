import KeyProtection.Proofs.Parameters.Document
import KeyProtection.Proofs.Parameters.Reachable

/-! Documents that cannot be made. There is a document unless the value of some field cannot be shown,
and then the error is about the first such field in the order in which the values are taken. A text
fails where the document does, for all parameters that a session can reach, and else only for an integer in
the document that has too many digits. -/

namespace KeyProtection

namespace Field

/-- The fields of which a document takes the values, in its order. The duration is shown as it is. -/
def encodingOrder : List Field :=
  [flags, start, originationEnd, consumptionEnd, purposes, paddings, digests, blockModes,
    userAuthenticators]

section

variable [Runtime]

/-- A document can show the value under the field. -/
def Encodable (field : Field) (value : Value) : Prop :=
  match field with
  | flags => (∃ number, value = .int number) ∨ (∃ truth, value = .bool truth) ∨
    ∃ set, value = .flags set
  | start | originationEnd | consumptionEnd =>
    value = .null ∨ ∃ moment, value = .time moment ∧ moment.IsNameable
  | purposes | paddings | blockModes | userAuthenticators => ∃ number, value.toInteger = .ok number
  | digests => value = .null ∨ ∃ number, value.toInteger = .ok number
  | duration => True

/-- The value cannot be shown under the field, for which `error` is the reason. -/
def Obstacle (field : Field) (value : Value) (error : Error) : Prop :=
  match field with
  | flags => ¬ flags.Encodable value ∧ error = .notOperands '&' value.kind .int
  | start | originationEnd | consumptionEnd =>
    (∃ moment, value = .time moment ∧ ¬ moment.IsNameable ∧ error = .dateOutOfRange) ∨
      (value.kind ≠ .null ∧ value.kind ≠ .time ∧ error = .noAttribute value.kind "tzinfo")
  | purposes | paddings | blockModes | userAuthenticators => value.toInteger = .error error
  | digests => value ≠ .null ∧ value.toInteger = .error error
  | duration => False

/-- What a document takes from a field. The flags are shown as they are once they have been tested. -/
def taken (field : Field) (value : Value) : Except Error Value :=
  match field with
  | flags => (value.operand .int).map fun _ => value
  | other => other.entry value

end

theorem exists_operand_iff [Runtime] {value : Value} {other : Kind} :
    (∃ number, value.operand other = .ok number) ↔ flags.Encodable value := by
  cases value with
  | int _ | bool _ | flags _ => simp [Value.operand, Value.integer?, Encodable]
  | _ => simp [Value.operand, Value.integer?, Encodable]

theorem operand_eq_error_iff [Runtime] {value : Value} {error : Error} :
    value.operand .int = .error error ↔ flags.Obstacle value error := by
  cases value with
  | int _ | bool _ | flags _ => simp [Value.operand, Value.integer?, Obstacle, Encodable]
  | _ => simp [Value.operand, Value.integer?, Obstacle, Encodable, eq_comm]

theorem exists_timestamp_iff {value : Value} :
    (∃ stamp, value.timestamp = .ok stamp) ↔
      value = .null ∨ ∃ moment, value = .time moment ∧ moment.IsNameable := by
  simp only [Timestamp.timestamp_eq_ok_iff, Timestamp.inRange_instant_iff]
  constructor
  · rintro ⟨stamp, ⟨null, _⟩ | ⟨moment, time, nameable, _⟩⟩
    · exact .inl null
    · exact .inr ⟨moment, time, nameable⟩
  · rintro (null | ⟨moment, time, nameable⟩)
    · exact ⟨_, .inl ⟨null, rfl⟩⟩
    · exact ⟨_, .inr ⟨moment, time, nameable, rfl⟩⟩

/-- Every field is taken exactly if its value can be shown, and the error is the obstacle. -/
theorem exists_taken_iff [Runtime] (field : Field) (value : Value) :
    (∃ encoded, field.taken value = .ok encoded) ↔ field.Encodable value := by
  cases field with
  | flags => exact exists_map_eq_ok_iff.trans exists_operand_iff
  | start | originationEnd | consumptionEnd => exact exists_map_eq_ok_iff.trans exists_timestamp_iff
  | digests =>
    by_cases unspecified : value = .null
    · subst unspecified
      exact ⟨fun _ => .inl rfl, fun _ => ⟨_, rfl⟩⟩
    · have read : digests.taken value = value.toInteger.map .int := entry_digests unspecified
      rw [read, exists_map_eq_ok_iff]
      simp [Encodable, unspecified]
  | duration => exact ⟨fun _ => trivial, fun _ => ⟨_, rfl⟩⟩
  | _ => exact exists_map_eq_ok_iff

theorem taken_eq_error_iff [Runtime] (field : Field) (value : Value) (error : Error) :
    field.taken value = .error error ↔ field.Obstacle value error := by
  cases field with
  | flags => exact map_eq_error_iff.trans operand_eq_error_iff
  | start | originationEnd | consumptionEnd =>
    exact map_eq_error_iff.trans (Timestamp.timestamp_eq_error_iff value error)
  | digests =>
    by_cases unspecified : value = .null
    · subst unspecified
      simp [taken, entry, Obstacle]
    · have read : digests.taken value = value.toInteger.map .int := entry_digests unspecified
      rw [read, map_eq_error_iff]
      simp [Obstacle, unspecified]
  | duration => simp [taken, entry, Obstacle]
  | _ => exact map_eq_error_iff

/-- Whatever built parameters hold can be shown, validity times apart. -/
theorem encodable_of_holds [Runtime] {field : Field} {value : Value} (holds : field.Holds value)
    (other : field ∉ [start, originationEnd, consumptionEnd]) : field.Encodable value := by
  cases field with
  | flags =>
    rcases holds with rfl | rfl
    · exact .inl ⟨_, rfl⟩
    · exact .inl ⟨_, rfl⟩
  | start | originationEnd | consumptionEnd => simp at other
  | digests =>
    rcases holds with rfl | ⟨bits, rfl⟩
    · exact .inl rfl
    · exact .inr ⟨_, rfl⟩
  | duration => exact trivial
  | _ =>
    obtain ⟨bits, rfl⟩ := holds
    exact ⟨_, rfl⟩

end Field

namespace KeyParameters

section

variable [Runtime]

/-- The value of the field cannot be shown, for which `error` is the reason, and every value that is
taken before it can. -/
structure FirstObstacle (parameters : KeyParameters) (field : Field) (error : Error) : Prop where
  obstacle : field.Obstacle (parameters.get field) error
  earlier : ∃ before after, Field.encodingOrder = before ++ field :: after ∧
    ∀ other ∈ before, other.Encodable (parameters.get other)

/-- The values are taken field after field, up to the first that cannot be shown. -/
theorem errorOf?_document (parameters : KeyParameters) :
    errorOf? parameters.document =
      Field.encodingOrder.findSome? fun field => errorOf? (field.taken (parameters.get field)) := by
  simp only [Field.encodingOrder, findSome?_cons_or, List.findSome?_nil]
  rw [document_eq]
  -- one field a step: its own error, then whatever comes after it
  apply errorOf?_bind
  · simp [isEncryptionRequired, Field.taken, errorOf?_map, get]
  intro encryption
  apply errorOf?_bind
  · exact (errorOf?_map _ _).symm
  intro start
  apply errorOf?_bind
  · exact (errorOf?_map _ _).symm
  intro originationEnd
  apply errorOf?_bind
  · exact (errorOf?_map _ _).symm
  intro consumptionEnd
  apply errorOf?_bind
  · exact (errorOf?_map _ _).symm
  intro purposes
  apply errorOf?_bind
  · exact (errorOf?_map _ _).symm
  intro paddings
  apply errorOf?_bind
  · rfl
  intro digests
  apply errorOf?_bind
  · exact (errorOf?_map _ _).symm
  intro blockModes
  apply errorOf?_bind
  · exact (errorOf?_map _ _).symm
  intro userAuthenticators
  rfl

theorem exists_document_iff (parameters : KeyParameters) :
    (∃ document, parameters.document = .ok document) ↔
      ∀ field : Field, field.Encodable (parameters.get field) := by
  rw [← errorOf?_eq_none_iff, errorOf?_document, List.findSome?_eq_none_iff]
  simp only [errorOf?_eq_none_iff, Field.exists_taken_iff]
  constructor
  · intro encodable field
    by_cases taken : field ∈ Field.encodingOrder
    · exact encodable field taken
    · cases field with
      | duration => exact trivial
      | _ => exact absurd (by decide) taken
  · intro encodable field _
    exact encodable field

theorem document_eq_error_iff (parameters : KeyParameters) (error : Error) :
    parameters.document = .error error ↔ ∃ field, parameters.FirstObstacle field error := by
  rw [← errorOf?_eq_some_iff, errorOf?_document, List.findSome?_eq_some_iff]
  simp only [errorOf?_eq_some_iff, errorOf?_eq_none_iff, Field.exists_taken_iff,
    Field.taken_eq_error_iff]
  constructor
  · rintro ⟨before, field, after, order, obstacle, earlier⟩
    exact ⟨field, obstacle, before, after, order, earlier⟩
  · rintro ⟨field, obstacle, before, after, order, earlier⟩
    exact ⟨before, field, after, order, obstacle, earlier⟩

/-- With a valid duration a text has but one error of its own, about an integer in the document. -/
theorem text_eq_error_iff {parameters : KeyParameters} (duration : parameters.duration.IsDuration)
    (error : Error) : parameters.text = .error error ↔ parameters.document = .error error ∨
      ∃ document limit, parameters.document = .ok document ∧ ¬ document.Writable ∧
        Runtime.digitLimit = some limit ∧ error = .integerTooLong limit := by
  cases made : parameters.document with
  | ok document => simp [(writesIf_text duration made).eq_error_iff]
  | error fault => simp [text, made, bind, Except.bind]

theorem exists_text_iff {parameters : KeyParameters} (duration : parameters.duration.IsDuration) :
    (∃ text, parameters.text = .ok text) ↔
      ∃ document, parameters.document = .ok document ∧ document.Writable := by
  cases made : parameters.document with
  | ok document => simp [(writesIf_text duration made).exists_iff]
  | error fault => simp [text, made, bind, Except.bind]

/-- What stands in the way of built parameters is a validity time. -/
theorem validity_of_firstObstacle {builder : Builder} {parameters : KeyParameters} {field : Field}
    {error : Error} (built : builder.build = .ok parameters)
    (first : parameters.FirstObstacle field error) :
    field ∈ [.start, .originationEnd, .consumptionEnd] := by
  by_contra other
  have encodable := Field.encodable_of_holds (holds_of_build built field) other
  obtain ⟨encoded, taken⟩ := (Field.exists_taken_iff field _).mpr encodable
  rw [(Field.taken_eq_error_iff field _ error).mpr first.obstacle] at taken
  cases taken

end

end KeyParameters

end KeyProtection
