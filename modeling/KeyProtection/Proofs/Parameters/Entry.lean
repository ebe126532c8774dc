import KeyProtection.Proofs.Content
import KeyProtection.Proofs.Parameters.Build
import KeyProtection.Proofs.Timestamp

/-! Entries of fields. In the document of built parameters every field has an entry, which is null, a
timestamp or an integer. The field is found again from it, times up to the millisecond, and two values
of a field are told apart by it only where they mean different things. -/

namespace KeyProtection

theorem DateTime.elapsed_of_equal {left right : DateTime} (same : left.equal right = true) :
    left.elapsed = right.elapsed := by
  rw [DateTime.equal] at same
  rw [← DateTime.instant_eq_elapsed, ← DateTime.instant_eq_elapsed]
  cases first : left.offset with
  | none =>
    cases second : right.offset with
    | none =>
      simp only [first, second, Bool.and_eq_true, beq_iff_eq] at same
      simp only [instant, same.1, same.2, first, second]
    | some shift => simp [first, second] at same
  | some shift =>
    cases second : right.offset with
    | none => simp [first, second] at same
    | some other =>
      simp only [first, second, beq_iff_eq] at same
      exact same

namespace Value

theorem IsDuration.exists_mask? {value : Value} (duration : value.IsDuration) :
    ∃ seconds, value.mask? = some seconds := by
  cases value with
  | int seconds => exact ⟨seconds, rfl⟩
  | flags set => exact ⟨set.bits, rfl⟩
  | _ => exact absurd duration not_false

theorem settled_of_mask? {value : Value} {number : Int} (mask : value.mask? = some number) :
    value.settled = .int number := by
  rcases mask?_eq_some_iff.mp mask with rfl | ⟨set, rfl, rfl⟩
  · rfl
  · rfl

theorem toJson_of_mask? [Runtime] {value : Value} {number : Int} (mask : value.mask? = some number) :
    value.toJson = (Text.ofInteger number).map fun _ => Json.int number := by
  rcases mask?_eq_some_iff.mp mask with rfl | ⟨set, rfl, rfl⟩
  · rfl
  · rfl

theorem equal_of_mask? {left right : Value} {number other : Int} (first : left.mask? = some number)
    (second : right.mask? = some other) :
    left.equal right = (Number.finite number == Number.finite other) := by
  rcases mask?_eq_some_iff.mp first with rfl | ⟨set, rfl, rfl⟩
  · rcases mask?_eq_some_iff.mp second with rfl | ⟨part, rfl, rfl⟩
    · rfl
    · rfl
  · rcases mask?_eq_some_iff.mp second with rfl | ⟨part, rfl, rfl⟩
    · rfl
    · rfl

/-- A mask equals neither null nor a time. -/
theorem not_equal_mask {value other : Value} {number : Int} (mask : value.mask? = some number)
    (unlike : other = .null ∨ ∃ moment, other = .time moment) :
    value.equal other = false ∧ other.equal value = false := by
  rcases mask?_eq_some_iff.mp mask with rfl | ⟨set, rfl, rfl⟩
  · rcases unlike with rfl | ⟨moment, rfl⟩
    · exact ⟨rfl, rfl⟩
    · exact ⟨rfl, rfl⟩
  · rcases unlike with rfl | ⟨moment, rfl⟩
    · exact ⟨rfl, rfl⟩
    · exact ⟨rfl, rfl⟩

/-- What is found of a validity time: null itself, and the start of the millisecond of a time. -/
def CutTo (value found : Value) : Prop :=
  match value with
  | .null => found = .null
  | .time moment => ∃ stamp, found = .time stamp ∧ stamp.BeginsMillisecondOf moment
  | _ => False

/-- Two values that a document does not tell apart: both are null, times of one millisecond of
universal time, or masks of the same bits. Null and a mask without bits differ. -/
inductive Alike : Value → Value → Prop
  | null : Alike .null .null
  | time {left right : DateTime} (same : left.elapsed / 1000 = right.elapsed / 1000) :
    Alike (.time left) (.time right)
  | mask {left right : Value} {number : Int} (first : left.mask? = some number)
    (second : right.mask? = some number) : Alike left right

theorem alike_int_iff {left right : Int} : (int left).Alike (int right) ↔ left = right := by
  constructor
  · rintro (_ | _ | ⟨first, second⟩)
    exact (Option.some.inj first).trans (Option.some.inj second).symm
  · rintro rfl
    exact .mask rfl rfl

theorem alike_of_cutTo {left right found : Value} (first : left.CutTo found)
    (second : right.CutTo found) : left.Alike right := by
  cases left with
  | null =>
    cases right with
    | null => exact .null
    | time moment =>
      obtain ⟨stamp, same, _⟩ := second
      cases Eq.trans (Eq.symm first) same
    | _ => exact absurd second not_false
  | time moment =>
    obtain ⟨stamp, rfl, _, begins⟩ := first
    cases right with
    | null => cases second
    | time other =>
      obtain ⟨again, same, _, beginsToo⟩ := second
      obtain rfl := Value.time.inj same
      exact .time (by omega)
    | _ => exact absurd second not_false
  | _ => exact absurd first not_false

/-- What is written for a value that a field of built parameters can hold. -/
def written? [Runtime] : Value → Option (Except Error Json)
  | .null => some (.ok Json.null)
  | .time moment => some (.ok (Json.text (String.ofList moment.instant.millisecondText)))
  | value => value.mask?.map fun number => (Text.ofInteger number).map fun _ => Json.int number

theorem written?_of_mask? [Runtime] {value : Value} {number : Int} (mask : value.mask? = some number) :
    value.written? = some ((Text.ofInteger number).map fun _ => Json.int number) := by
  rcases mask?_eq_some_iff.mp mask with rfl | ⟨set, rfl, rfl⟩
  · rfl
  · rfl

theorem Alike.written?_eq [Runtime] {left right : Value} (alike : left.Alike right) :
    left.written? = right.written? := by
  cases alike with
  | null => rfl
  | time same =>
    rw [← DateTime.instant_eq_elapsed, ← DateTime.instant_eq_elapsed] at same
    simp only [written?, Timestamp.millisecondText_congr same]
  | mask first second => rw [written?_of_mask? first, written?_of_mask? second]

end Value

namespace Field

/-- What a field of built parameters can hold. -/
def Holds (field : Field) (value : Value) : Prop :=
  match field with
  | flags => value = .int 0 ∨ value = .int 1
  | start | originationEnd | consumptionEnd => True
  | purposes => ∃ bits, value = .flags ⟨.purpose, bits⟩
  | paddings => ∃ bits, value = .flags ⟨.padding, bits⟩
  | digests => value = .null ∨ ∃ bits, value = .flags ⟨.digest, bits⟩
  | blockModes => ∃ bits, value = .flags ⟨.blockMode, bits⟩
  | userAuthenticators => ∃ bits, value = .flags ⟨.userAuthenticator, bits⟩
  | duration => value.IsDuration

/-- What is found of a field: its value up to the millisecond, and of a duration its integer. -/
def FoundAs (field : Field) (value found : Value) : Prop :=
  match field with
  | start | originationEnd | consumptionEnd => value.CutTo found
  | duration => ∃ seconds, value.mask? = some seconds ∧ found = .int seconds
  | _ => found = value

def decodeTime? : Value → Option Value
  | .null => some .null
  | .text written => (Timestamp.read? written.toList).map .time
  | _ => none

/-- A validity time is found again up to the millisecond. -/
theorem decodeTime?_entry {value encoded : Value}
    (written : value.timestamp.map .ofText? = .ok encoded) :
    ∃ found, decodeTime? encoded.settled = some found ∧ value.CutTo found := by
  obtain ⟨stamp, stamped, rfl⟩ := map_eq_ok_iff.mp written
  rcases (Timestamp.timestamp_eq_ok_iff value stamp).mp stamped with
    ⟨rfl, rfl⟩ | ⟨moment, rfl, inRange, rfl⟩
  · exact ⟨.null, rfl, rfl⟩
  · refine ⟨.time (Timestamp.shown moment.instant inRange), ?_, _, rfl,
      Timestamp.shown_beginsMillisecondOf moment inRange⟩
    simp only [Value.ofText?, Value.settled, decodeTime?, String.toList_ofList,
      Timestamp.read?_millisecondText moment.instant inRange, Option.map_some]

variable [Runtime]

/-- The entry of a field in a document. -/
def entry (field : Field) (value : Value) : Except Error Value :=
  match field, value with
  | flags, value | duration, value => .ok value
  | start, value | originationEnd, value | consumptionEnd, value => value.timestamp.map .ofText?
  | digests, .null => .ok .null
  | purposes, value | paddings, value | digests, value | blockModes, value
  | userAuthenticators, value => value.toInteger.map .int

theorem entry_digests {value : Value} (specified : value ≠ .null) :
    digests.entry value = value.toInteger.map .int := by
  cases value with
  | null => exact absurd rfl specified
  | _ => rfl

def decodeMask? (type : FlagType) (value : Value) : Option Value :=
  (FlagSet.ofValue type value).toOption.map .flags

/-- A field read from its entry: masks as flag sets of its type, timestamps as universal time. -/
def decode? (field : Field) (value : Value) : Option Value :=
  match field, value with
  | digests, .null => some .null
  | purposes, value => decodeMask? .purpose value
  | paddings, value => decodeMask? .padding value
  | digests, value => decodeMask? .digest value
  | blockModes, value => decodeMask? .blockMode value
  | userAuthenticators, value => decodeMask? .userAuthenticator value
  | start, value | originationEnd, value | consumptionEnd, value => decodeTime? value
  | flags, value | duration, value => value.mask?.map .int

/-- The value is one that the field of built parameters can hold, with a name if it is a flag set, and has
an entry. -/
structure Encodes (field : Field) (value encoded : Value) : Prop where
  holds : field.Holds value
  named : field.CanName value
  entered : field.entry value = .ok encoded

theorem decodeMask?_bits {type : FlagType} {bits : Nat} (nameable : FlagSet.Nameable ⟨type, bits⟩) :
    decodeMask? type (.int bits) = some (.flags ⟨type, bits⟩) := by
  have read : FlagSet.ofValue type (.int bits) = .ok ⟨type, bits⟩ :=
    FlagSet.ofValue_eq_ok_iff.mpr ⟨Int.natCast_nonneg bits, nameable, rfl⟩
  rw [decodeMask?, read]
  rfl

namespace Encodes

variable {field : Field} {left right value found encoded other : Value}

/-- A value with an entry is null, a time or a mask, and the entry shows which. -/
theorem value_cases (encodes : field.Encodes value encoded) :
    (value = .null ∧ encoded = .null) ∨
      (∃ moment, value = .time moment ∧
        encoded = .text (String.ofList moment.instant.millisecondText)) ∨
      ∃ number, value.mask? = some number ∧ encoded.mask? = some number := by
  obtain ⟨holds, named, entered⟩ := encodes
  cases field with
  | start | originationEnd | consumptionEnd =>
    obtain ⟨stamp, stamped, rfl⟩ := map_eq_ok_iff.mp entered
    rcases (Timestamp.timestamp_eq_ok_iff value stamp).mp stamped with
      ⟨rfl, rfl⟩ | ⟨moment, rfl, _, rfl⟩
    · exact .inl ⟨rfl, rfl⟩
    · exact .inr (.inl ⟨moment, rfl, rfl⟩)
  | flags =>
    obtain rfl := Except.ok.inj entered
    rcases holds with rfl | rfl
    · exact .inr (.inr ⟨0, rfl, rfl⟩)
    · exact .inr (.inr ⟨1, rfl, rfl⟩)
  | digests =>
    rcases holds with rfl | ⟨bits, rfl⟩
    · obtain rfl := Except.ok.inj entered
      exact .inl ⟨rfl, rfl⟩
    · obtain rfl := Except.ok.inj entered
      exact .inr (.inr ⟨bits, rfl, rfl⟩)
  | duration =>
    obtain rfl := Except.ok.inj entered
    obtain ⟨seconds, mask⟩ := holds.exists_mask?
    exact .inr (.inr ⟨seconds, mask, mask⟩)
  | _ =>
    obtain ⟨bits, rfl⟩ := holds
    obtain rfl := Except.ok.inj entered
    exact .inr (.inr ⟨bits, rfl, rfl⟩)

/-- From the entry of a field the field is found again. -/
theorem exists_found (encodes : field.Encodes value encoded) :
    ∃ found, field.decode? encoded.settled = some found ∧ field.FoundAs value found := by
  obtain ⟨holds, named, entered⟩ := encodes
  cases field with
  | start | originationEnd | consumptionEnd => exact decodeTime?_entry entered
  | flags =>
    obtain rfl := Except.ok.inj entered
    rcases holds with rfl | rfl
    · exact ⟨_, rfl, rfl⟩
    · exact ⟨_, rfl, rfl⟩
  | digests =>
    rcases holds with rfl | ⟨bits, rfl⟩
    · obtain rfl := Except.ok.inj entered
      exact ⟨_, rfl, rfl⟩
    · obtain rfl := Except.ok.inj entered
      exact ⟨_, decodeMask?_bits (named _ rfl), rfl⟩
  | duration =>
    obtain rfl := Except.ok.inj entered
    obtain ⟨seconds, mask⟩ := holds.exists_mask?
    rw [Value.settled_of_mask? mask]
    exact ⟨_, rfl, seconds, mask, rfl⟩
  | _ =>
    obtain ⟨bits, rfl⟩ := holds
    obtain rfl := Except.ok.inj entered
    exact ⟨_, decodeMask?_bits (named _ rfl), rfl⟩

theorem alike_self (encodes : field.Encodes value encoded) : value.Alike value := by
  rcases encodes.value_cases with ⟨rfl, _⟩ | ⟨moment, rfl, _⟩ | ⟨number, mask, _⟩
  · exact .null
  · exact .time rfl
  · exact .mask mask mask

theorem alike_of_foundAs (encodes : field.Encodes left encoded) (first : field.FoundAs left found)
    (second : field.FoundAs right found) : left.Alike right := by
  cases field with
  | start | originationEnd | consumptionEnd => exact Value.alike_of_cutTo first second
  | duration =>
    obtain ⟨seconds, read, rfl⟩ := first
    obtain ⟨others, readToo, same⟩ := second
    obtain rfl := Value.int.inj same
    exact .mask read readToo
  | _ =>
    have same : left = right := Eq.trans (Eq.symm first) second
    exact same ▸ encodes.alike_self

/-- The entry of a field is written as its value means. -/
theorem written?_eq (encodes : field.Encodes value encoded) :
    value.written? = some encoded.toJson := by
  rcases encodes.value_cases with ⟨rfl, rfl⟩ | ⟨moment, rfl, rfl⟩ | ⟨number, mask, encodedMask⟩
  · rfl
  · rfl
  · rw [Value.written?_of_mask? mask, Value.toJson_of_mask? encodedMask]

theorem toJson_congr (encodes : field.Encodes left encoded) (encodesToo : field.Encodes right other)
    (alike : left.Alike right) : encoded.toJson = other.toJson := by
  apply Option.some.inj
  rw [← encodes.written?_eq, ← encodesToo.written?_eq, alike.written?_eq]

/-- An entry is written if the integer that the value stands for can be. -/
theorem writable_iff (encodes : field.Encodes value encoded) :
    encoded.Writable ↔ ∀ number ∈ value.mask?, Text.Writable number := by
  have single {other : Value} (leaf : other.parts = [other]) :
      other.Writable ↔ ∀ number ∈ other.mask?, Text.Writable number := by
    simp only [Value.Writable, Value.Everywhere, leaf, List.mem_singleton, forall_eq]
  rcases encodes.value_cases with ⟨rfl, rfl⟩ | ⟨moment, rfl, rfl⟩ | ⟨number, mask, encodedMask⟩
  · exact single rfl
  · exact (single rfl).trans (by simp [Value.mask?, Value.integer?])
  · have leaf : encoded.parts = [encoded] := by
      rcases Value.mask?_eq_some_iff.mp encodedMask with rfl | ⟨set, rfl, _⟩
      · rfl
      · rfl
    rw [single leaf, mask, encodedMask]

theorem alike_of_equal (encodes : field.Encodes left encoded) (encodesToo : field.Encodes right other)
    (equal : left.equal right = true) : left.Alike right := by
  rcases encodes.value_cases with ⟨rfl, _⟩ | ⟨moment, rfl, _⟩ | ⟨number, mask, _⟩
  · rcases encodesToo.value_cases with ⟨rfl, _⟩ | ⟨moment, rfl, _⟩ | ⟨number, mask, _⟩
    · exact .null
    · cases equal
    · simp [(Value.not_equal_mask mask (.inl rfl)).2] at equal
  · rcases encodesToo.value_cases with ⟨rfl, _⟩ | ⟨later, rfl, _⟩ | ⟨number, mask, _⟩
    · cases equal
    · exact .time (by rw [DateTime.elapsed_of_equal equal])
    · simp [(Value.not_equal_mask mask (.inr ⟨moment, rfl⟩)).2] at equal
  · rcases encodesToo.value_cases with ⟨rfl, _⟩ | ⟨later, rfl, _⟩ | ⟨others, maskToo, _⟩
    · simp [(Value.not_equal_mask mask (.inl rfl)).1] at equal
    · simp [(Value.not_equal_mask mask (.inr ⟨later, rfl⟩)).1] at equal
    · rw [Value.equal_of_mask? mask maskToo] at equal
      have same : number = others := by simpa using equal
      exact .mask mask (same ▸ maskToo)

end Encodes

end Field

end KeyProtection
