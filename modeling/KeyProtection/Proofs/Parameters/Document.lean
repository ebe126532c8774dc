import KeyProtection.Proofs.Canonical.Refusal
import KeyProtection.Proofs.Entries
import KeyProtection.Proofs.Parameters.Entry

/-! Documents of built parameters. A document is the entries of all fields, each under its name, so the
parameters are found again in it field by field, and two sets of parameters have one text exactly when
they agree in every field. A document has a text if the integers in it can be written. -/

namespace KeyProtection

namespace KeyParameters

theorem holds_of_build [Runtime] {builder : Builder} {parameters : KeyParameters}
    (built : builder.build = .ok parameters) (field : Field) : field.Holds (parameters.get field) := by
  obtain ⟨acceptable, _, rfl⟩ := Builder.eq_frozen_of_build built
  cases field with
  | flags => cases required : builder.encryption <;> simp [Field.Holds, get, Builder.frozen, required]
  | start | originationEnd | consumptionEnd => exact trivial
  | digests =>
    cases held : builder.digests with
    | none => left; simp [get, Builder.frozen, held]
    | some value => right; simp [get, Builder.frozen, held]
  | duration => exact acceptable.duration
  | _ => exact ⟨_, rfl⟩

/-- The flag sets of built parameters have names. -/
theorem canName_of_build [Runtime] {builder : Builder} {parameters : KeyParameters}
    (built : builder.build = .ok parameters) (field : Field) : field.CanName (parameters.get field) := by
  intro type typed
  have source := ((Builder.build_eq_ok_iff builder parameters).mp built).2 field
  cases held : builder.stored? field with
  | none =>
    rw [held] at source
    have null : parameters.get field = .null := source
    rw [null]
    exact .inl (.inr (by cases type <;> rfl))
  | some value =>
    rw [held] at source
    simp only [Field.BuiltFrom, Option.mem_def.mp typed] at source
    obtain ⟨set, read, same⟩ := source
    obtain ⟨_, nameable, rfl⟩ := FlagSet.ofValue_eq_ok_iff.mp read
    rw [same]
    exact nameable

/-- The entries of a document, by field. -/
def documentEntries (encryption : Bool) (encoded : Field → Value) : List (String × Value) :=
  [("schema_ver", .text schemaVersion),
    (Field.flags.name, encoded .flags),
    ("encryption_required", .bool encryption),
    (Field.start.name, encoded .start),
    (Field.originationEnd.name, encoded .originationEnd),
    (Field.consumptionEnd.name, encoded .consumptionEnd),
    (Field.purposes.name, encoded .purposes),
    (Field.paddings.name, encoded .paddings),
    (Field.digests.name, encoded .digests),
    (Field.blockModes.name, encoded .blockModes),
    (Field.userAuthenticators.name, encoded .userAuthenticators),
    (Field.duration.name, encoded .duration)]

/-- Every field is found under its name. -/
theorem lookup_documentEntries (encryption : Bool) (encoded : Field → Value) (field : Field) :
    (documentEntries encryption encoded).lookup field.name = some (encoded field) := by
  cases field <;> rfl

/-- Null digests take part in a document like those that are there. -/
theorem document_eq [Runtime] (parameters : KeyParameters) :
    parameters.document = (do
      let encryption ← parameters.isEncryptionRequired
      let start ← parameters.start.timestamp
      let originationEnd ← parameters.originationEnd.timestamp
      let consumptionEnd ← parameters.consumptionEnd.timestamp
      let purposes ← parameters.purposes.toInteger
      let paddings ← parameters.paddings.toInteger
      let digests ← Field.digests.entry parameters.digests
      let blockModes ← parameters.blockModes.toInteger
      let userAuthenticators ← parameters.userAuthenticators.toInteger
      return .dict (documentEntries encryption fun
        | .flags => parameters.flags
        | .start => .ofText? start
        | .originationEnd => .ofText? originationEnd
        | .consumptionEnd => .ofText? consumptionEnd
        | .purposes => .int purposes
        | .paddings => .int paddings
        | .digests => digests
        | .blockModes => .int blockModes
        | .userAuthenticators => .int userAuthenticators
        | .duration => parameters.duration)) := by
  obtain ⟨flags, start, originationEnd, consumptionEnd, purposes, paddings, digests, blockModes,
    userAuthenticators, duration⟩ := parameters
  cases digests with
  | null => rfl
  | _ => rfl

/-- A document is put together from the entries of all fields, and there is one exactly if all of
them are there. -/
theorem document_eq_ok_iff [Runtime] (parameters : KeyParameters) (document : Value) :
    parameters.document = .ok document ↔
      ∃ encryption encoded, parameters.isEncryptionRequired = .ok encryption ∧
        (∀ field : Field, field.entry (parameters.get field) = .ok (encoded field)) ∧
        document = .dict (documentEntries encryption encoded) := by
  constructor
  · intro made
    simp only [document_eq, bind_eq_ok_iff] at made
    obtain ⟨encryption, required, start, started, originationEnd, originationEnded,
      consumptionEnd, consumptionEnded, purposes, purposesRead, paddings, paddingsRead, digests,
      digestsRead, blockModes, blockModesRead, userAuthenticators, userAuthenticatorsRead, same⟩ := made
    refine ⟨encryption, _, required, ?_, (Except.ok.inj same).symm⟩
    intro field
    cases field with
    | flags | duration => rfl
    | start => exact map_eq_ok_iff.mpr ⟨start, started, rfl⟩
    | originationEnd => exact map_eq_ok_iff.mpr ⟨originationEnd, originationEnded, rfl⟩
    | consumptionEnd => exact map_eq_ok_iff.mpr ⟨consumptionEnd, consumptionEnded, rfl⟩
    | purposes => exact map_eq_ok_iff.mpr ⟨purposes, purposesRead, rfl⟩
    | paddings => exact map_eq_ok_iff.mpr ⟨paddings, paddingsRead, rfl⟩
    | digests => exact digestsRead
    | blockModes => exact map_eq_ok_iff.mpr ⟨blockModes, blockModesRead, rfl⟩
    | userAuthenticators =>
      exact map_eq_ok_iff.mpr ⟨userAuthenticators, userAuthenticatorsRead, rfl⟩
  · rintro ⟨encryption, encoded, required, entries, rfl⟩
    obtain ⟨start, started, startEntry⟩ := map_eq_ok_iff.mp (entries .start)
    obtain ⟨originationEnd, originationEnded, originationEntry⟩ :=
      map_eq_ok_iff.mp (entries .originationEnd)
    obtain ⟨consumptionEnd, consumptionEnded, consumptionEntry⟩ :=
      map_eq_ok_iff.mp (entries .consumptionEnd)
    obtain ⟨purposes, purposesRead, purposesEntry⟩ := map_eq_ok_iff.mp (entries .purposes)
    obtain ⟨paddings, paddingsRead, paddingsEntry⟩ := map_eq_ok_iff.mp (entries .paddings)
    obtain ⟨blockModes, blockModesRead, blockModesEntry⟩ := map_eq_ok_iff.mp (entries .blockModes)
    obtain ⟨userAuthenticators, userAuthenticatorsRead, userAuthenticatorsEntry⟩ :=
      map_eq_ok_iff.mp (entries .userAuthenticators)
    simp only [document_eq, bind_eq_ok_iff]
    refine ⟨encryption, required, start, started, originationEnd, originationEnded, consumptionEnd,
      consumptionEnded, purposes, purposesRead, paddings, paddingsRead, _, entries .digests,
      blockModes, blockModesRead, userAuthenticators, userAuthenticatorsRead, ?_⟩
    have flagsEntry : parameters.flags = encoded .flags := Except.ok.inj (entries .flags)
    have durationEntry : parameters.duration = encoded .duration := Except.ok.inj (entries .duration)
    simp only [documentEntries, startEntry, originationEntry, consumptionEntry, purposesEntry,
      paddingsEntry, blockModesEntry, userAuthenticatorsEntry, flagsEntry, durationEntry]
    rfl

/-- The document of built parameters is made of entries from which each field can be found. -/
theorem encodes_of_document [Runtime] {builder : Builder} {parameters : KeyParameters} {document : Value}
    (built : builder.build = .ok parameters) (made : parameters.document = .ok document) :
    ∃ encryption encoded, parameters.isEncryptionRequired = .ok encryption ∧
      (∀ field : Field, field.Encodes (parameters.get field) (encoded field)) ∧
      document = .dict (documentEntries encryption encoded) := by
  obtain ⟨encryption, encoded, required, entries, same⟩ := (document_eq_ok_iff _ _).mp made
  exact ⟨encryption, encoded, required, fun field =>
    ⟨holds_of_build built field, canName_of_build built field, entries field⟩, same⟩

def ofFields (values : Field → Value) : KeyParameters where
  flags := values .flags
  start := values .start
  originationEnd := values .originationEnd
  consumptionEnd := values .consumptionEnd
  purposes := values .purposes
  paddings := values .paddings
  digests := values .digests
  blockModes := values .blockModes
  userAuthenticators := values .userAuthenticators
  duration := values .duration

theorem get_ofFields (values : Field → Value) (field : Field) :
    (ofFields values).get field = values field := by
  cases field <;> rfl

/-- Parameters read from a document: every field is looked up by its name. -/
def ofDocument? [Runtime] : Value → Option KeyParameters
  | .dict entries =>
    Field.all.foldlM (fun parameters field => do
      let value ← entries.lookup field.name
      return parameters.set field (← field.decode? value)) {}
  | _ => none

/-- In a settled document every field is found under its name. -/
theorem lookup_settled (encryption : Bool) (encoded : Field → Value) (field : Field) :
    (sortMembers (Value.settledEntries (documentEntries encryption encoded))).lookup field.name =
      some (encoded field).settled := by
  have listed : (field.name, encoded field) ∈ documentEntries encryption encoded := by
    cases field <;> simp [documentEntries]
  have settled : (field.name, (encoded field).settled) ∈
      Value.settledEntries (documentEntries encryption encoded) := by
    rw [Value.settledEntries_eq_map]
    exact List.mem_map.mpr ⟨_, listed, rfl⟩
  have distinct : ((Value.settledEntries (documentEntries encryption encoded)).map
      Prod.fst).Nodup := by
    have names : (Value.settledEntries (documentEntries encryption encoded)).map Prod.fst =
        "schema_ver" :: Field.flags.name :: "encryption_required" ::
          (Field.all.drop 1).map Field.name := rfl
    rw [names]
    decide
  have sorted := sortMembers_perm (Value.settledEntries (documentEntries encryption encoded))
  apply lookup_of_mem
  · exact (sorted.map Prod.fst).nodup_iff.mpr distinct
  · exact sorted.mem_iff.mpr settled

theorem foldlM_decode [Runtime] {entries : List (String × Value)} {target : KeyParameters}
    (found : ∀ field : Field,
      (entries.lookup field.name).bind field.decode? = some (target.get field))
    (fields : List Field) (parameters : KeyParameters) :
    fields.foldlM (fun parameters field => do
      let value ← entries.lookup field.name
      return parameters.set field (← field.decode? value)) parameters =
      some (fields.foldl (fun parameters field => parameters.set field (target.get field))
        parameters) := by
  induction fields generalizing parameters with
  | nil => rfl
  | cons field rest step =>
    obtain ⟨value, present, decoded⟩ := Option.bind_eq_some_iff.mp (found field)
    rw [List.foldlM_cons, present, List.foldl_cons, ← step]
    simp [decoded]

theorem get_foldl_set (target : KeyParameters) (field : Field) (fields : List Field)
    (parameters : KeyParameters) :
    (fields.foldl (fun parameters other => parameters.set other (target.get other))
        parameters).get field =
      if field ∈ fields then target.get field else parameters.get field := by
  induction fields generalizing parameters with
  | nil => rfl
  | cons other rest step =>
    rw [List.foldl_cons, step, get_set]
    by_cases later : field ∈ rest
    · simp [later]
    · by_cases same : field = other
      · simp [same]
      · simp [later, same]

theorem ofDocument?_of_decode [Runtime] {entries : List (String × Value)} {target : KeyParameters}
    (found : ∀ field : Field,
      (entries.lookup field.name).bind field.decode? = some (target.get field)) :
    ofDocument? (.dict entries) = some target := by
  rw [ofDocument?, foldlM_decode found]
  refine congrArg some (ext_get ?_)
  intro field
  rw [get_foldl_set, if_pos field.mem_all]

/-- Two sets of parameters agree as far as a text can tell. -/
structure Alike (left right : KeyParameters) : Prop where
  encryption : left.isEncryptionRequired = right.isEncryptionRequired
  start : left.start.Alike right.start
  originationEnd : left.originationEnd.Alike right.originationEnd
  consumptionEnd : left.consumptionEnd.Alike right.consumptionEnd
  purposes : left.purposes.Alike right.purposes
  paddings : left.paddings.Alike right.paddings
  digests : left.digests.Alike right.digests
  blockModes : left.blockModes.Alike right.blockModes
  userAuthenticators : left.userAuthenticators.Alike right.userAuthenticators
  duration : left.duration.Alike right.duration

/-- Built parameters are found again in the document that their text is read as. -/
theorem found_of_text [Runtime] {builder : Builder} {parameters : KeyParameters} {text : String}
    (built : builder.build = .ok parameters) (written : parameters.text = .ok text) :
    ∃ document json found, parameters.document = .ok document ∧
      Json.read? text.toList = some json ∧ json.value = document.settled ∧
      ofDocument? json.value = some found ∧
      ∀ field : Field, field.FoundAs (parameters.get field) (found.get field) := by
  obtain ⟨document, made, shown⟩ := bind_eq_ok_iff.mp written
  obtain ⟨encryption, encoded, _, encodes, rfl⟩ := encodes_of_document built made
  obtain ⟨json, read, stands⟩ := read?_canonicalText shown
  have decoded : ∀ field : Field, ∃ found, field.decode? (encoded field).settled = some found ∧
      field.FoundAs (parameters.get field) found :=
    fun field => (encodes field).exists_found
  obtain ⟨found, finds⟩ := Classical.skolem.mp decoded
  refine ⟨_, json, ofFields found, made, read, stands, ?_, ?_⟩
  · rw [stands, Value.settled]
    apply ofDocument?_of_decode
    intro field
    rw [lookup_settled, Option.bind_some, get_ofFields]
    exact (finds field).1
  · intro field
    rw [get_ofFields]
    exact (finds field).2

/-- The encryption flag is all there is to the flags of built parameters. -/
theorem alike_flags_iff {left right : KeyParameters} (holds : Field.flags.Holds left.flags)
    (holdsToo : Field.flags.Holds right.flags) :
    left.flags.Alike right.flags ↔ left.isEncryptionRequired = right.isEncryptionRequired := by
  have cleared {parameters : KeyParameters} (flags : parameters.flags = .int 0) :
      parameters.isEncryptionRequired = .ok false := by
    rw [isEncryptionRequired, flags]
    rfl
  have required {parameters : KeyParameters} (flags : parameters.flags = .int 1) :
      parameters.isEncryptionRequired = .ok true := by
    rw [isEncryptionRequired, flags]
    rfl
  rcases holds with first | first
  · rcases holdsToo with second | second
    · simp [Value.alike_int_iff, first, second, cleared]
    · simp [Value.alike_int_iff, first, second, cleared, required]
  · rcases holdsToo with second | second
    · simp [Value.alike_int_iff, first, second, cleared, required]
    · simp [Value.alike_int_iff, first, second, required]

theorem alike_iff {left right : KeyParameters} (holds : Field.flags.Holds left.flags)
    (holdsToo : Field.flags.Holds right.flags) :
    left.Alike right ↔ ∀ field : Field, (left.get field).Alike (right.get field) := by
  have flags := alike_flags_iff holds holdsToo
  constructor
  · intro alike field
    cases field with
    | flags => exact flags.mpr alike.encryption
    | start => exact alike.start
    | originationEnd => exact alike.originationEnd
    | consumptionEnd => exact alike.consumptionEnd
    | purposes => exact alike.purposes
    | paddings => exact alike.paddings
    | digests => exact alike.digests
    | blockModes => exact alike.blockModes
    | userAuthenticators => exact alike.userAuthenticators
    | duration => exact alike.duration
  · intro fields
    exact ⟨flags.mp (fields .flags), fields .start, fields .originationEnd, fields .consumptionEnd,
      fields .purposes, fields .paddings, fields .digests, fields .blockModes,
      fields .userAuthenticators, fields .duration⟩

theorem toJson_documentEntries_congr [Runtime] {encryption : Bool} {encoded other : Field → Value}
    (same : ∀ field, (encoded field).toJson = (other field).toJson) :
    (Value.dict (documentEntries encryption encoded)).toJson =
      (Value.dict (documentEntries encryption other)).toJson := by
  simp only [documentEntries, Value.toJson, Value.entriesToJson, same]

/-- Built parameters that agree in every field have one text. -/
theorem text_of_alike [Runtime] {builder other : Builder} {left right : KeyParameters} {text shown : String}
    (built : builder.build = .ok left) (written : left.text = .ok text)
    (builtToo : other.build = .ok right) (writtenToo : right.text = .ok shown)
    (alike : left.Alike right) : text = shown := by
  obtain ⟨_, made, canonical⟩ := bind_eq_ok_iff.mp written
  obtain ⟨encryption, encoded, required, encodes, rfl⟩ := encodes_of_document built made
  obtain ⟨_, madeToo, canonicalToo⟩ := bind_eq_ok_iff.mp writtenToo
  obtain ⟨flag, others, requiredToo, encodesToo, rfl⟩ := encodes_of_document builtToo madeToo
  have sameFlag : encryption = flag := by
    have same := alike.encryption
    rw [required, requiredToo] at same
    exact Except.ok.inj same
  subst sameFlag
  have fields := (alike_iff (holds_of_build built .flags) (holds_of_build builtToo .flags)).mp alike
  have same : ∀ field, (encoded field).toJson = (others field).toJson := by
    intro field
    exact (encodes field).toJson_congr (encodesToo field) (fields field)
  rw [Value.canonicalText, toJson_documentEntries_congr same, ← Value.canonicalText,
    canonicalToo] at canonical
  exact (Except.ok.inj canonical).symm

/-- A document is written if its entries are. -/
theorem everywhere_documentEntries_iff {encryption : Bool} {encoded : Field → Value} {holds : Value → Prop}
    (self : holds (.dict (documentEntries encryption encoded))) (version : holds (.text schemaVersion))
    (truth : holds (.bool encryption)) :
    (Value.dict (documentEntries encryption encoded)).Everywhere holds ↔
      ∀ field, (encoded field).Everywhere holds := by
  have leaf {value : Value} (single : value.parts = [value]) (held : holds value) :
      value.Everywhere holds := by
    rw [Value.Everywhere, single]
    exact fun part member => List.mem_singleton.mp member ▸ held
  rw [Value.everywhere_iff, and_iff_right self]
  simp only [Value.children, documentEntries, List.map_cons, List.map_nil, List.forall_mem_cons,
    leaf rfl version, leaf rfl truth, true_and]
  constructor
  · rintro ⟨flags, start, originationEnd, consumptionEnd, purposes, paddings, digests, blockModes,
      userAuthenticators, duration, _⟩ field
    cases field <;> assumption
  · intro entries
    exact ⟨entries _, entries _, entries _, entries _, entries _, entries _, entries _, entries _,
      entries _, entries _, fun _ member => (List.not_mem_nil member).elim⟩

section

variable [Runtime]

/-- Neither a time nor a context is an entry of a document, if the duration is valid. -/
theorem plain_document {parameters : KeyParameters} {document : Value}
    (duration : parameters.duration.IsDuration) (made : parameters.document = .ok document) :
    document.Plain := by
  obtain ⟨encryption, encoded, required, entries, rfl⟩ := (document_eq_ok_iff _ _).mp made
  refine (everywhere_documentEntries_iff ⟨nofun, nofun⟩ ⟨nofun, nofun⟩ ⟨nofun, nofun⟩).mpr ?_
  have leaf {value : Value} (single : value.parts = [value]) (other : value.kind ≠ .time)
      (otherToo : value.kind ≠ .context) : value.Plain := by
    intro part member
    rw [single] at member
    exact List.mem_singleton.mp member ▸ ⟨other, otherToo⟩
  intro field
  have entered := entries field
  cases field with
  | flags =>
    have same : parameters.flags = encoded .flags := Except.ok.inj entered
    rw [← same]
    cases held : parameters.flags with
    | int _ | bool _ | flags _ => exact leaf rfl nofun nofun
    | _ => simp [isEncryptionRequired, held, Value.operand, Value.integer?, Except.map] at required
  | duration =>
    have same : parameters.duration = encoded .duration := Except.ok.inj entered
    obtain ⟨seconds, mask⟩ := duration.exists_mask?
    rw [← same]
    rcases Value.mask?_eq_some_iff.mp mask with integer | ⟨set, flags, _⟩
    · exact integer ▸ leaf rfl nofun nofun
    · exact flags ▸ leaf rfl nofun nofun
  | start | originationEnd | consumptionEnd =>
    obtain ⟨stamp, _, same⟩ := map_eq_ok_iff.mp entered
    rw [← same]
    cases stamp with
    | none => exact leaf rfl nofun nofun
    | some written => exact leaf rfl nofun nofun
  | digests =>
    by_cases unspecified : parameters.get .digests = .null
    · rw [unspecified] at entered
      rw [← Except.ok.inj entered]
      exact leaf rfl nofun nofun
    · rw [Field.entry_digests unspecified] at entered
      obtain ⟨number, _, same⟩ := map_eq_ok_iff.mp entered
      exact same ▸ leaf rfl nofun nofun
  | _ =>
    obtain ⟨number, _, same⟩ := map_eq_ok_iff.mp entered
    exact same ▸ leaf rfl nofun nofun

/-- Parameters with a document and a valid duration have a text if the document can be written. -/
theorem writesIf_text {parameters : KeyParameters} {document : Value}
    (duration : parameters.duration.IsDuration) (made : parameters.document = .ok document) :
    WritesIf document.Writable parameters.text := by
  rw [text, made]
  exact Value.writesIf_canonicalText (plain_document duration made)

/-- The document of built parameters can be written if their masks and their duration can. -/
theorem writable_document_iff {builder : Builder} {parameters : KeyParameters} {document : Value}
    (built : builder.build = .ok parameters) (made : parameters.document = .ok document) :
    document.Writable ↔
      ∀ field, ∀ number ∈ (parameters.get field).mask?, Text.Writable number := by
  obtain ⟨encryption, encoded, _, encodes, rfl⟩ := encodes_of_document built made
  have noNumber {value : Value} (none : value.mask? = none) :
      ∀ number ∈ value.mask?, Text.Writable number := by
    intro number member
    rw [none] at member
    cases member
  rw [Value.Writable,
    everywhere_documentEntries_iff (noNumber rfl) (noNumber rfl) (noNumber rfl)]
  exact forall_congr' fun field => (encodes field).writable_iff

end

/-- The text of built parameters tells all there is to them. A reader finds the document in it, and
in the document the parameters, each time cut to its millisecond. So two sets of built parameters
have one text exactly if they agree in every field, and equal ones do. -/
theorem text_faithful [Runtime] {builder other : Builder} {left right : KeyParameters} {text shown : String}
    (built : builder.build = .ok left) (written : left.text = .ok text)
    (builtToo : other.build = .ok right) (writtenToo : right.text = .ok shown) :
    (∃ document json found, left.document = .ok document ∧
      Json.read? text.toList = some json ∧ json.value = document.settled ∧
      ofDocument? json.value = some found ∧
      ∀ field : Field, field.FoundAs (left.get field) (found.get field)) ∧
    (text = shown ↔ left.Alike right) ∧ (left.equal right = true → text = shown) := by
  have alikeFields := alike_iff (holds_of_build built .flags) (holds_of_build builtToo .flags)
  obtain ⟨document, json, found, made, read, stands, decoded, finds⟩ := found_of_text built written
  obtain ⟨_, encoded, _, encodes, _⟩ := encodes_of_document built made
  refine ⟨⟨document, json, found, made, read, stands, decoded, finds⟩, ⟨?_, ?_⟩, ?_⟩
  · rintro rfl
    obtain ⟨_, again, foundToo, _, readToo, _, decodedToo, findsToo⟩ :=
      found_of_text builtToo writtenToo
    obtain rfl : json = again := Option.some.inj (read.symm.trans readToo)
    obtain rfl : found = foundToo := Option.some.inj (decoded.symm.trans decodedToo)
    apply alikeFields.mpr
    intro field
    exact (encodes field).alike_of_foundAs (finds field) (findsToo field)
  · exact text_of_alike built written builtToo writtenToo
  · intro equal
    obtain ⟨_, madeToo, _⟩ := bind_eq_ok_iff.mp writtenToo
    obtain ⟨_, others, _, encodesToo, _⟩ := encodes_of_document builtToo madeToo
    apply text_of_alike built written builtToo writtenToo
    apply alikeFields.mpr
    intro field
    have listed : field ∈ Field.all := by cases field <;> decide
    have same := List.all_eq_true.mp equal field listed
    exact (encodes field).alike_of_equal (encodesToo field) same

/-- A duration given as a flag set is written like the integer of its bits. -/
theorem text_of_flagged_duration :
    let left : Builder := { start := .time .earliest, duration := .flags ⟨.purpose, 5⟩ }
    let right : Builder := { start := .time .earliest, duration := .int 5 }
    ∃ text, left.frozen.text = .ok text ∧ right.frozen.text = .ok text := by
  intro left right
  have stamped := Timestamp.timestamp_of_inRange .earliest (by decide)
  have built : left.build = .ok left.frozen := rfl
  have builtToo : right.build = .ok right.frozen := rfl
  have entries : ∀ field : Field, ∃ encoded, field.entry (left.frozen.get field) = .ok encoded := by
    intro field
    cases field with
    | start => exact ⟨_, map_eq_ok_iff.mpr ⟨_, stamped, rfl⟩⟩
    | _ => exact ⟨_, rfl⟩
  have entriesToo : ∀ field : Field,
      ∃ encoded, field.entry (right.frozen.get field) = .ok encoded := by
    intro field
    cases field with
    | start => exact ⟨_, map_eq_ok_iff.mpr ⟨_, stamped, rfl⟩⟩
    | _ => exact ⟨_, rfl⟩
  obtain ⟨encoded, entries⟩ := Classical.skolem.mp entries
  obtain ⟨others, entriesToo⟩ := Classical.skolem.mp entriesToo
  have made := (document_eq_ok_iff _ _).mpr ⟨_, encoded, rfl, entries, rfl⟩
  have madeToo := (document_eq_ok_iff _ _).mpr ⟨_, others, rfl, entriesToo, rfl⟩
  have short : ∀ field, ∀ number ∈ (left.frozen.get field).mask?, Text.Writable number := by
    intro field
    cases field <;> decide
  have shortToo : ∀ field, ∀ number ∈ (right.frozen.get field).mask?, Text.Writable number := by
    intro field
    cases field <;> decide
  obtain ⟨text, written⟩ := (writesIf_text (isDuration_of_build built) made).made
    ((writable_document_iff built made).mpr short)
  obtain ⟨shown, writtenToo⟩ := (writesIf_text (isDuration_of_build builtToo) madeToo).made
    ((writable_document_iff builtToo madeToo).mpr shortToo)
  obtain ⟨_, same, _⟩ := text_faithful built written builtToo writtenToo
  have alike : left.frozen.Alike right.frozen :=
    ⟨rfl, .time rfl, .null, .null, .mask rfl rfl, .mask rfl rfl, .null, .mask rfl rfl, .mask rfl rfl,
      .mask rfl rfl⟩
  exact ⟨text, written, (same.mpr alike) ▸ writtenToo⟩

end KeyParameters

end KeyProtection
