import KeyProtection.Proofs.Mask
import KeyProtection.Proofs.Parameters.Slots

/-! Building decided. A builder builds exactly when every field that is read can be built from what it
holds, and otherwise fails for the first field that cannot, in the order in which they are read. -/

namespace KeyProtection

/-- A duration may be negative only where it is unlimited. -/
def Value.IsDuration : Value → Prop
  | .int seconds => 0 ≤ seconds ∨ seconds = unlimitedValidity
  | .flags _ => True
  | _ => False

instance : DecidablePred Value.IsDuration
  | .int seconds => inferInstanceAs (Decidable (0 ≤ seconds ∨ seconds = unlimitedValidity))
  | .flags _ => .isTrue trivial
  | .null | .bool _ | .float _ | .text _ | .time _ | .context _ | .list _ | .dict _ =>
    .isFalse not_false

theorem Value.isDuration_iff {value : Value} :
    value.IsDuration ↔
      ∃ seconds, value.mask? = some seconds ∧ (0 ≤ seconds ∨ seconds = unlimitedValidity) := by
  cases value with
  | int seconds => simp [IsDuration, mask?, integer?]
  | flags set =>
    have nonnegative : (0 : Int) ≤ set.bits := by omega
    simp [IsDuration, mask?, integer?, nonnegative]
  | _ => simp [IsDuration, mask?, integer?]

namespace Field

/-- What a field can be built from; the flags and the validity times take any value. -/
def Accepts (field : Field) (value : Value) : Prop :=
  match field with
  | purposes | paddings | digests | blockModes | userAuthenticators => value.IsMask
  | duration => value.IsDuration
  | _ => True

instance (field : Field) : DecidablePred field.Accepts := fun value =>
  match field with
  | purposes | paddings | digests | blockModes | userAuthenticators =>
    inferInstanceAs (Decidable value.IsMask)
  | duration => inferInstanceAs (Decidable value.IsDuration)
  | flags | start | originationEnd | consumptionEnd => .isTrue trivial

theorem accepts_iff_isMask {field : Field} {type : FlagType} (typed : field.maskType? = some type)
    (value : Value) : field.Accepts value ↔ value.IsMask := by
  cases field with
  | purposes | paddings | digests | blockModes | userAuthenticators => exact Iff.rfl
  | _ => cases typed

/-- The error about a value that is no integer. -/
def kindError (field : Field) (found : Kind) : Error :=
  match field.maskType? with
  | some type => .maskNotInteger type found
  | none => .durationNotInteger

/-- The error about an integer that is negative, with its text. -/
def negativeError (field : Field) (shown : String) : Error :=
  match field.maskType? with
  | some type => .maskNegative type shown
  | none => .durationNegative shown

theorem errorClass_kindError (field : Field) (found : Kind) :
    (field.kindError found).errorClass = .invalidArgument := by
  unfold kindError
  split <;> rfl

theorem errorClass_negativeError (field : Field) (shown : String) :
    (field.negativeError shown).errorClass = .invalidArgument := by
  unfold negativeError
  split <;> rfl

variable [Runtime]

/-- The flag set that is built for a field of masks has a name. -/
def CanName (field : Field) (value : Value) : Prop :=
  ∀ type ∈ field.maskType?, FlagSet.Nameable ⟨type, value.maskBits⟩

instance (field : Field) (value : Value) : Decidable (field.CanName value) :=
  inferInstanceAs (Decidable (∀ type ∈ field.maskType?, _))

/-- What a field is built from. -/
def Takes (field : Field) (value : Value) : Prop := field.Accepts value ∧ field.CanName value

instance (field : Field) : DecidablePred field.Takes := fun _ => inferInstanceAs (Decidable (_ ∧ _))

/-- What is said of a value that a field is not built from: a wrong kind is told from a negative number, if
that one can be shown, and where digits stand in the way the error is about their bound. -/
inductive Refuses (field : Field) (value : Value) : Error → Prop
  | kind (refused : ¬ field.Accepts value) (other : value.mask? = none) :
    Refuses field value (field.kindError value.kind)
  | negative {number : Int} (refused : ¬ field.Accepts value) (integer : value.mask? = some number)
    (below : number < 0) (writable : Text.Writable number) :
    Refuses field value (field.negativeError (String.ofList (integerText number)))
  | long {number : Int} {limit : Nat} (refused : ¬ field.Accepts value)
    (integer : value.mask? = some number) (below : number < 0) (long : ¬ Text.Writable number)
    (bound : Runtime.digitLimit = some limit) : Refuses field value (.integerTooLong limit)
  | unnamed {limit : Nat} (accepted : field.Accepts value) (unnamed : ¬ field.CanName value)
    (bound : Runtime.digitLimit = some limit) : Refuses field value (.integerTooLong limit)

/-- The value that a field is built into. -/
def made (field : Field) (value : Value) : Except Error Value :=
  match field.maskType?, field with
  | some type, _ => (FlagSet.ofValue type value).map .flags
  | none, duration => (KeyParameters.checkDuration value).map fun _ => value
  | none, _ => .ok value

/-- Only the bound on digits makes for an error that is no invalid argument. -/
theorem Refuses.errorClass {field : Field} {value : Value} {error : Error}
    (refuses : field.Refuses value error) : error.errorClass = .invalidArgument ∨
      ∃ limit, Runtime.digitLimit = some limit ∧ error = .integerTooLong limit := by
  cases refuses with
  | kind => exact .inl (errorClass_kindError field value.kind)
  | negative => exact .inl (errorClass_negativeError field _)
  | long _ _ _ _ bound => exact .inr ⟨_, bound, rfl⟩
  | unnamed _ _ bound => exact .inr ⟨_, bound, rfl⟩

theorem canName_of_unbounded (unbounded : Runtime.digitLimit = none) (field : Field) (value : Value) :
    field.CanName value :=
  fun _ _ => .inr (Runtime.allows_of_unbounded unbounded _)

theorem made_of_typed {field : Field} {type : FlagType} (typed : field.maskType? = some type)
    (value : Value) : field.made value = (FlagSet.ofValue type value).map .flags := by
  simp only [made, typed]

/-- What a field accepts is stored as it is, or as a flag set that has to be named. -/
theorem made_of_accepted {field : Field} {value : Value} (accepted : field.Accepts value) :
    WritesIf (field.CanName value) (field.made value) := by
  cases typed : field.maskType? with
  | some type =>
    have mask := (accepts_iff_isMask typed value).mp accepted
    rw [made_of_typed typed, FlagSet.ofValue_of_isMask type mask]
    apply ((FlagSet.writesIf_named _).map _).congr
    simp only [CanName, typed, Option.mem_def, Option.some.injEq, forall_eq']
  | none =>
    have stored : field.made value = .ok value := by
      cases field with
      | duration =>
        obtain ⟨seconds, integer, valid⟩ := Value.isDuration_iff.mp accepted
        have fine : ¬ (seconds < 0 ∧ seconds ≠ unlimitedValidity) := by
          rintro ⟨below, limited⟩
          exact valid.elim (Int.not_le.mpr below) limited
        simp only [made, typed, KeyParameters.checkDuration, integer, if_neg fine]
        rfl
      | flags | start | originationEnd | consumptionEnd => rfl
      | _ => cases typed
    rw [stored]
    refine (writesIf_ok value).congr (iff_of_true trivial ?_)
    simp [CanName, typed]

theorem made_of_kind {field : Field} {value : Value} (refused : ¬ field.Accepts value)
    (other : value.mask? = none) : field.made value = .error (field.kindError value.kind) := by
  cases typed : field.maskType? with
  | some type =>
    rw [made_of_typed typed, FlagSet.ofValue_of_mask?_none type other]
    simp only [kindError, typed]
    rfl
  | none =>
    cases field with
    | duration =>
      simp only [made, typed, KeyParameters.checkDuration, other]
      rfl
    | flags | start | originationEnd | consumptionEnd => exact absurd trivial refused
    | _ => cases typed

/-- A number that a field does not accept is negative, and is shown by the error. -/
theorem made_of_negative {field : Field} {value : Value} {number : Int} (refused : ¬ field.Accepts value)
    (integer : value.mask? = some number) :
    number < 0 ∧ field.made value = (Text.ofInteger number).bind fun shown =>
      .error (field.negativeError (String.ofList shown)) := by
  cases typed : field.maskType? with
  | some type =>
    rw [accepts_iff_isMask typed] at refused
    have below := (Value.not_isMask_iff integer).mp refused
    refine ⟨below, ?_⟩
    rw [made_of_typed typed, FlagSet.ofValue_of_negative type integer below]
    simp only [negativeError, typed]
    cases Text.ofInteger number <;> rfl
  | none =>
    cases field with
    | duration =>
      have invalid : ¬ (0 ≤ number ∨ number = unlimitedValidity) := fun valid =>
        refused (Value.isDuration_iff.mpr ⟨number, integer, valid⟩)
      obtain ⟨below, limited⟩ := not_or.mp invalid
      refine ⟨Int.not_le.mp below, ?_⟩
      have faulty : number < 0 ∧ number ≠ unlimitedValidity := ⟨Int.not_le.mp below, limited⟩
      simp only [made, typed, KeyParameters.checkDuration, integer, if_pos faulty]
      cases Text.ofInteger number <;> rfl
    | flags | start | originationEnd | consumptionEnd => exact absurd trivial refused
    | _ => cases typed

/-- An error that shows an integer is itself, or the one about the bound that the integer exceeds. -/
theorem bind_ofInteger_eq_error_iff {α : Type} {number : Int} {shows : List Char → Error} {error : Error} :
    ((Text.ofInteger number).bind fun shown => (.error (shows shown) : Except Error α)) = .error error ↔
      (Text.Writable number ∧ shows (integerText number) = error) ∨
        ¬ Text.Writable number ∧ ∃ limit, Runtime.digitLimit = some limit ∧ error = .integerTooLong limit := by
  cases text : Text.ofInteger number with
  | ok shown =>
    obtain ⟨writable, rfl⟩ := Text.ofInteger_eq_ok_iff.mp text
    simp [Except.bind, writable]
  | error other =>
    obtain ⟨long, limit, bound, rfl⟩ := (writesIf_ofInteger number).eq_error_iff.mp text
    simp [Except.bind, long, bound, eq_comm]

theorem made_eq_error_iff {field : Field} {value : Value} {error : Error} :
    field.made value = .error error ↔ field.Refuses value error := by
  by_cases accepted : field.Accepts value
  · rw [(made_of_accepted accepted).eq_error_iff]
    constructor
    · rintro ⟨unnamed, limit, bound, rfl⟩
      exact .unnamed accepted unnamed bound
    · rintro (⟨refused, _⟩ | ⟨refused, _, _, _⟩ | ⟨refused, _, _, _, _⟩ | ⟨_, unnamed, bound⟩)
      · exact absurd accepted refused
      · exact absurd accepted refused
      · exact absurd accepted refused
      · exact ⟨unnamed, _, bound, rfl⟩
  · cases integer : value.mask? with
    | none =>
      rw [made_of_kind accepted integer, Except.error.injEq]
      constructor
      · rintro rfl
        exact .kind accepted integer
      · rintro (_ | ⟨_, found, _, _⟩ | ⟨_, found, _, _, _⟩ | ⟨accepts, _, _⟩)
        · rfl
        · cases integer.symm.trans found
        · cases integer.symm.trans found
        · exact absurd accepts accepted
    | some number =>
      obtain ⟨below, shown⟩ := made_of_negative accepted integer
      rw [shown, bind_ofInteger_eq_error_iff]
      constructor
      · rintro (⟨writable, rfl⟩ | ⟨long, limit, bound, rfl⟩)
        · exact .negative accepted integer below writable
        · exact .long accepted integer below long bound
      · rintro (⟨_, found⟩ | ⟨_, found, _, writable⟩ | ⟨_, found, _, long, bound⟩ | ⟨accepts, _, _⟩)
        · cases integer.symm.trans found
        · obtain rfl := Option.some.inj (integer.symm.trans found)
          exact .inl ⟨writable, rfl⟩
        · obtain rfl := Option.some.inj (integer.symm.trans found)
          exact .inr ⟨long, _, bound, rfl⟩
        · exact absurd accepts accepted

theorem exists_made_iff {field : Field} {value : Value} :
    (∃ built, field.made value = .ok built) ↔ field.Takes value := by
  by_cases accepted : field.Accepts value
  · rw [(made_of_accepted accepted).exists_iff, Takes, and_iff_right accepted]
  · simp only [Takes, accepted, false_and, iff_false]
    rintro ⟨built, found⟩
    cases integer : value.mask? with
    | none => cases found.symm.trans (made_of_kind accepted integer)
    | some number =>
      rw [(made_of_negative accepted integer).2] at found
      obtain ⟨_, _, failed⟩ := bind_eq_ok_iff.mp found
      cases failed

end Field

namespace Builder

/-- Every field that building reads holds what it accepts. -/
structure Acceptable (builder : Builder) : Prop where
  digests : ∀ value, builder.digests = some value → value.IsMask
  purposes : builder.purposes.IsMask
  paddings : builder.paddings.IsMask
  blockModes : builder.blockModes.IsMask
  userAuthenticators : builder.userAuthenticators.IsMask
  duration : builder.duration.IsDuration

/-- The fields that building checks, in the order in which it reads them. -/
def readOrder : List Field :=
  [.digests, .purposes, .paddings, .blockModes, .userAuthenticators, .duration]

/-- The flag sets that a builder is built into have names. -/
def Nameable [Runtime] (builder : Builder) : Prop :=
  ∀ field value, builder.stored? field = some value → field.CanName value

/-- The value of the field is at fault, and no field that is read before it is. -/
structure FirstOffender [Runtime] (builder : Builder) (field : Field) (value : Value) : Prop where
  held : builder.stored? field = some value
  refused : ¬ field.Takes value
  earlier : ∃ before after, readOrder = before ++ field :: after ∧
    ∀ other ∈ before, ∀ found, builder.stored? other = some found → other.Takes found

theorem acceptable_iff (builder : Builder) :
    builder.Acceptable ↔
      ∀ field value, builder.stored? field = some value → field.Accepts value := by
  constructor
  · intro acceptable field value held
    cases field with
    | digests => exact acceptable.digests value held
    | purposes => exact Option.some.inj held ▸ acceptable.purposes
    | paddings => exact Option.some.inj held ▸ acceptable.paddings
    | blockModes => exact Option.some.inj held ▸ acceptable.blockModes
    | userAuthenticators => exact Option.some.inj held ▸ acceptable.userAuthenticators
    | duration => exact Option.some.inj held ▸ acceptable.duration
    | _ => exact trivial
  · intro accepted
    exact ⟨fun value held => accepted .digests value held, accepted .purposes _ rfl,
      accepted .paddings _ rfl, accepted .blockModes _ rfl, accepted .userAuthenticators _ rfl,
      accepted .duration _ rfl⟩

/-- The parameters that an acceptable builder is built into. -/
def frozen (builder : Builder) : KeyParameters where
  flags := .int (if builder.encryption then 1 else 0)
  start := builder.start
  originationEnd := builder.originationEnd
  consumptionEnd := builder.consumptionEnd
  purposes := .flags ⟨.purpose, builder.purposes.maskBits⟩
  paddings := .flags ⟨.padding, builder.paddings.maskBits⟩
  digests := builder.digests.elim .null fun value => .flags ⟨.digest, value.maskBits⟩
  blockModes := .flags ⟨.blockMode, builder.blockModes.maskBits⟩
  userAuthenticators := .flags ⟨.userAuthenticator, builder.userAuthenticators.maskBits⟩
  duration := builder.duration

/-- The error about the first field at fault. -/
def fault? [Runtime] (builder : Builder) : Option Error :=
  readOrder.findSome? fun field => (builder.stored? field).bind fun value => errorOf? (field.made value)

end Builder

/-- A result that stands unless there is a fault. -/
def verdict {α : Type} (fault : Option Error) (result : α) : Except Error α :=
  match fault with
  | some error => .error error
  | none => .ok result

/-- A result that can be but one value stands unless it is an error. -/
theorem eq_verdict {α : Type} {result : Except Error α} {only : α}
    (same : ∀ value, result = .ok value → only = value) : result = verdict (errorOf? result) only := by
  cases result with
  | ok value => rw [same value rfl]; rfl
  | error error => rfl

theorem verdict_bind {α β : Type} (fault later : Option Error) (first : α) (result : β)
    (next : α → Except Error β) (continues : next first = verdict later result) :
    (verdict fault first >>= next) = verdict (fault.or later) result := by
  cases fault with
  | none => exact continues
  | some error => rfl

variable [Runtime]

theorem Field.BuiltFrom.takes {field : Field} {type : FlagType} {value built : Value}
    (source : field.BuiltFrom (some value) built) (typed : field.maskType? = some type) :
    field.Takes value := by
  simp only [BuiltFrom, typed] at source
  obtain ⟨set, read, _⟩ := source
  apply exists_made_iff.mp
  rw [made_of_typed typed, read]
  exact ⟨_, rfl⟩

theorem ofValue_eq_verdict (field : Field) {type : FlagType} (typed : field.maskType? = some type)
    (value : Value) :
    FlagSet.ofValue type value = verdict (errorOf? (field.made value)) ⟨type, value.maskBits⟩ := by
  rw [Field.made_of_typed typed, errorOf?_map]
  exact eq_verdict fun _ read => (FlagSet.ofValue_eq_ok_iff.mp read).2.2

theorem checked_eq_verdict (parameters : KeyParameters) :
    parameters.checked = verdict (errorOf? (Field.duration.made parameters.duration)) parameters := by
  have fault : errorOf? (Field.duration.made parameters.duration) =
      errorOf? (KeyParameters.checkDuration parameters.duration) := errorOf?_map _ _
  rw [fault, KeyParameters.checked]
  cases KeyParameters.checkDuration parameters.duration <;> rfl

theorem buildDigests_eq_verdict (held : Option Value) :
    Builder.buildDigests held =
      verdict (held.bind fun value => errorOf? (Field.digests.made value))
        (held.elim .null fun value => .flags ⟨.digest, value.maskBits⟩) := by
  cases held with
  | none => rfl
  | some value =>
    rw [Builder.buildDigests, ofValue_eq_verdict .digests rfl]
    cases fault : errorOf? (Field.digests.made value) with
    | none => simp [verdict, fault, Except.map]
    | some error => simp [verdict, fault, Except.map]

namespace Builder

theorem fault?_eq (builder : Builder) :
    builder.fault? = (builder.digests.bind fun value => errorOf? (Field.digests.made value)).or
      ((errorOf? (Field.purposes.made builder.purposes)).or
        ((errorOf? (Field.paddings.made builder.paddings)).or
          ((errorOf? (Field.blockModes.made builder.blockModes)).or
            ((errorOf? (Field.userAuthenticators.made builder.userAuthenticators)).or
              (errorOf? (Field.duration.made builder.duration)))))) := by
  simp only [fault?, readOrder, findSome?_cons_or, List.findSome?_nil, Option.or_none]
  rfl

/-- Building reads field after field and stops at the first fault. -/
theorem build_eq_verdict (builder : Builder) :
    builder.build = verdict builder.fault? builder.frozen := by
  rw [Builder.build, buildDigests_eq_verdict, fault?_eq]
  apply verdict_bind
  rw [ofValue_eq_verdict .purposes rfl]
  apply verdict_bind
  rw [ofValue_eq_verdict .paddings rfl]
  apply verdict_bind
  rw [ofValue_eq_verdict .blockModes rfl]
  apply verdict_bind
  rw [ofValue_eq_verdict .userAuthenticators rfl]
  apply verdict_bind
  rw [checked_eq_verdict]
  rfl

/-- Fields that are not read are built from anything. -/
theorem takes_of_not_read {field : Field} (unread : field ∉ readOrder) (value : Value) :
    field.Takes value := by
  cases field with
  | flags | start | originationEnd | consumptionEnd =>
    exact ⟨trivial, by simp [Field.CanName, Field.maskType?]⟩
  | _ => exact absurd (by decide) unread

theorem fault?_eq_none_iff (builder : Builder) :
    builder.fault? = none ↔ ∀ field value, builder.stored? field = some value → field.Takes value := by
  rw [fault?, List.findSome?_eq_none_iff]
  constructor
  · intro clear field value held
    by_cases read : field ∈ readOrder
    · have silent := clear field read
      rw [held, Option.bind_some, errorOf?_eq_none_iff] at silent
      exact Field.exists_made_iff.mp silent
    · exact takes_of_not_read read value
  · intro taken field _
    cases held : builder.stored? field with
    | none => rfl
    | some value => exact errorOf?_eq_none_iff.mpr (Field.exists_made_iff.mpr (taken field value held))

/-- A builder can be built if what it holds is accepted and can be named. -/
theorem takes_iff (builder : Builder) :
    (∀ field value, builder.stored? field = some value → field.Takes value) ↔
      builder.Acceptable ∧ builder.Nameable := by
  rw [acceptable_iff]
  exact ⟨fun taken => ⟨fun field value held => (taken field value held).1,
      fun field value held => (taken field value held).2⟩,
    fun ⟨accepted, named⟩ field value held => ⟨accepted field value held, named field value held⟩⟩

theorem build_of_acceptable {builder : Builder} (acceptable : builder.Acceptable)
    (nameable : builder.Nameable) : builder.build = .ok builder.frozen := by
  have clear := (fault?_eq_none_iff builder).mpr ((takes_iff builder).mpr ⟨acceptable, nameable⟩)
  rw [build_eq_verdict, clear, verdict]

/-- A builder that cannot be built has a first field at fault, about which the error is. -/
theorem build_of_refused {builder : Builder} (refused : ¬ (builder.Acceptable ∧ builder.Nameable)) :
    ∃ field value error, builder.FirstOffender field value ∧ field.Refuses value error ∧
      builder.build = .error error := by
  rw [← takes_iff, ← fault?_eq_none_iff] at refused
  obtain ⟨error, fault⟩ := Option.ne_none_iff_exists'.mp refused
  obtain ⟨before, field, after, order, found, clear⟩ := List.findSome?_eq_some_iff.mp fault
  obtain ⟨value, held, faulty⟩ := Option.bind_eq_some_iff.mp found
  have failed := errorOf?_eq_some_iff.mp faulty
  refine ⟨field, value, error, ⟨held, ?_, before, after, order, ?_⟩, Field.made_eq_error_iff.mp failed, ?_⟩
  · intro taken
    obtain ⟨built, made⟩ := Field.exists_made_iff.mpr taken
    cases made.symm.trans failed
  · intro other member found stored
    have silent := clear other member
    rw [stored, Option.bind_some, errorOf?_eq_none_iff] at silent
    exact Field.exists_made_iff.mp silent
  · rw [build_eq_verdict, fault, verdict]

theorem exists_build_iff (builder : Builder) :
    (∃ parameters, builder.build = .ok parameters) ↔ builder.Acceptable ∧ builder.Nameable := by
  constructor
  · rintro ⟨parameters, built⟩
    by_cases possible : builder.Acceptable ∧ builder.Nameable
    · exact possible
    · obtain ⟨_, _, _, _, _, refused⟩ := build_of_refused possible
      cases built.symm.trans refused
  · rintro ⟨acceptable, nameable⟩
    exact ⟨builder.frozen, build_of_acceptable acceptable nameable⟩

theorem eq_frozen_of_build {builder : Builder} {parameters : KeyParameters}
    (built : builder.build = .ok parameters) :
    builder.Acceptable ∧ builder.Nameable ∧ parameters = builder.frozen := by
  obtain ⟨acceptable, nameable⟩ := (exists_build_iff builder).mp ⟨parameters, built⟩
  rw [build_of_acceptable acceptable nameable] at built
  exact ⟨acceptable, nameable, (Except.ok.inj built).symm⟩

theorem builtFrom_frozen {builder : Builder} (acceptable : builder.Acceptable)
    (nameable : builder.Nameable) (field : Field) :
    field.BuiltFrom (builder.stored? field) (builder.frozen.get field) := by
  have set (value : Value) {type : FlagType} (typed : field.maskType? = some type) (mask : value.IsMask)
      (held : builder.stored? field = some value) :
      ∃ set, FlagSet.ofValue type value = .ok set ∧
        (Value.flags ⟨type, value.maskBits⟩) = .flags set :=
    ⟨_, FlagSet.ofValue_eq_ok_iff.mpr ⟨mask, nameable field value held type typed, rfl⟩, rfl⟩
  cases field with
  | purposes => exact set _ rfl acceptable.purposes rfl
  | paddings => exact set _ rfl acceptable.paddings rfl
  | blockModes => exact set _ rfl acceptable.blockModes rfl
  | userAuthenticators => exact set _ rfl acceptable.userAuthenticators rfl
  | digests =>
    cases held : builder.digests with
    | none => simp [Field.BuiltFrom, stored?, held, frozen, KeyParameters.get]
    | some value =>
      simp only [Field.BuiltFrom, stored?, held, Field.maskType?, frozen, KeyParameters.get]
      exact set value rfl (acceptable.digests value held) held
  | _ => exact rfl

/-- A builder builds exactly one set of parameters if any: each field is built from what the builder
holds for it, and the duration is one. -/
theorem build_eq_ok_iff (builder : Builder) (parameters : KeyParameters) :
    builder.build = .ok parameters ↔ parameters.duration.IsDuration ∧
      ∀ field : Field, field.BuiltFrom (builder.stored? field) (parameters.get field) := by
  constructor
  · intro built
    obtain ⟨acceptable, nameable, rfl⟩ := eq_frozen_of_build built
    exact ⟨acceptable.duration, builtFrom_frozen acceptable nameable⟩
  · rintro ⟨duration, fields⟩
    have same : parameters.duration = builder.duration := fields .duration
    have taken : ∀ field value, builder.stored? field = some value → field.Takes value := by
      intro field value held
      cases typed : field.maskType? with
      | some type => exact (held ▸ fields field).takes typed
      | none =>
        refine ⟨?_, by simp [Field.CanName, typed]⟩
        cases field with
        | duration => exact Option.some.inj held ▸ same ▸ duration
        | flags | start | originationEnd | consumptionEnd => exact trivial
        | _ => cases typed
    obtain ⟨acceptable, nameable⟩ := (takes_iff builder).mp taken
    rw [build_of_acceptable acceptable nameable]
    congr 1
    apply KeyParameters.ext_get
    intro field
    exact (builtFrom_frozen acceptable nameable field).unique (fields field)

end Builder

theorem KeyParameters.isDuration_of_build {builder : Builder} {made : KeyParameters}
    (built : builder.build = .ok made) : made.duration.IsDuration :=
  ((Builder.build_eq_ok_iff builder made).mp built).1

end KeyProtection
