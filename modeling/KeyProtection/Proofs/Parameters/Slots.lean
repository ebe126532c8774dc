import KeyProtection.Parameters.Session

/-! What builders hold. A setting writes values into fields, and a builder holds for every field the
last value written; when it is built, masks turn into flag sets of the type of their field. -/

namespace KeyProtection

namespace Field

theorem mem_all (field : Field) : field ∈ all := by
  cases field <;> decide

/-- The type of the flag sets that a field is built into. -/
def maskType? : Field → Option FlagType
  | purposes => some .purpose
  | paddings => some .padding
  | digests => some .digest
  | blockModes => some .blockMode
  | userAuthenticators => some .userAuthenticator
  | _ => none

/-- What is built for a field from what a builder holds for it: masks turn into flag sets of the type
of the field, and an absent value into null. -/
def BuiltFrom [Runtime] (field : Field) (held : Option Value) (built : Value) : Prop :=
  match held, field.maskType? with
  | none, _ => built = .null
  | some value, some type => ∃ set, FlagSet.ofValue type value = .ok set ∧ built = .flags set
  | some value, none => built = value

/-- Only one value is built from what is held for a field. -/
theorem BuiltFrom.unique [Runtime] {field : Field} {held : Option Value} {built other : Value}
    (first : field.BuiltFrom held built) (second : field.BuiltFrom held other) : built = other := by
  cases held with
  | none => exact Eq.trans first (Eq.symm second)
  | some value =>
    cases typed : field.maskType? with
    | none =>
      simp only [BuiltFrom, typed] at first second
      exact first.trans second.symm
    | some type =>
      simp only [BuiltFrom, typed] at first second
      obtain ⟨set, read, rfl⟩ := first
      obtain ⟨again, readAgain, rfl⟩ := second
      rw [read] at readAgain
      rw [Except.ok.inj readAgain]

end Field

namespace Setting

/-- The value that a setting writes into a field, if it writes one. The end of validity is written
into two fields, and encryption is required where no value says otherwise. -/
def written? : Setting → Field → Option Value
  | .encryptionRequired none, .flags => some (.int 1)
  | .encryptionRequired (some value), .flags => some (.int (if value.truthy then 1 else 0))
  | .start value, .start => some value
  | .validityEnd value, .originationEnd => some value
  | .validityEnd value, .consumptionEnd => some value
  | .originationEnd value, .originationEnd => some value
  | .consumptionEnd value, .consumptionEnd => some value
  | .purposes value, .purposes => some value
  | .paddings value, .paddings => some value
  | .digests value, .digests => some value
  | .blockModes value, .blockModes => some value
  | .userAuthenticators value, .userAuthenticators => some value
  | .duration value, .duration => some value
  | _, _ => none

/-- The last value that a list of settings writes into a field. -/
def lastWritten? (field : Field) (settings : List Setting) : Option Value :=
  (settings.filterMap fun setting => setting.written? field).getLast?

theorem lastWritten?_cons (field : Field) (setting : Setting) (rest : List Setting) :
    lastWritten? field (setting :: rest) =
      (lastWritten? field rest).or (setting.written? field) := by
  cases writes : setting.written? field with
  | none => simp [lastWritten?, writes]
  | some value => simp [lastWritten?, writes, List.getLast?_cons, Option.or_some]

theorem mem_of_lastWritten? {field : Field} {settings : List Setting} {value : Value}
    (written : lastWritten? field settings = some value) :
    ∃ setting ∈ settings, setting.written? field = some value :=
  List.mem_filterMap.mp (List.mem_of_getLast? written)

theorem isSome_lastWritten? {field : Field} {settings : List Setting} {setting : Setting}
    (member : setting ∈ settings) (writes : (setting.written? field).isSome) :
    (lastWritten? field settings).isSome := by
  obtain ⟨value, found⟩ := Option.isSome_iff_exists.mp writes
  have among : value ∈ settings.filterMap fun setting => setting.written? field :=
    List.mem_filterMap.mpr ⟨setting, member, found⟩
  rw [lastWritten?, List.getLast?_isSome]
  exact List.ne_nil_of_mem among

end Setting

namespace Builder

/-- The value that a builder holds for a field; only digests can be absent. -/
def stored? (builder : Builder) : Field → Option Value
  | .flags => some (.int (if builder.encryption then 1 else 0))
  | .start => some builder.start
  | .originationEnd => some builder.originationEnd
  | .consumptionEnd => some builder.consumptionEnd
  | .purposes => some builder.purposes
  | .paddings => some builder.paddings
  | .digests => builder.digests
  | .blockModes => some builder.blockModes
  | .userAuthenticators => some builder.userAuthenticators
  | .duration => some builder.duration

def setAll (builder : Builder) (settings : List Setting) : Builder := settings.foldl set builder

theorem stored?_set (builder : Builder) (setting : Setting) (field : Field) :
    (builder.set setting).stored? field =
      (setting.written? field).or (builder.stored? field) := by
  cases setting with
  | encryptionRequired value =>
    cases value with
    | none => cases field <;> rfl
    | some value => cases field <;> rfl
  | _ => cases field <;> rfl

/-- After any settings a builder holds the last value written, and what nobody wrote as before. -/
theorem stored?_setAll (builder : Builder) (settings : List Setting) (field : Field) :
    (builder.setAll settings).stored? field =
      (Setting.lastWritten? field settings).or (builder.stored? field) := by
  induction settings generalizing builder with
  | nil => rfl
  | cons setting rest step =>
    have later := step (builder.set setting)
    rw [stored?_set, ← Option.or_assoc, ← Setting.lastWritten?_cons] at later
    exact later

end Builder

end KeyProtection
