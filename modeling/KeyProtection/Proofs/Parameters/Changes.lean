import KeyProtection.Proofs.Parameters.Document
import KeyProtection.Proofs.Parameters.Reachable

/-! Changes of parameters. The last value that is given for a field replaces the one it has, all other
fields stay, and only a duration can be refused; so changes made one after the other are the later ones
put over the earlier ones, and parameters made from nothing are changes of the default ones. -/

namespace KeyProtection

namespace Field

theorem ofName?_name (field : Field) : ofName? field.name = some field := by
  cases field <;> decide

theorem name_of_ofName? {name : String} {field : Field} (found : ofName? name = some field) :
    field.name = name := by
  unfold ofName? at found
  have satisfied := List.find?_some found
  exact eq_of_beq satisfied

theorem name_inj {field other : Field} : field.name = other.name ↔ field = other := by
  constructor
  · intro same
    have found := ofName?_name field
    rw [same, ofName?_name] at found
    exact (Option.some.inj found).symm
  · exact congrArg name

/-- The last value that changes give a field. -/
def given? (field : Field) (changes : List (String × Value)) : Option Value :=
  changes.reverse.lookup field.name

theorem given?_cons (field : Field) (name : String) (value : Value) (rest : List (String × Value)) :
    field.given? ((name, value) :: rest) =
      (field.given? rest).or (if field.name = name then some value else none) := by
  rw [given?, List.reverse_cons, List.lookup_append, lookup_cons_entry]
  rfl

theorem given?_append (field : Field) (changes later : List (String × Value)) :
    field.given? (changes ++ later) = (field.given? later).or (field.given? changes) := by
  rw [given?, List.reverse_append, List.lookup_append]
  rfl

/-- Of changes that give no field twice, a field takes the value that stands under its name. -/
theorem given?_of_mem {field : Field} {changes : List (String × Value)} {value : Value}
    (distinct : (changes.map Prod.fst).Nodup) (member : (field.name, value) ∈ changes) :
    field.given? changes = some value := by
  rw [given?, lookup_reverse distinct]
  exact lookup_of_mem distinct member

theorem given?_distinctEntries (field : Field) (changes : List (String × Value)) :
    field.given? (Value.distinctEntries changes) = field.given? changes := by
  rw [given?, lookup_reverse (Value.nodup_distinctEntries changes)]
  exact Value.lookup_distinctEntries changes field.name

end Field

/-- All names that changes give a value for are names of fields. -/
def KnownNames (changes : List (String × Value)) : Prop :=
  ∀ entry ∈ changes, ∃ field : Field, field.name = entry.1

theorem knownNames_nil : KnownNames [] := by
  intro entry member
  cases member

theorem knownNames_cons (field : Field) (value : Value) {rest : List (String × Value)}
    (known : KnownNames rest) : KnownNames ((field.name, value) :: rest) := by
  intro entry member
  rcases List.mem_cons.mp member with rfl | later
  · exact ⟨field, rfl⟩
  · exact known entry later

/-- A name of no field, where all names before it are names of fields. -/
structure FirstUnknown (changes : List (String × Value)) (name : String) : Prop where
  unknown : ∀ field : Field, field.name ≠ name
  earlier : ∃ before value after, changes = before ++ (name, value) :: after ∧ KnownNames before

theorem FirstUnknown.cons {changes : List (String × Value)} {name : String}
    (first : FirstUnknown changes name) (field : Field) (value : Value) :
    FirstUnknown ((field.name, value) :: changes) name := by
  obtain ⟨before, found, after, order, known⟩ := first.earlier
  refine ⟨first.unknown, (field.name, value) :: before, found, after, ?_, ?_⟩
  · rw [order, List.cons_append]
  · exact knownNames_cons field value known

theorem FirstUnknown.not_knownNames {changes : List (String × Value)} {name : String}
    (first : FirstUnknown changes name) : ¬ KnownNames changes := by
  intro known
  obtain ⟨before, value, after, order, _⟩ := first.earlier
  obtain ⟨field, same⟩ := known (name, value) (order ▸ List.mem_append_right before List.mem_cons_self)
  exact first.unknown field same

/-- Later changes put over earlier ones, each name once. -/
def override (changes later : List (String × Value)) : List (String × Value) :=
  Value.distinctEntries (changes ++ later)

theorem knownNames_override {changes later : List (String × Value)} (known : KnownNames changes)
    (knownLater : KnownNames later) : KnownNames (override changes later) := by
  intro entry member
  have key : entry.1 ∈ (changes ++ later).map Prod.fst :=
    Value.mem_keys_distinctEntries.mp (List.mem_map_of_mem member)
  obtain ⟨given, inside, same⟩ := List.mem_map.mp key
  rw [← same]
  rcases List.mem_append.mp inside with early | late
  · exact known given early
  · exact knownLater given late

theorem errorClass_keyword (callee : Callee) (keyword : String) :
    (Error.keyword callee keyword).errorClass = .type := by
  unfold Error.keyword
  split
  · rfl
  · rfl

namespace KeyParameters

/-- Changes under the names of the fields. -/
def underNames (changes : List (Field × Value)) : List (String × Value) :=
  changes.map fun (field, value) => (field.name, value)

/-- The names are read up to the first that is unknown. -/
theorem namedChanges_cases (changes : List (String × Value)) :
    (KnownNames changes ∧ ∃ named, namedChanges changes = .ok named ∧ underNames named = changes) ∨
    ∃ name, FirstUnknown changes name ∧
      namedChanges changes = .error (.keyword .keyParameters name) := by
  induction changes with
  | nil => exact .inl ⟨knownNames_nil, [], rfl, rfl⟩
  | cons head rest step =>
    obtain ⟨name, value⟩ := head
    cases found : Field.ofName? name with
    | none =>
      right
      have unknown : ∀ field : Field, field.name ≠ name := by
        rintro field rfl
        rw [Field.ofName?_name] at found
        cases found
      refine ⟨name, ⟨unknown, [], value, rest, rfl, knownNames_nil⟩, ?_⟩
      rw [namedChanges, found]
    | some field =>
      obtain rfl := Field.name_of_ofName? found
      rcases step with ⟨known, named, read, back⟩ | ⟨other, first, failed⟩
      · left
        refine ⟨knownNames_cons field value known, (field, value) :: named, ?_, ?_⟩
        · rw [namedChanges, found, read]
          rfl
        · rw [← back]
          rfl
      · right
        refine ⟨other, first.cons field value, ?_⟩
        rw [namedChanges, found, failed]
        rfl

theorem get_change (parameters : KeyParameters) (changes : List (Field × Value)) (field : Field) :
    (parameters.change changes).get field =
      (field.given? (underNames changes)).getD (parameters.get field) := by
  induction changes generalizing parameters with
  | nil => rfl
  | cons head rest step =>
    obtain ⟨first, value⟩ := head
    have next : (parameters.change ((first, value) :: rest)).get field =
        (field.given? (underNames rest)).getD ((parameters.set first value).get field) :=
      step (parameters.set first value)
    have order : underNames ((first, value) :: rest) = (first.name, value) :: underNames rest := rfl
    rw [next, get_set, order, Field.given?_cons, Option.getD_or]
    by_cases same : field = first
    · rw [if_pos same, if_pos (congrArg Field.name same)]
      rfl
    · rw [if_neg same, if_neg (mt Field.name_inj.mp same)]
      rfl

/-- The parameters with what changes give in place of what they have. -/
def updated (parameters : KeyParameters) (changes : List (String × Value)) : KeyParameters :=
  ofFields fun field => (field.given? changes).getD (parameters.get field)

theorem get_updated (parameters : KeyParameters) (changes : List (String × Value)) (field : Field) :
    (parameters.updated changes).get field = (field.given? changes).getD (parameters.get field) :=
  get_ofFields _ field

/-- Changes after changes are the later ones put over the earlier ones. -/
theorem updated_updated (parameters : KeyParameters) (changes later : List (String × Value)) :
    (parameters.updated changes).updated later = parameters.updated (override changes later) := by
  apply ext_get
  intro field
  rw [get_updated, get_updated, get_updated, override, Field.given?_distinctEntries,
    Field.given?_append]
  cases field.given? later with
  | none => rfl
  | some value => rfl

/-- Under known names only the duration is checked. -/
theorem replace_of_known [Runtime] (parameters : KeyParameters) {changes : List (String × Value)}
    (known : KnownNames changes) :
    parameters.replace changes = (parameters.updated changes).checked := by
  rcases namedChanges_cases changes with ⟨_, named, read, back⟩ | ⟨name, first, _⟩
  · have same : parameters.change named = parameters.updated changes := by
      apply ext_get
      intro field
      rw [get_change, get_updated, back]
    rw [replace, read, ← same]
    rfl
  · exact absurd known first.not_knownNames

/-- A name that cannot be read is an error before anything is checked. -/
theorem replace_of_named_error [Runtime] (parameters : KeyParameters) {changes : List (String × Value)}
    {error : Error} (failed : namedChanges changes = .error error) :
    parameters.replace changes = .error error := by
  rw [replace, failed]
  rfl

/-- Changes under known names succeed exactly if the duration after them is valid. -/
theorem replace_eq_ok_iff [Runtime] {parameters made : KeyParameters} {changes : List (String × Value)}
    (known : KnownNames changes) :
    parameters.replace changes = .ok made ↔
      (parameters.updated changes).duration.IsDuration ∧ parameters.updated changes = made := by
  rw [replace_of_known parameters known, checked_eq_ok_iff]

/-- Parameters that are made by changes hold what is given and, in every other field, what was there. -/
theorem get_of_replace [Runtime] {parameters made : KeyParameters} {changes : List (String × Value)}
    (changed : parameters.replace changes = .ok made) (field : Field) :
    made.get field = (field.given? changes).getD (parameters.get field) := by
  rcases namedChanges_cases changes with ⟨known, _⟩ | ⟨name, _, failed⟩
  · obtain ⟨_, rfl⟩ := (replace_eq_ok_iff known).mp changed
    exact get_updated parameters changes field
  · rw [replace_of_named_error parameters failed] at changed
    cases changed

/-- A valid duration stays valid unless it is given an invalid one. -/
theorem isDuration_updated_iff {parameters : KeyParameters} (valid : parameters.duration.IsDuration)
    (changes : List (String × Value)) :
    (parameters.updated changes).duration.IsDuration ↔
      ∀ duration, Field.duration.given? changes = some duration → duration.IsDuration := by
  have duration : (parameters.updated changes).duration =
      (Field.duration.given? changes).getD parameters.duration :=
    get_updated parameters changes .duration
  rw [duration]
  cases given : Field.duration.given? changes with
  | none => simpa using valid
  | some value => simp

theorem updated_nil (parameters : KeyParameters) : parameters.updated [] = parameters := by
  apply ext_get
  intro field
  exact get_updated parameters [] field

/-- The values of all fields under their names. -/
def entries (parameters : KeyParameters) : List (String × Value) :=
  Field.all.map fun field => (field.name, parameters.get field)

theorem map_fst_entries (parameters : KeyParameters) :
    parameters.entries.map Prod.fst = Field.all.map Field.name := rfl

theorem knownNames_entries (parameters : KeyParameters) : KnownNames parameters.entries := by
  intro entry member
  obtain ⟨field, _, rfl⟩ := List.mem_map.mp member
  exact ⟨field, rfl⟩

/-- Given all fields of other parameters, in any order, nothing stays of the old ones. -/
theorem updated_entries (origin : KeyParameters) {parameters : KeyParameters}
    {fields : List (String × Value)} (reordered : fields.Perm parameters.entries) :
    origin.updated fields = parameters := by
  have names : (Field.all.map Field.name).Nodup := by decide
  have distinct : (fields.map Prod.fst).Nodup := by
    rw [(reordered.map Prod.fst).nodup_iff, map_fst_entries]
    exact names
  apply ext_get
  intro field
  have member : (field.name, parameters.get field) ∈ fields :=
    reordered.mem_iff.mpr (List.mem_map_of_mem field.mem_all)
  rw [get_updated, Field.given?_of_mem distinct member]
  rfl

end KeyParameters

namespace Session

/-- A call that makes parameters by itself, from the values of some fields or from other parameters. -/
inductive IsCall : SessionStep → Prop
  | new (fields : List (String × Value)) : IsCall (.new fields)
  | replace (number : Nat) (fields : List (String × Value)) : IsCall (.replace number fields)

theorem adopt_of_error {session : Session} {made : Except Error KeyParameters} {error : Error}
    (failed : (session.adopt made).2.outcome = .error error) : (session.adopt made).1 = session := by
  cases made with
  | ok parameters => cases failed
  | error error => rfl

theorem call_of_error [Runtime] {session : Session} {step : SessionStep} {error : Error} (call : IsCall step)
    (failed : (session.step step).2.outcome = .error error) : (session.step step).1 = session := by
  cases call with
  | new fields => exact adopt_of_error failed
  | replace number fields => exact adopt_of_error failed

end Session

namespace KeyParameters

/-- All fields of parameters with a valid duration make the same parameters anew. -/
theorem new_of_perm_entries [Runtime] {parameters : KeyParameters} (valid : parameters.duration.IsDuration)
    {fields : List (String × Value)} (reordered : fields.Perm parameters.entries) :
    new fields = .ok parameters := by
  have known : KnownNames fields := by
    intro entry member
    exact knownNames_entries parameters entry (reordered.mem_iff.mp member)
  rw [new, replace_of_known _ known, updated_entries _ reordered]
  exact checked_eq_ok_iff.mpr ⟨valid, rfl⟩

/-- Parameters that a session has reached can be changed under known names exactly if no invalid
duration is given. They take what is given and keep the rest, changes in a row are one change, and no
change changes nothing. New parameters are the default ones changed, and all fields of any parameters
make the same parameters anew, in particular those of built ones. An unknown name is an error whatever
else is given, and a call that fails leaves the session as it was. -/
theorem replace_laws [Runtime] {logLevel now : Int} {steps : List SessionStep} {parameters : KeyParameters}
    (reached : parameters ∈ ((Session.mk logLevel now [] []).run steps).1.parameters) :
    (∀ changes, KnownNames changes →
      ((∃ made, parameters.replace changes = .ok made) ↔
        ∀ duration, Field.duration.given? changes = some duration → duration.IsDuration) ∧
      ∀ made, parameters.replace changes = .ok made →
        (∀ field : Field, made.get field = (field.given? changes).getD (parameters.get field)) ∧
        ∀ later, KnownNames later →
          made.replace later = parameters.replace (override changes later)) ∧
    parameters.replace [] = .ok parameters ∧
    (∃ blank, new [] = .ok blank ∧ ∀ changes, new changes = blank.replace changes) ∧
    (∀ fields, fields.Perm parameters.entries → new fields = .ok parameters) ∧
    (∀ (builder : Builder) (built : KeyParameters), builder.build = .ok built →
      ∀ fields, fields.Perm built.entries → new fields = .ok built) ∧
    (∀ changes, ¬ KnownNames changes → ∃ name, FirstUnknown changes name ∧
      parameters.replace changes = .error (.keyword .keyParameters name) ∧
      new changes = .error (.keyword .keyParameters name) ∧
      (Error.keyword .keyParameters name).errorClass = .type) ∧
    ∀ (session : Session) (step : SessionStep) (error : Error), Session.IsCall step →
      (session.step step).2.outcome = .error error → (session.step step).1 = session := by
  have valid := Session.isDuration_of_reached reached
  refine ⟨?_, ?_, ⟨{}, rfl, fun _ => rfl⟩, ?_, ?_, ?_, ?_⟩
  · intro changes known
    constructor
    · rw [← isDuration_updated_iff valid changes]
      constructor
      · rintro ⟨made, changed⟩
        exact ((replace_eq_ok_iff known).mp changed).1
      · intro duration
        exact ⟨_, (replace_eq_ok_iff known).mpr ⟨duration, rfl⟩⟩
    · intro made changed
      obtain ⟨_, rfl⟩ := (replace_eq_ok_iff known).mp changed
      refine ⟨get_updated parameters changes, ?_⟩
      intro later knownLater
      rw [replace_of_known _ knownLater, replace_of_known _ (knownNames_override known knownLater),
        updated_updated]
  · rw [replace_eq_ok_iff knownNames_nil, updated_nil]
    exact ⟨valid, rfl⟩
  · intro fields reordered
    exact new_of_perm_entries valid reordered
  · intro builder built building fields reordered
    exact new_of_perm_entries (isDuration_of_build building) reordered
  · intro changes unknown
    rcases namedChanges_cases changes with ⟨known, _⟩ | ⟨name, first, failed⟩
    · exact absurd known unknown
    · refine ⟨name, first, replace_of_named_error _ failed, replace_of_named_error _ failed, ?_⟩
      exact errorClass_keyword .keyParameters name
  · intro session step error call failed
    exact Session.call_of_error call failed

/-- A purpose that is no flag set is kept through a change of other fields. A later duration that is no
integer fails in the same way after the change and in place of it. -/
theorem replace_laws_overridden :
    let parameters : KeyParameters := { purposes := .text "sign" }
    let changes : List (String × Value) :=
      [("flags", .bool true), ("user_authentication_validity_duration_seconds", .int 5)]
    let later : List (String × Value) :=
      [("user_authentication_validity_duration_seconds", .bool true)]
    (∃ made, parameters.replace changes = .ok made ∧ made.get .purposes = .text "sign" ∧
      made.replace later = parameters.replace (override changes later)) ∧
    ¬ ∃ made, parameters.replace later = .ok made := by
  intro parameters changes later
  have reached : parameters ∈
      ((Session.mk 0 0 [] []).run [.new [("purposes", .text "sign")]]).1.parameters :=
    List.mem_singleton.mpr rfl
  have knownLater : KnownNames later := knownNames_cons .duration (.bool true) knownNames_nil
  have known : KnownNames changes :=
    knownNames_cons .flags (.bool true) (knownNames_cons .duration (.int 5) knownNames_nil)
  obtain ⟨laws, _⟩ := replace_laws reached
  obtain ⟨succeeds, changed⟩ := laws changes known
  constructor
  · obtain ⟨made, replaced⟩ := succeeds.mpr (by decide)
    obtain ⟨fields, composed⟩ := changed made replaced
    exact ⟨made, replaced, fields .purposes, composed later knownLater⟩
  · intro replaced
    exact (laws later knownLater).1.mp replaced (.bool true) rfl

end KeyParameters

end KeyProtection
