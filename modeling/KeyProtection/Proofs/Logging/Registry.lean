import KeyProtection.Logging.Session

/-! Registries read name by name. Making a logger changes what no name reads, an update changes what its
own name reads and nothing else, and a name stands for the root exactly if it is false or `root`. -/

namespace KeyProtection.Logging

/-- A change of the entries of a list that keeps their keys, read by key. -/
theorem lookup_map_entry {Key Entry : Type} [BEq Key] [LawfulBEq Key] (change : Key → Entry → Entry)
    (key : Key) (entries : List (Key × Entry)) :
    (entries.map fun (found, entry) => (found, change found entry)).lookup key =
      (entries.lookup key).map (change key) := by
  induction entries with
  | nil => rfl
  | cons first rest step =>
    obtain ⟨found, entry⟩ := first
    by_cases same : key = found
    · simp [same]
    · rw [List.map_cons, List.lookup_cons, List.lookup_cons, beq_false_of_ne same]
      exact step

namespace LoggerName

/-- A name that stands for the root. -/
def IsRoot (value : Value) : Prop := value.truthy = false ∨ value = .text root.text

/-- Two names of one logger. -/
def SameLogger (first second : Value) : Prop :=
  (IsRoot first ∧ IsRoot second) ∨ ∃ name, first = .text name ∧ second = .text name

theorem ofValue_of_isRoot {value : Value} (isRoot : IsRoot value) : ofValue value = .ok root := by
  rcases isRoot with falsehood | rfl
  · simp [ofValue, falsehood]
  · rfl

theorem truthy_of_not_isRoot {value : Value} (other : ¬ IsRoot value) : value.truthy = true := by
  cases truth : value.truthy with
  | false => exact absurd (.inl truth) other
  | true => rfl

theorem ofValue_text {content : String} (other : ¬ IsRoot (.text content)) :
    ofValue (.text content) = .ok (.named content) := by
  have different : content ≠ root.text := fun same => other (.inr (congrArg Value.text same))
  simp [ofValue, truthy_of_not_isRoot other, different]

theorem ofValue_eq_ok_iff {value : Value} {name : LoggerName} :
    ofValue value = .ok name ↔
      (IsRoot value ∧ name = .root) ∨
        ∃ content, value = .text content ∧ ¬ IsRoot value ∧ name = .named content := by
  constructor
  · intro valid
    by_cases isRoot : IsRoot value
    · rw [ofValue_of_isRoot isRoot] at valid
      exact .inl ⟨isRoot, (Except.ok.inj valid).symm⟩
    · cases value with
      | text content =>
        rw [ofValue_text isRoot] at valid
        exact .inr ⟨content, rfl, isRoot, (Except.ok.inj valid).symm⟩
      | _ => simp [ofValue, truthy_of_not_isRoot isRoot] at valid
  · rintro (⟨isRoot, rfl⟩ | ⟨content, rfl, other, rfl⟩)
    · exact ofValue_of_isRoot isRoot
    · exact ofValue_text other

/-- Valid names lead to one logger exactly if they are names of one logger. -/
theorem eq_iff_sameLogger {first second : Value} {name other : LoggerName}
    (valid : ofValue first = .ok name) (validToo : ofValue second = .ok other) :
    name = other ↔ SameLogger first second := by
  rcases ofValue_eq_ok_iff.mp valid with ⟨root, rfl⟩ | ⟨content, rfl, named, rfl⟩
  · rcases ofValue_eq_ok_iff.mp validToo with ⟨rootToo, rfl⟩ | ⟨content, rfl, named, rfl⟩
    · simp [SameLogger, root, rootToo]
    · simp only [SameLogger, named, and_false, false_or, reduceCtorEq, false_iff]
      rintro ⟨name, rfl, same⟩
      exact named (same ▸ root)
  · rcases ofValue_eq_ok_iff.mp validToo with ⟨rootToo, rfl⟩ | ⟨other, rfl, namedToo, rfl⟩
    · simp only [SameLogger, named, false_and, false_or, reduceCtorEq, false_iff]
      rintro ⟨name, same, rfl⟩
      exact named (same ▸ rootToo)
    · simp [SameLogger, named, eq_comm]

end LoggerName

namespace Registry

theorem find?_ensure (registry : Registry) (name other : LoggerName) :
    (registry.ensure name).find? other =
      (registry.find? other).or (if other = name then some {} else none) := by
  cases name with
  | root =>
    cases other with
    | root => rfl
    | named other => simp [ensure, find?]
  | named name =>
    cases found : registry.find? (.named name) with
    | none =>
      have extended : registry.ensure (.named name) =
          { registry with named := registry.named ++ [(name, {})] } := by
        simp only [ensure, found]
      rw [extended]
      cases other with
      | root => rfl
      | named other =>
        by_cases same : other = name
        · simp [find?, List.lookup_append, same]
        · simp [find?, List.lookup_append, List.lookup_cons, beq_false_of_ne same, same]
    | some logger =>
      have kept : registry.ensure (.named name) = registry := by simp only [ensure, found]
      rw [kept]
      by_cases same : other = .named name
      · simp [same, found]
      · simp [same]

/-- A logger that is made reads like one that nobody has made. -/
@[simp] theorem logger_ensure (registry : Registry) (name other : LoggerName) :
    (registry.ensure name).logger other = registry.logger other := by
  rw [logger, logger, find?_ensure]
  cases registry.find? other with
  | some logger => rfl
  | none => by_cases same : other = name <;> simp [same]

theorem find?_update (registry : Registry) (name other : LoggerName) (change : Logger → Logger) :
    (registry.update name change).find? other =
      (registry.find? other).map fun logger => if other = name then change logger else logger := by
  cases name with
  | root =>
    cases other with
    | root => rfl
    | named other => simp [update, find?]
  | named name =>
    cases other with
    | root => simp [update, find?]
    | named other =>
      simp only [update, find?, LoggerName.named.injEq]
      exact lookup_map_entry (fun found logger => if found = name then change logger else logger)
        other registry.named

/-- Once there is a logger, an update changes what its name reads. -/
theorem logger_update_ensure (registry : Registry) (name other : LoggerName)
    (change : Logger → Logger) :
    ((registry.ensure name).update name change).logger other =
      if other = name then change (registry.logger other) else registry.logger other := by
  rw [logger, find?_update, find?_ensure, logger]
  by_cases same : other = name
  · cases found : registry.find? other with
    | none => simp [same]
    | some logger => simp [same]
  · cases found : registry.find? other with
    | none => simp [same]
    | some logger => simp [same]

theorem update_update (registry : Registry) (name : LoggerName) (first second : Logger → Logger) :
    (registry.update name first).update name second =
      registry.update name fun logger => second (first logger) := by
  cases name with
  | root => rfl
  | named name =>
    simp only [update, List.map_map]
    congr 1
    apply List.map_congr_left
    rintro ⟨found, logger⟩ _
    by_cases same : found = name
    · simp [same]
    · simp [same]

end Registry

end KeyProtection.Logging
