import KeyProtection.Error

/-! Results that may be errors. A chain of results is one exactly if all of its links are. -/

namespace KeyProtection

theorem bind_eq_ok_iff {α β : Type} {first : Except Error α} {next : α → Except Error β} {result : β} :
    (first >>= next) = .ok result ↔ ∃ value, first = .ok value ∧ next value = .ok result := by
  cases first with
  | error error => simp [bind, Except.bind]
  | ok value => simp [bind, Except.bind]

theorem map_eq_ok_iff {α β : Type} {first : Except Error α} {change : α → β} {result : β} :
    first.map change = .ok result ↔ ∃ value, first = .ok value ∧ change value = result := by
  cases first with
  | error error => simp [Except.map]
  | ok value => simp [Except.map]

/-- The error of a result that is none. -/
def errorOf? {α : Type} : Except Error α → Option Error
  | .ok _ => none
  | .error error => some error

theorem errorOf?_eq_some_iff {α : Type} {result : Except Error α} {error : Error} :
    errorOf? result = some error ↔ result = .error error := by
  cases result with
  | ok value => simp [errorOf?]
  | error other => simp [errorOf?]

theorem errorOf?_eq_none_iff {α : Type} {result : Except Error α} :
    errorOf? result = none ↔ ∃ value, result = .ok value := by
  cases result with
  | ok value => simp [errorOf?]
  | error other => simp [errorOf?]

theorem errorOf?_map {α β : Type} (result : Except Error α) (change : α → β) :
    errorOf? (result.map change) = errorOf? result := by
  cases result with
  | ok value => rfl
  | error error => rfl

theorem exists_map_eq_ok_iff {α β : Type} {result : Except Error α} {change : α → β} :
    (∃ changed, result.map change = .ok changed) ↔ ∃ value, result = .ok value := by
  rw [← errorOf?_eq_none_iff, errorOf?_map, errorOf?_eq_none_iff]

theorem map_eq_error_iff {α β : Type} {result : Except Error α} {change : α → β} {error : Error} :
    result.map change = .error error ↔ result = .error error := by
  rw [← errorOf?_eq_some_iff, errorOf?_map, errorOf?_eq_some_iff]

/-- Of two results in a row the first error counts. -/
theorem errorOf?_bind {α β : Type} {first : Except Error α} {next : α → Except Error β}
    {fault later : Option Error} (start : errorOf? first = fault)
    (continues : ∀ value, errorOf? (next value) = later) :
    errorOf? (first >>= next) = fault.or later := by
  rw [← start]
  cases first with
  | ok value => exact continues value
  | error error => rfl

theorem findSome?_cons_or {α β : Type} (check : α → Option β) (first : α) (rest : List α) :
    (first :: rest).findSome? check = (check first).or (rest.findSome? check) := by
  rw [List.findSome?_cons]
  cases check first with
  | none => rfl
  | some found => rfl

end KeyProtection
