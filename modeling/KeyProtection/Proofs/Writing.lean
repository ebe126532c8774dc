import KeyProtection.Proofs.Digits
import KeyProtection.Proofs.Outcome
import KeyProtection.Text.Integer

/-! Results that only the bound on digits can prevent. Whatever is put together from texts of integers is
there if all of them can be written, and else it fails with the one error about the bound; without a bound
it is always there. -/

namespace KeyProtection

theorem Runtime.exceeded?_eq_some_iff [Runtime] {count limit : Nat} :
    exceeded? count = some limit ↔ digitLimit = some limit ∧ limit < count := by
  rw [exceeded?, Option.filter_eq_some_iff, decide_eq_true_eq]

theorem Text.Writable.mono [Runtime] {number other : Int} (writable : Writable other)
    (less : number.natAbs ≤ other.natAbs) : Writable number :=
  Runtime.Allows.mono writable (length_digits_mono less)

section

variable [Runtime] {α β : Type} {fits other : Prop}

/-- The result is there under the condition, and else fails for the bound on digits. -/
structure WritesIf (fits : Prop) (result : Except Error α) : Prop where
  made : fits → ∃ value, result = .ok value
  refused : ¬ fits → ∃ limit, Runtime.digitLimit = some limit ∧ result = .error (.integerTooLong limit)

theorem writesIf_ok (value : α) : WritesIf True (.ok value : Except Error α) :=
  ⟨fun _ => ⟨value, rfl⟩, fun absurdly => absurd trivial absurdly⟩

theorem writesIf_ofInteger (number : Int) : WritesIf (Text.Writable number) (Text.ofInteger number) where
  made writable := ⟨_, Text.ofInteger_of_writable writable⟩
  refused long := by
    obtain ⟨limit, exceeded⟩ := Option.ne_none_iff_exists'.mp long
    have failed := Text.ofInteger_eq_error_iff.mpr ⟨limit, exceeded, rfl⟩
    exact ⟨limit, (Runtime.exceeded?_eq_some_iff.mp exceeded).1, failed⟩

namespace WritesIf

variable {result : Except Error α}

theorem congr (writes : WritesIf fits result) (same : fits ↔ other) : WritesIf other result :=
  propext same ▸ writes

theorem map (writes : WritesIf fits result) (change : α → β) : WritesIf fits (result.map change) where
  made fine := exists_map_eq_ok_iff.mpr (writes.made fine)
  refused long := by
    obtain ⟨limit, bound, failed⟩ := writes.refused long
    exact ⟨limit, bound, map_eq_error_iff.mpr failed⟩

theorem bind {next : α → Except Error β} (writes : WritesIf fits result)
    (continues : ∀ value, result = .ok value → WritesIf other (next value)) :
    WritesIf (fits ∧ other) (result >>= next) where
  made := by
    rintro ⟨fine, later⟩
    obtain ⟨value, found⟩ := writes.made fine
    rw [found]
    exact (continues value found).made later
  refused := by
    intro long
    by_cases fine : fits
    · obtain ⟨value, found⟩ := writes.made fine
      rw [found]
      exact (continues value found).refused fun later => long ⟨fine, later⟩
    · obtain ⟨limit, bound, failed⟩ := writes.refused fine
      rw [failed]
      exact ⟨limit, bound, rfl⟩

theorem exists_iff (writes : WritesIf fits result) : (∃ value, result = .ok value) ↔ fits := by
  refine ⟨?_, writes.made⟩
  rintro ⟨value, found⟩
  apply Classical.byContradiction
  intro long
  obtain ⟨limit, _, failed⟩ := writes.refused long
  cases found.symm.trans failed

theorem eq_error_iff (writes : WritesIf fits result) {error : Error} :
    result = .error error ↔
      ¬ fits ∧ ∃ limit, Runtime.digitLimit = some limit ∧ error = .integerTooLong limit := by
  constructor
  · intro failed
    have long : ¬ fits := fun fine => by
      obtain ⟨value, found⟩ := writes.made fine
      cases found.symm.trans failed
    obtain ⟨limit, bound, failedToo⟩ := writes.refused long
    exact ⟨long, limit, bound, Except.error.inj (failed.symm.trans failedToo)⟩
  · rintro ⟨long, limit, bound, rfl⟩
    obtain ⟨found, boundToo, failed⟩ := writes.refused long
    obtain rfl := Option.some.inj (bound.symm.trans boundToo)
    exact failed

/-- Without a bound nothing fails. -/
theorem of_unbounded (writes : WritesIf fits result) (unbounded : Runtime.digitLimit = none) : fits := by
  apply Classical.byContradiction
  intro long
  obtain ⟨limit, bound, _⟩ := writes.refused long
  cases unbounded.symm.trans bound

end WritesIf

end

end KeyProtection
