import KeyProtection.Proofs.Parameters.Build
import KeyProtection.Proofs.Parameters.Steps

/-! Failed builds. A session in which a build fails stays as it is, so that setting the fields at fault
is all it takes to go on. -/

namespace KeyProtection

namespace Builder

/-- The settings write only values that their fields are built from, and write every field at fault. -/
structure Repairs [Runtime] (builder : Builder) (settings : List Setting) : Prop where
  valid : ∀ setting ∈ settings, ∀ field value, setting.written? field = some value →
    field.Takes value
  complete : ∀ field value, builder.stored? field = some value → ¬ field.Takes value →
    ∃ setting ∈ settings, (setting.written? field).isSome

/-- Settings that repair a builder make it one that can be built. -/
theorem Repairs.acceptable [Runtime] {builder : Builder} {settings : List Setting}
    (repairs : builder.Repairs settings) :
    (builder.setAll settings).Acceptable ∧ (builder.setAll settings).Nameable := by
  rw [← takes_iff]
  intro field value held
  rw [stored?_setAll] at held
  rcases Option.or_eq_some_iff.mp held with written | ⟨untouched, stored⟩
  · obtain ⟨setting, member, writes⟩ := Setting.mem_of_lastWritten? written
    exact repairs.valid setting member field value writes
  · by_cases taken : field.Takes value
    · exact taken
    · obtain ⟨setting, member, writes⟩ := repairs.complete field value stored taken
      have overwritten := Setting.isSome_lastWritten? member writes
      simp [untouched] at overwritten

end Builder

namespace Session

end Session

end KeyProtection
