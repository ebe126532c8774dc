import KeyProtection.Proofs.Parameters.Build
import KeyProtection.Proofs.Parameters.Steps

/-! The history of a builder. Among all the steps of a session only the settings of that builder, from
the step that makes it on, decide what it builds: in every field the last value written. -/

namespace KeyProtection

namespace SessionStep

/-- The steps after the one that makes the builder of a number, if there is such a step. -/
def life? (number : Nat) : List SessionStep → Option (List SessionStep)
  | [] => none
  | step :: rest =>
    if step.makesBuilder then
      match number with
      | 0 => some rest
      | later + 1 => life? later rest
    else life? number rest

theorem life?_made {step : SessionStep} (makes : step.makesBuilder) (rest : List SessionStep) :
    life? 0 (step :: rest) = some rest := by
  simp [life?, makes]

theorem life?_next {step : SessionStep} (makes : step.makesBuilder) (number : Nat)
    (rest : List SessionStep) : life? (number + 1) (step :: rest) = life? number rest := by
  simp [life?, makes]

theorem life?_other {step : SessionStep} (makes : ¬ step.makesBuilder) (number : Nat)
    (rest : List SessionStep) : life? number (step :: rest) = life? number rest := by
  simp [life?, makes]

/-- The settings of the builder of a number, in the order of the steps. -/
def settings? (number : Nat) (steps : List SessionStep) : Option (List Setting) :=
  (life? number steps).map fun life => life.filterMap (setting? number)

end SessionStep

/-- What a builder holds for a field that nobody writes. -/
def Field.initial? : Field → Option Value
  | flags => some (.int 0)
  | start | originationEnd | consumptionEnd => some .null
  | purposes => some (.flags ⟨.purpose, 0⟩)
  | paddings => some (.flags ⟨.padding, 0⟩)
  | digests => none
  | blockModes => some (.flags ⟨.blockMode, 0⟩)
  | userAuthenticators => some (.flags ⟨.userAuthenticator, 0⟩)
  | duration => some (.int (-1))

theorem Builder.stored?_unset (field : Field) : unset.stored? field = field.initial? := by
  cases field <;> rfl

namespace Session

variable [Runtime]

/-- A builder that is not there yet is made by its own step, and set by the settings after it. -/
theorem builder_run_made (session : Session) (number : Nat) (steps : List SessionStep) :
    (session.run steps).1.builders[session.builders.length + number]? =
      (SessionStep.life? number steps).map fun life => Builder.unset.setAll
        (life.filterMap (SessionStep.setting? (session.builders.length + number))) := by
  induction steps generalizing session number with
  | nil => exact List.getElem?_eq_none (Nat.le_add_right _ _)
  | cons step rest later =>
    rw [run_cons]
    by_cases makes : step.makesBuilder
    · have grown : (session.step step).1.builders = session.builders ++ [.unset] := by
        rw [builders_step, SessionStep.builders_of_makesBuilder makes]
      cases number with
      | zero =>
        have present : (session.step step).1.builders[session.builders.length]? =
            some .unset := by
          rw [grown, List.getElem?_concat_length]
        rw [SessionStep.life?_made makes]
        exact builder_run _ present rest
      | succ number =>
        have length : (session.step step).1.builders.length = session.builders.length + 1 := by
          rw [grown, List.length_append, List.length_singleton]
        have made := later (session.step step).1 number
        rw [length, Nat.add_assoc, Nat.add_comm 1 number] at made
        rw [SessionStep.life?_next makes]
        exact made
    · have made := later (session.step step).1 number
      rw [builders_step, SessionStep.length_builders makes] at made
      rw [SessionStep.life?_other makes]
      exact made

/-- In every session a build answers with parameters exactly if its builder was made before it, and
each of their fields is built from the last value that a setting of that builder wrote before it, or
from the initial value where no setting wrote one; nothing else that went before has any say. -/
theorem build_reads_last_writes (logLevel now : Int) (before after : List SessionStep)
    (number : Nat) (parameters : KeyParameters) :
    (∃ reply, ((Session.mk logLevel now [] []).run (before ++ .build number :: after)).2[
        before.length]? = some reply ∧ reply.outcome = .ok (.fields parameters)) ↔
      ∃ settings, SessionStep.settings? number before = some settings ∧
        parameters.duration.IsDuration ∧
        ∀ field : Field, field.BuiltFrom
          ((Setting.lastWritten? field settings).or field.initial?) (parameters.get field) := by
  have made := builder_run_made (Session.mk logLevel now [] []) number before
  simp only [List.length_nil, Nat.zero_add] at made
  have answer : (∃ reply, ((Session.mk logLevel now [] []).run
      (before ++ .build number :: after)).2[before.length]? = some reply ∧
        reply.outcome = .ok (.fields parameters)) ↔
      ∃ builder, ((Session.mk logLevel now [] []).run before).1.builders[number]? = some builder ∧
        builder.build = .ok parameters := by
    rw [reply_at, ← outcome_build_iff]
    simp
  rw [answer, made, SessionStep.settings?]
  cases lived : SessionStep.life? number before with
  | none => simp
  | some life =>
    simp only [Option.map_some, Option.some.injEq, exists_eq_left', Builder.build_eq_ok_iff,
      Builder.stored?_setAll, Builder.stored?_unset]

end Session

end KeyProtection
