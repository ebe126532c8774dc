import KeyProtection.Proofs.Parameters.Document
import KeyProtection.Proofs.Parameters.Reachable

/-! The creation of parameters. A session holds exactly what its steps have made, in their order. All of
it has a valid duration, what was built holds flag sets of the right types, and no later step changes
any of it. -/

namespace KeyProtection

namespace Session

variable [Runtime]

/-- All that a script makes, in order, each set of parameters after the step that makes it. -/
def creations (session : Session) (steps : List SessionStep) : List (SessionStep × KeyParameters) :=
  (steps.zip (session.run steps).2).filterMap fun (step, reply) =>
    (step.made? reply).map fun made => (step, made)

theorem creations_cons (session : Session) (step : SessionStep) (rest : List SessionStep) :
    session.creations (step :: rest) =
      ((step.made? (session.step step).2).map fun made => (step, made)).toList ++
        (session.step step).1.creations rest := by
  rw [creations, run_cons, List.zip_cons_cons, List.filterMap_cons]
  cases answered : step.made? (session.step step).2 with
  | none => simp [answered, creations]
  | some made => simp [answered, creations]

/-- A session holds what it held at the start and then what its steps have made. -/
theorem parameters_run_creations (session : Session) (steps : List SessionStep) :
    (session.run steps).1.parameters =
      session.parameters ++ (session.creations steps).map Prod.snd := by
  induction steps generalizing session with
  | nil => exact (List.append_nil _).symm
  | cons step rest later =>
    rw [run_cons, later, parameters_step_made, creations_cons, List.map_append, List.append_assoc]
    cases step.made? (session.step step).2 with
    | none => rfl
    | some made => rfl

/-- What a build has made was built from a builder. -/
theorem built_of_creation {session : Session} {steps : List SessionStep} {number : Nat}
    {made : KeyParameters} (created : (.build number, made) ∈ session.creations steps) :
    ∃ builder : Builder, builder.build = .ok made := by
  induction steps generalizing session with
  | nil => cases created
  | cons step rest later =>
    rw [creations_cons] at created
    rcases List.mem_append.mp created with first | others
    · obtain ⟨parameters, answered, same⟩ := Option.map_eq_some_iff.mp (Option.mem_toList.mp first)
      obtain ⟨rfl, rfl⟩ := Prod.mk.inj same
      cases makes_of_made? answered with
      | built present built => exact ⟨_, built⟩
    · exact later others

/-- Parameters that a session holds are there, unchanged, after any further steps. -/
theorem parameters_run_kept {session : Session} {number : Nat} {parameters : KeyParameters}
    (present : session.parameters[number]? = some parameters) (steps : List SessionStep) :
    (session.run steps).1.parameters[number]? = some parameters := by
  rw [parameters_run_creations]
  exact (List.getElem?_append_left (List.getElem?_eq_some_iff.mp present).1).trans present

/-- What a replacement has made was made from parameters that the session holds, and still does. -/
theorem replaced_of_creation {session : Session} {steps : List SessionStep} {number : Nat}
    {fields : List (String × Value)} {made : KeyParameters}
    (created : (.replace number fields, made) ∈ session.creations steps) :
    ∃ origin, (session.run steps).1.parameters[number]? = some origin ∧
      origin.replace fields = .ok made := by
  induction steps generalizing session with
  | nil => cases created
  | cons step rest later =>
    rw [creations_cons] at created
    rcases List.mem_append.mp created with first | others
    · obtain ⟨parameters, answered, same⟩ := Option.map_eq_some_iff.mp (Option.mem_toList.mp first)
      obtain ⟨rfl, rfl⟩ := Prod.mk.inj same
      cases makes_of_made? answered with
      | replaced present changed => exact ⟨_, parameters_run_kept present _, changed⟩
    · exact later others

/-- In every session, whatever its steps are and whichever of them fail, the parameters are those that
the steps have made. All of them have a valid duration, those that were built hold in every field what
that field is built into, and each keeps its number and all its fields through any further steps. -/
theorem parameters_valid_and_kept (logLevel now : Int) (steps : List SessionStep) :
    let start := Session.mk logLevel now [] []
    let session := (start.run steps).1
    session.parameters = (start.creations steps).map Prod.snd ∧
    (∀ parameters ∈ session.parameters, parameters.duration.IsDuration) ∧
    (∀ (builder : Nat) (parameters : KeyParameters),
      (.build builder, parameters) ∈ start.creations steps →
      ∀ field : Field, field.Holds (parameters.get field)) ∧
    ∀ (number : Nat) (parameters : KeyParameters),
      session.parameters[number]? = some parameters →
      ∀ later : List SessionStep, (start.run (steps ++ later)).1.parameters[number]? =
        some parameters := by
  intro start session
  refine ⟨parameters_run_creations start steps, fun _ => isDuration_of_reached, ?_, ?_⟩
  · intro number parameters created field
    obtain ⟨builder, built⟩ := built_of_creation created
    exact KeyParameters.holds_of_build built field
  · intro number parameters present later
    rw [run_append]
    exact parameters_run_kept present later

end Session

end KeyProtection
