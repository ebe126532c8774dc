import KeyProtection.Proofs.Parameters.Build
import KeyProtection.Proofs.Parameters.Steps

/-! Parameters of sessions. A step adds at most one set of parameters, built, made from values or made
from one that is there, and keeps all others; so what every way of making parameters establishes holds
of all that are ever reached. -/

namespace KeyProtection

variable [Runtime]

namespace KeyParameters

/-- Parameters pass the check unchanged, and only with a valid duration. -/
theorem checked_eq_ok_iff {parameters made : KeyParameters} :
    parameters.checked = .ok made ↔ parameters.duration.IsDuration ∧ parameters = made := by
  have checks : errorOf? (Field.duration.made parameters.duration) = none ↔
      parameters.duration.IsDuration := by
    rw [errorOf?_eq_none_iff, Field.exists_made_iff]
    exact and_iff_left (by simp [Field.CanName, Field.maskType?])
  rw [checked_eq_verdict]
  cases fault : errorOf? (Field.duration.made parameters.duration) with
  | none => simp [verdict, checks.mp fault]
  | some error => simp [verdict, ← checks, fault]

/-- Whatever parameters are changed into has a valid duration. -/
theorem isDuration_of_replace {origin made : KeyParameters} {fields : List (String × Value)}
    (changed : origin.replace fields = .ok made) : made.duration.IsDuration := by
  unfold replace at changed
  cases named : namedChanges fields with
  | error error => simp [named, bind, Except.bind] at changed
  | ok changes =>
    have checked : (origin.change changes).checked = .ok made := by
      simpa [named, bind, Except.bind] using changed
    obtain ⟨duration, same⟩ := checked_eq_ok_iff.mp checked
    exact same ▸ duration

end KeyParameters

/-- The new parameters that a step answers with. -/
def SessionStep.made? (step : SessionStep) (reply : SessionReply) : Option KeyParameters :=
  match step, reply.outcome with
  | .build _, .ok (.fields made) | .new _, .ok (.fields made) | .replace _ _, .ok (.fields made) =>
    some made
  | _, _ => none

namespace Session

/-- What a step makes of what a session holds. -/
inductive Makes (session : Session) : SessionStep → KeyParameters → Prop
  | built {number : Nat} {builder : Builder} {made : KeyParameters}
    (present : session.builders[number]? = some builder) (built : builder.build = .ok made) :
    Makes session (.build number) made
  | new {fields : List (String × Value)} {made : KeyParameters}
    (fresh : KeyParameters.new fields = .ok made) : Makes session (.new fields) made
  | replaced {number : Nat} {origin made : KeyParameters} {fields : List (String × Value)}
    (present : session.parameters[number]? = some origin) (changed : origin.replace fields = .ok made) :
    Makes session (.replace number fields) made

/-- A step that answers with new parameters makes them of what the session holds. -/
theorem makes_of_made? {session : Session} {step : SessionStep} {made : KeyParameters}
    (answered : step.made? (session.step step).2 = some made) : session.Makes step made := by
  cases step with
  | build number =>
    cases found : session.builders[number]? with
    | none => simp [step, Session.builder, found, Except.bind, SessionStep.made?] at answered
    | some builder =>
      rw [step_build found] at answered
      cases built : builder.build with
      | error error => simp [built, SessionStep.made?] at answered
      | ok parameters =>
        simp only [built, SessionStep.made?, Option.some.injEq] at answered
        exact .built found (built.trans (congrArg Except.ok answered))
  | new fields =>
    cases fresh : KeyParameters.new fields with
    | error error => simp [step, fresh, adopt, SessionStep.made?] at answered
    | ok parameters =>
      simp only [step, fresh, adopt, SessionStep.made?, Option.some.injEq] at answered
      exact .new (fresh.trans (congrArg Except.ok answered))
  | replace number fields =>
    cases found : session.parameters[number]? with
    | none => simp [step, parameter, found, Except.bind, adopt, SessionStep.made?] at answered
    | some origin =>
      cases changed : origin.replace fields with
      | error error =>
        simp [step, parameter, found, changed, Except.bind, adopt, SessionStep.made?] at answered
      | ok parameters =>
        simp only [step, parameter, found, changed, Except.bind, adopt, SessionStep.made?,
          Option.some.injEq] at answered
        exact .replaced found (changed.trans (congrArg Except.ok answered))
  | _ => cases answered

/-- A step leaves all parameters as they are, and adds those that it answers with as new. -/
theorem parameters_step_made (session : Session) (step : SessionStep) :
    (session.step step).1.parameters =
      session.parameters ++ (step.made? (session.step step).2).toList := by
  cases step with
  | builder context =>
    cases context with
    | null => exact (List.append_nil _).symm
    | _ => exact (List.append_nil _).symm
  | set number setting =>
    cases found : session.builders[number]? with
    | none => simp [step, Session.builder, found, SessionStep.made?]
    | some builder => simp [step_set found, SessionStep.made?]
  | build number =>
    cases built : (session.builder number).bind Builder.build with
    | error error => simp [step, built, SessionStep.made?]
    | ok made => simp [step, built, SessionStep.made?]
  | new fields =>
    cases fresh : KeyParameters.new fields with
    | error error => simp [step, fresh, adopt, SessionStep.made?]
    | ok made => simp [step, fresh, adopt, SessionStep.made?]
  | replace number fields =>
    cases changed : (session.parameter number).bind fun origin => origin.replace fields with
    | error error => simp [step, changed, adopt, SessionStep.made?]
    | ok made => simp [step, changed, adopt, SessionStep.made?]
  | _ => exact (List.append_nil _).symm

/-- A step leaves all parameters as they are, and adds what it makes. -/
theorem parameters_step (session : Session) (step : SessionStep) :
    (session.step step).1.parameters = session.parameters ∨
      ∃ made, session.Makes step made ∧
        (session.step step).1.parameters = session.parameters ++ [made] := by
  have grown := parameters_step_made session step
  cases answered : step.made? (session.step step).2 with
  | none =>
    rw [answered] at grown
    exact .inl (grown.trans (List.append_nil _))
  | some made =>
    rw [answered] at grown
    exact .inr ⟨made, makes_of_made? answered, grown⟩

/-- What holds of all parameters at the start, and of what any step makes of such, holds of all
parameters after any steps. -/
theorem parameters_run (holds : KeyParameters → Prop)
    (makes : ∀ (session : Session) (step : SessionStep) (made : KeyParameters),
      (∀ parameters ∈ session.parameters, holds parameters) → session.Makes step made → holds made)
    (session : Session) (start : ∀ parameters ∈ session.parameters, holds parameters)
    (steps : List SessionStep) :
    ∀ parameters ∈ (session.run steps).1.parameters, holds parameters := by
  induction steps generalizing session with
  | nil => exact start
  | cons step rest later =>
    rw [run_cons]
    apply later
    rcases parameters_step session step with same | ⟨made, making, grown⟩
    · rw [same]
      exact start
    · rw [grown]
      intro parameters member
      rcases List.mem_append.mp member with there | added
      · exact start parameters there
      · rw [List.mem_singleton.mp added]
        exact makes session step made start making

/-- In every session all parameters have a valid duration. -/
theorem isDuration_of_reached {logLevel now : Int} {steps : List SessionStep}
    {parameters : KeyParameters}
    (reached : parameters ∈ ((Session.mk logLevel now [] []).run steps).1.parameters) :
    parameters.duration.IsDuration := by
  refine parameters_run (fun parameters => parameters.duration.IsDuration) ?_
    (Session.mk logLevel now [] []) (by simp) steps parameters reached
  intro session step made _ making
  cases making with
  | built present built => exact KeyParameters.isDuration_of_build built
  | new fresh => exact KeyParameters.isDuration_of_replace fresh
  | replaced present changed => exact KeyParameters.isDuration_of_replace changed

end Session

end KeyProtection
