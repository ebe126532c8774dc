import KeyProtection.Proofs.Parameters.Slots

/-! Steps of sessions. Only its own settings change a builder that is there, and only a step that makes
a builder adds one; what a step is answered depends on the steps before it alone. -/

namespace KeyProtection

/-- A builder that nobody has set. -/
def Builder.unset : Builder := {}

namespace SessionStep

/-- A builder is made for any context but null. -/
def makesBuilder : SessionStep → Bool
  | .builder .null => false
  | .builder _ => true
  | _ => false

/-- The setting that a step applies to the builder of a number. -/
def setting? (number : Nat) : SessionStep → Option Setting
  | .set target setting => if target = number then some setting else none
  | _ => none

theorem filterMap_setting?_map_set (number : Nat) (settings : List Setting) :
    (settings.map (.set number)).filterMap (setting? number) = settings := by
  induction settings with
  | nil => rfl
  | cons first rest step =>
    have found : setting? number (.set number first) = some first := if_pos rfl
    rw [List.map_cons, List.filterMap_cons_some found, step]

/-- What a step does to the builders: it makes one more, sets one of them, or leaves all as they are. -/
def builders (step : SessionStep) (builders : List Builder) : List Builder :=
  match step with
  | .builder .null => builders
  | .builder _ => builders ++ [.unset]
  | .set target setting => builders.modify target fun builder => builder.set setting
  | _ => builders

theorem builders_of_makesBuilder {step : SessionStep} (makes : step.makesBuilder)
    (builders : List Builder) : step.builders builders = builders ++ [.unset] := by
  cases step with
  | builder context =>
    cases context with
    | null => cases makes
    | _ => rfl
  | _ => cases makes

theorem length_builders {step : SessionStep} (makes : ¬ step.makesBuilder)
    (builders : List Builder) : (step.builders builders).length = builders.length := by
  cases step with
  | builder context =>
    cases context with
    | null => rfl
    | _ => exact absurd rfl makes
  | set target setting => exact List.length_modify _ _ _
  | _ => rfl

/-- A builder that is there stays, up to the setting that the step applies to it. -/
theorem getElem?_builders {builders : List Builder} {number : Nat} {builder : Builder}
    (present : builders[number]? = some builder) (step : SessionStep) :
    (step.builders builders)[number]? = some (builder.setAll (step.setting? number).toList) := by
  cases step with
  | builder context =>
    cases context with
    | null => exact present
    | _ => exact (List.getElem?_append_left (List.getElem?_eq_some_iff.mp present).1).trans present
  | set target setting =>
    by_cases same : target = number
    · subst same
      rw [SessionStep.builders, List.getElem?_modify_eq, present, setting?, if_pos rfl]
      rfl
    · rw [SessionStep.builders, List.getElem?_modify_ne _ _ same, present, setting?, if_neg same]
      rfl
  | _ => exact present

end SessionStep

namespace Session

theorem set_eq_modify {α : Type} {items : List α} {index : Nat} {item : α}
    (present : items[index]? = some item) (change : α → α) :
    items.set index (change item) = items.modify index change := by
  apply List.ext_getElem?
  intro position
  by_cases same : index = position
  · subst same
    obtain ⟨inside, _⟩ := List.getElem?_eq_some_iff.mp present
    rw [List.getElem?_set_self inside, List.getElem?_modify_eq, present]
    rfl
  · rw [List.getElem?_set_ne same, List.getElem?_modify_ne _ _ same]

theorem builders_adopt (session : Session) (made : Except Error KeyParameters) :
    (session.adopt made).1.builders = session.builders := by
  cases made with
  | ok parameters => rfl
  | error error => rfl

variable [Runtime]

theorem run_cons (session : Session) (step : SessionStep) (rest : List SessionStep) :
    session.run (step :: rest) =
      (((session.step step).1.run rest).1,
        (session.step step).2 :: ((session.step step).1.run rest).2) := rfl

theorem step_set {session : Session} {number : Nat} {builder : Builder}
    (present : session.builders[number]? = some builder) (setting : Setting) :
    session.step (.set number setting) =
      ({ session with builders := session.builders.set number (builder.set setting) },
        { outcome := .ok .done }) := by
  simp [step, Session.builder, present]

theorem step_build {session : Session} {number : Nat} {builder : Builder}
    (present : session.builders[number]? = some builder) :
    session.step (.build number) = match builder.build with
      | .ok parameters =>
        ({ session with parameters := session.parameters ++ [parameters] },
          { outcome := .ok (.fields parameters), log := session.buildLog parameters })
      | .error error => (session, { outcome := .error error }) := by
  simp only [step, Session.builder, present]
  rfl

/-- Asked to build, a session answers with what the builder of that number builds. -/
theorem outcome_build_iff (session : Session) (number : Nat) (parameters : KeyParameters) :
    (session.step (.build number)).2.outcome = .ok (.fields parameters) ↔
      ∃ builder, session.builders[number]? = some builder ∧ builder.build = .ok parameters := by
  cases found : session.builders[number]? with
  | none => simp [step, Session.builder, found, Except.bind]
  | some builder =>
    rw [step_build found]
    cases built : builder.build with
    | ok other => simp [built]
    | error error => simp [built]

/-- Whether a step succeeds or fails, it does to the builders what its kind says and no more. -/
theorem builders_step (session : Session) (step : SessionStep) :
    (session.step step).1.builders = step.builders session.builders := by
  cases step with
  | builder context =>
    cases context with
    | null => rfl
    | _ => rfl
  | set target setting =>
    cases found : session.builders[target]? with
    | none =>
      have outside := List.getElem?_eq_none_iff.mp found
      have same : session.builders.modify target (fun builder => builder.set setting) =
          session.builders := List.modify_eq_self outside
      simp [Session.step, Session.builder, found, SessionStep.builders, same]
    | some builder =>
      rw [step_set found]
      exact set_eq_modify found fun builder => builder.set setting
  | build target =>
    simp only [Session.step]
    split
    · rfl
    · rfl
  | new fields => exact builders_adopt session _
  | replace target fields => exact builders_adopt session _
  | _ => rfl

/-- A builder that is there is, after any steps, set by the settings that they hold for it. -/
theorem builder_run (session : Session) {number : Nat} {builder : Builder}
    (present : session.builders[number]? = some builder) (steps : List SessionStep) :
    (session.run steps).1.builders[number]? =
      some (builder.setAll (steps.filterMap (SessionStep.setting? number))) := by
  induction steps generalizing session builder with
  | nil => exact present
  | cons step rest later =>
    have kept := SessionStep.getElem?_builders present step
    rw [← builders_step] at kept
    rw [run_cons]
    refine (later _ kept).trans ?_
    cases found : step.setting? number with
    | none => rw [List.filterMap_cons_none found]; rfl
    | some setting => rw [List.filterMap_cons_some found]; rfl

theorem length_replies (session : Session) (steps : List SessionStep) :
    (session.run steps).2.length = steps.length := by
  induction steps generalizing session with
  | nil => rfl
  | cons step rest later => rw [run_cons, List.length_cons, later, List.length_cons]

theorem run_append (session : Session) (before after : List SessionStep) :
    session.run (before ++ after) = (((session.run before).1.run after).1,
      (session.run before).2 ++ ((session.run before).1.run after).2) := by
  induction before generalizing session with
  | nil => rfl
  | cons step rest later => rw [List.cons_append, run_cons, later, run_cons, List.cons_append]

/-- The reply to a step is the one that the session gives after all steps before it. -/
theorem reply_at (session : Session) (before after : List SessionStep) (step : SessionStep) :
    (session.run (before ++ step :: after)).2[before.length]? =
      some ((session.run before).1.step step).2 := by
  have position : before.length = (session.run before).2.length :=
    (length_replies session before).symm
  rw [run_append, run_cons, position, List.getElem?_append_right (Nat.le_refl _), Nat.sub_self]
  rfl

end Session

end KeyProtection
