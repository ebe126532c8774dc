import KeyProtection.Proofs.Logging.Handlers

/-! What loggers take for enabled. A logger looks at its effective level when it is first asked for a level
after the level of any logger has been set, and goes by what it found there until one is set again. -/

namespace KeyProtection.Logging

namespace LogStep

/-- The step sets the level of some logger. -/
def setsLevel [Runtime] (environment : Environment) (step : LogStep) : Bool :=
  (step.request? environment).any fun request =>
    (LoggerName.ofValue request.name).isOk && request.chosenLevel.isOk

/-- The step asks a logger for a level. -/
def asks (issued : List LoggerName) (name : LoggerName) (level : Int) : LogStep → Bool
  | .log number other _ => issued[number]? == some name && other == level
  | _ => false

end LogStep

namespace LogSession

variable [Runtime]

/-- The session in which a logger was first asked for a level since a level was last set, after one more
step of this session, if it was `found` before it. -/
def deciderAfter (session : LogSession) (name : LoggerName) (level : Int) (found : Option LogSession)
    (step : LogStep) : Option LogSession :=
  if step.setsLevel session.environment then none
  else if step.asks session.issued name level then some (found.getD session)
  else found

def decider? (session : LogSession) (name : LoggerName) (level : Int) (found : Option LogSession) :
    List LogStep → Option LogSession
  | [] => found
  | step :: rest =>
    (session.step step).1.decider? name level (session.deciderAfter name level found step) rest

/-- The session whose levels decide at the end of a script whether a logger takes a level for enabled: the
one in which it was first asked since a level was last set, or the last one if it was not. -/
def decider (session : LogSession) (name : LoggerName) (level : Int) (steps : List LogStep) :
    LogSession :=
  (session.decider? name level none steps).getD (session.run steps).1

/-- Writing keeps in mind what the logger has found. -/
theorem verdicts_write (session : LogSession) (name : LoggerName) (level : Int) (message : String) :
    (session.write name level message).1.verdicts =
      ((name, level), session.verdict name level) :: session.verdicts := by
  rw [write]
  dsimp only
  split
  · split
    · rfl
    · rfl
  · rfl

/-- A request forgets all verdicts if it sets a level, and else none. -/
theorem verdicts_get (session : LogSession) (request : Request)
    (current : request.environment = session.environment) :
    (session.get request.name request.level request.file).1.verdicts =
      if (LoggerName.ofValue request.name).isOk && request.chosenLevel.isOk then []
      else session.verdicts := by
  rcases get_cases session request current with ⟨_, refused, result⟩ | ⟨_, _, named, refused, result⟩ |
    ⟨_, _, _, named, chosen, _, result⟩ | ⟨_, _, named, chosen, _, result⟩
  · rw [result, refused]
    rfl
  · rw [result, named, refused]
    rfl
  · rw [result, named, chosen]
    rfl
  · rw [result, named, chosen]
    rfl

theorem lookup_verdicts_step {session : LogSession} {name : LoggerName} {level : Int}
    {found : Option LogSession} (decided : session.verdicts.lookup (name, level) =
      found.map fun decider => decider.registry.enabled name level) (step : LogStep) :
    (session.step step).1.verdicts.lookup (name, level) =
      (session.deciderAfter name level found step).map
        fun decider => decider.registry.enabled name level := by
  cases step with
  | environment environment => exact decided
  | get asked own file =>
    have verdicts := verdicts_get session
      ⟨asked.getD defaultName, own.getD .null, file.getD .null, session.environment⟩ rfl
    have sets : (LogStep.get asked own file).setsLevel session.environment =
        ((LoggerName.ofValue (asked.getD defaultName)).isOk &&
          (Request.mk (asked.getD defaultName) (own.getD .null) (file.getD .null)
            session.environment).chosenLevel.isOk) := rfl
    rw [LogSession.step, verdicts, deciderAfter, sets]
    split
    · rfl
    · exact decided
  | log number other message =>
    have sets : (LogStep.log number other message).setsLevel session.environment = false := rfl
    rw [LogSession.step, deciderAfter, sets, LogStep.asks]
    cases issued : session.issued[number]? with
    | none => exact decided
    | some asked =>
      simp only [verdicts_write, List.lookup_cons]
      by_cases same : asked = name ∧ other = level
      · obtain ⟨rfl, rfl⟩ := same
        simp only [beq_self_eq_true, Bool.and_self, if_true, verdict, decided]
        cases found with
        | none => rfl
        | some decider => rfl
      · have apart : ((name, level) == (asked, other)) = false :=
          beq_false_of_ne fun equal => same ⟨(Prod.mk.inj equal).1.symm, (Prod.mk.inj equal).2.symm⟩
        have other : (some asked == some name && other == level) = false := by
          rw [Bool.and_eq_false_iff]
          rcases Decidable.not_and_iff_not_or_not.mp same with differs | differs
          · exact .inl (beq_false_of_ne fun equal => differs (Option.some.inj equal))
          · exact .inr (beq_false_of_ne differs)
        rw [apart, other]
        exact decided

theorem lookup_verdicts_run {session : LogSession} {name : LoggerName} {level : Int}
    {found : Option LogSession} (decided : session.verdicts.lookup (name, level) =
      found.map fun decider => decider.registry.enabled name level) (steps : List LogStep) :
    (session.run steps).1.verdicts.lookup (name, level) =
      (session.decider? name level found steps).map
        fun decider => decider.registry.enabled name level := by
  induction steps generalizing session found with
  | nil => exact decided
  | cons step rest later => exact later (lookup_verdicts_step decided step)

/-- From a session that has no verdicts, every verdict is what the deciding session says. -/
theorem verdict_run {session : LogSession} (fresh : session.verdicts = []) (name : LoggerName) (level : Int)
    (steps : List LogStep) : (session.run steps).1.verdict name level =
      (session.decider name level steps).registry.enabled name level := by
  have decided : session.verdicts.lookup (name, level) =
      (none : Option LogSession).map fun decider => decider.registry.enabled name level := by
    rw [fresh]
    rfl
  rw [verdict, lookup_verdicts_run decided, decider]
  cases session.decider? name level none steps with
  | none => rfl
  | some decider => rfl

end LogSession

end KeyProtection.Logging
