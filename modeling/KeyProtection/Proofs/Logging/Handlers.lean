import KeyProtection.Proofs.Logging.Requests

/-! Handlers over whole scripts. The first request that sets the level of a logger attaches its handlers,
and no step ever changes them again; the level is that of the last such request. -/

namespace KeyProtection.Logging

/-- The levels that a script sets for a logger, in order. -/
def levels [Runtime] (environment : Environment) (steps : List LogStep) (name : LoggerName) : List Level :=
  (requests environment steps).filterMap fun request => request.levelFor? name

theorem levels_cons [Runtime] (environment : Environment) (step : LogStep) (rest : List LogStep)
    (name : LoggerName) :
    levels environment (step :: rest) name =
      (step.levelFor? environment name).toList ++
        levels (step.environmentAfter environment) rest name := by
  rw [levels, requests, List.filterMap_append, LogStep.levelFor?, levels]
  cases step.request? environment with
  | none => rfl
  | some request =>
    cases level : request.levelFor? name with
    | none => simp [level]
    | some level => simp [level]

/-- What a logger may have: nothing, the console, or the console and one file. -/
def AreHandlers (handlers : List Handler) : Prop :=
  handlers = [] ∨ handlers = [.console] ∨ ∃ path, handlers = [.console, .file path]

theorem AreHandlers.console_mem {handlers : List Handler} (shaped : AreHandlers handlers)
    (some : handlers ≠ []) : .console ∈ handlers := by
  rcases shaped with rfl | rfl | ⟨path, rfl⟩
  · exact absurd rfl some
  · exact List.mem_cons_self
  · exact List.mem_cons_self

namespace Request

theorem areHandlers (request : Request) (directory : Directory) :
    AreHandlers (request.handlers directory) := by
  rw [handlers]
  split
  · next path _ => exact .inr (.inr ⟨path, rfl⟩)
  · exact .inr (.inl rfl)

theorem handlers_ne_nil (request : Request) (directory : Directory) :
    request.handlers directory ≠ [] := by
  rw [handlers]
  split <;> exact List.cons_ne_nil _ _

/-- There is a handler for a file exactly if the chosen file is a path that could be opened. -/
theorem file_mem_handlers {request : Request} {directory : Directory} {path : FilePath} :
    .file path ∈ request.handlers directory ↔
      ∃ given, request.chosenFile.ifTrue? = some (.text given) ∧
        (directory.openLog given).2 = .ok path := by
  rw [handlers, opening]
  cases chosen : request.chosenFile.ifTrue? with
  | none => simp
  | some value =>
    cases value with
    | text given =>
      cases opened : (directory.openLog given).2 with
      | error error => simp [Except.map, opened]
      | ok found => simp [Except.map, opened, eq_comm]
    | _ => simp

end Request

namespace LogSession

variable [Runtime]

theorem level_step (session : LogSession) (step : LogStep) (name : LoggerName) :
    ((session.step step).1.registry.logger name).level =
      (step.levelFor? session.environment name).getD (session.registry.logger name).level := by
  rw [logger_step, LogStep.levelFor?]
  cases step.request? session.environment with
  | none => rfl
  | some request => cases level : request.levelFor? name <;> simp [level]

/-- No step changes the handlers of a logger that has some. -/
theorem handlers_step_kept {session : LogSession} {name : LoggerName}
    (attached : (session.registry.logger name).handlers ≠ []) (step : LogStep) :
    ((session.step step).1.registry.logger name).handlers =
      (session.registry.logger name).handlers := by
  rw [logger_step]
  cases step.request? session.environment with
  | none => rfl
  | some request =>
    cases level : request.levelFor? name with
    | none => simp [level]
    | some level => simp [level, LogSession.attached, attached]

/-- A logger without handlers gets those of the request that sets its level. -/
theorem handlers_step_first {session : LogSession} {name : LoggerName} {step : LogStep}
    {request : Request} {level : Level} (bare : (session.registry.logger name).handlers = [])
    (asks : step.request? session.environment = some request)
    (sets : request.levelFor? name = some level) :
    ((session.step step).1.registry.logger name).handlers =
      request.handlers session.directory := by
  rw [logger_step, asks]
  simp [sets, attached, bare]

/-- A step that does not set the level of a logger leaves that logger as it is. -/
theorem logger_step_kept {session : LogSession} {name : LoggerName} {step : LogStep}
    (sets : step.levelFor? session.environment name = none) :
    (session.step step).1.registry.logger name = session.registry.logger name := by
  rw [LogStep.levelFor?] at sets
  rw [logger_step]
  cases asks : step.request? session.environment with
  | none => rfl
  | some request =>
    rw [asks, Option.bind_some] at sets
    simp [sets]

theorem exists_request {environment : Environment} {step : LogStep} {name : LoggerName}
    {level : Level} (sets : step.levelFor? environment name = some level) :
    ∃ request, step.request? environment = some request ∧
      request.levelFor? name = some level :=
  Option.bind_eq_some_iff.mp sets

theorem areHandlers_step {session : LogSession} {name : LoggerName}
    (shaped : AreHandlers (session.registry.logger name).handlers) (step : LogStep) :
    AreHandlers ((session.step step).1.registry.logger name).handlers := by
  by_cases bare : (session.registry.logger name).handlers = []
  · cases sets : step.levelFor? session.environment name with
    | none => rwa [logger_step_kept sets]
    | some level =>
      obtain ⟨request, asks, sets⟩ := exists_request sets
      rw [handlers_step_first bare asks sets]
      exact request.areHandlers session.directory
  · rwa [handlers_step_kept bare]

/-- After a step a logger has handlers exactly if it had some or the step has set its level. -/
theorem handlers_step_eq_nil {session : LogSession} {step : LogStep} {name : LoggerName} :
    ((session.step step).1.registry.logger name).handlers = [] ↔
      (session.registry.logger name).handlers = [] ∧
        step.levelFor? session.environment name = none := by
  by_cases bare : (session.registry.logger name).handlers = []
  · cases sets : step.levelFor? session.environment name with
    | none => simp [logger_step_kept sets, bare]
    | some level =>
      obtain ⟨request, asks, sets⟩ := exists_request sets
      simp [handlers_step_first bare asks sets, request.handlers_ne_nil]
  · simp [handlers_step_kept bare, bare]

theorem level_run (session : LogSession) (steps : List LogStep) (name : LoggerName) :
    ((session.run steps).1.registry.logger name).level =
      ((levels session.environment steps name).getLast?).getD
        (session.registry.logger name).level := by
  induction steps generalizing session with
  | nil => rfl
  | cons step rest later =>
    rw [run_cons, later, level_step, environment_step, levels_cons]
    cases step.levelFor? session.environment name with
    | none => rfl
    | some level =>
      cases last : (levels (step.environmentAfter session.environment) rest name).getLast? <;>
        simp [last, List.getLast?_cons]

theorem areHandlers_run {session : LogSession} {name : LoggerName}
    (shaped : AreHandlers (session.registry.logger name).handlers) (steps : List LogStep) :
    AreHandlers ((session.run steps).1.registry.logger name).handlers := by
  induction steps generalizing session with
  | nil => exact shaped
  | cons step rest later => exact later (areHandlers_step shaped step)

theorem handlers_run_kept {session : LogSession} {name : LoggerName}
    (attached : (session.registry.logger name).handlers ≠ []) (steps : List LogStep) :
    ((session.run steps).1.registry.logger name).handlers =
      (session.registry.logger name).handlers := by
  induction steps generalizing session with
  | nil => rfl
  | cons step rest later =>
    have kept := handlers_step_kept attached step
    rw [run_cons, later (kept ▸ attached), kept]

theorem handlers_run_eq_nil {session : LogSession} {steps : List LogStep} {name : LoggerName} :
    ((session.run steps).1.registry.logger name).handlers = [] ↔
      (session.registry.logger name).handlers = [] ∧
        levels session.environment steps name = [] := by
  induction steps generalizing session with
  | nil => simp [run, levels, requests]
  | cons step rest later =>
    rw [run_cons, later, handlers_step_eq_nil, environment_step, levels_cons]
    cases step.levelFor? session.environment name <;> simp

end LogSession

end KeyProtection.Logging
