import KeyProtection.Proofs.Logging.Registry

/-! Requests for loggers. A request with a valid name and level sets the level of its logger and attaches
handlers if there are none, so that the level is that of the last such request and the handlers are those
of the first. -/

namespace KeyProtection

/-- The level that an environment names, the ordinary one if it names none. -/
def Environment.level (environment : Environment) : Int :=
  (Settings.namedLevel? (environment.logLevel.getD "INFO").toList).getD Level.info

/-- The log file of an environment, null for none. -/
def Environment.file (environment : Environment) : Value :=
  ((environment.logFile.map Value.text).bind Value.ifTrue?).getD .null

/-- Settings that are not strict are there for every environment. -/
theorem Settings.load_null [Runtime] (environment : Environment) :
    Settings.load .null false environment = .ok ⟨environment.level, environment.file⟩ := by
  have choice : Settings.levelChoice (.dict []) environment =
      .text (environment.logLevel.getD "INFO") := by
    cases named : environment.logLevel with
    | none => simp [levelChoice, configured?, named]
    | some name => simp [levelChoice, configured?, named]
  have file : Settings.fileChoice (.dict []) environment = environment.file := by
    simp [fileChoice, configured?, Environment.file]
  have resolved : load .null false environment =
      (level (levelChoice (.dict []) environment) false).map fun level =>
        ⟨level, fileChoice (.dict []) environment⟩ := rfl
  have chosen : level (.text (environment.logLevel.getD "INFO")) false = .ok environment.level := by
    cases named : namedLevel? (environment.logLevel.getD "INFO").toList with
    | none => simp [level, Value.display, Environment.level, named, bind, Except.bind]
    | some number => simp [level, Value.display, Environment.level, named, bind, Except.bind]
  rw [resolved, choice, file, chosen]
  rfl

namespace Logging

/-- What a logger is asked for, and the environment at that moment. -/
structure Request where
  name : Value
  level : Value
  file : Value
  environment : Environment

namespace Request

/-- The level of the request itself, or that of the environment if it gives none. -/
def chosenLevel [Runtime] (request : Request) : Except Error Level :=
  match request.level with
  | .null => .ok (.int request.environment.level)
  | given => Level.ofValue given

/-- The file of the request itself, or that of the environment if it gives none that is true. -/
def chosenFile (request : Request) : Value := request.file.ifTrue?.getD request.environment.file

/-- The level that a request sets for a logger, if its name is that logger's and its level is valid. -/
def levelFor? [Runtime] (request : Request) (name : LoggerName) : Option Level :=
  match LoggerName.ofValue request.name, request.chosenLevel with
  | .ok found, .ok level => if found = name then some level else none
  | _, _ => none

theorem levelFor?_eq_some_iff [Runtime] {request : Request} {name : LoggerName} {level : Level} :
    request.levelFor? name = some level ↔
      LoggerName.ofValue request.name = .ok name ∧ request.chosenLevel = .ok level := by
  rw [levelFor?]
  cases LoggerName.ofValue request.name with
  | error error => simp
  | ok found =>
    cases request.chosenLevel with
    | error error => simp
    | ok chosen => by_cases same : found = name <;> simp [same]

/-- The attempt to open the file of a request, if there is one. -/
def opening (request : Request) (directory : Directory) :
    Directory × Except Error (Option FilePath) :=
  match request.chosenFile.ifTrue? with
  | none => (directory, .ok none)
  | some (.text path) => ((directory.openLog path).1, (directory.openLog path).2.map some)
  | some value => (directory, .error (.notAPath value.kind))

/-- The console, and the file if there is one that can be opened. -/
def handlers (request : Request) (directory : Directory) : List Handler :=
  match (request.opening directory).2 with
  | .ok (some path) => [.console, .file path]
  | _ => [.console]

end Request

namespace LogSession

theorem configure_eq (session : LogSession) (name : LoggerName) (request : Request) :
    session.configure name request.chosenFile =
      ({ session with
          registry := session.registry.update name fun logger =>
            { logger with handlers := logger.handlers ++ request.handlers session.directory }
          directory := (request.opening session.directory).1 },
        (request.opening session.directory).2.map fun _ => ()) := by
  rw [configure, Request.handlers, Request.opening]
  cases chosen : request.chosenFile.ifTrue? with
  | none => rfl
  | some value =>
    cases value with
    | text path =>
      simp only [attach, update]
      cases opened : (session.directory.openLog path).2 with
      | ok found => simp [Registry.update_update, Except.map]
      | error error => simp [Except.map]
    | _ => rfl

/-- The handlers that a request adds to a logger: only a logger without handlers gets any. -/
def attached (session : LogSession) (name : LoggerName) (request : Request) : List Handler :=
  if (session.registry.logger name).handlers = [] then request.handlers session.directory else []

/-- The session in which a request has set the level of its logger and attached what it adds. All loggers
look at their levels again from then on. -/
def granted (session : LogSession) (name : LoggerName) (request : Request) (level : Level) :
    LogSession :=
  { session with
    registry := (session.registry.ensure name).update name fun logger =>
      ⟨level, logger.handlers ++ session.attached name request⟩
    directory := if (session.registry.logger name).handlers = [] then
        (request.opening session.directory).1 else session.directory
    verdicts := [] }

theorem logger_granted (session : LogSession) (name other : LoggerName) (request : Request)
    (level : Level) :
    (session.granted name request level).registry.logger other =
      if other = name then
        ⟨level, (session.registry.logger other).handlers ++ session.attached name request⟩
      else session.registry.logger other :=
  Registry.logger_update_ensure _ _ _ _

/-- What stands in the way of a request with a valid name and level: its file, if it is opened. -/
def obstacle? (session : LogSession) (name : LoggerName) (request : Request) : Option Error :=
  match (session.registry.logger name).handlers, (request.opening session.directory).2 with
  | [], .error error => some error
  | _, _ => none

section

variable [Runtime]

theorem prepare_eq (session : LogSession) (name : LoggerName) (request : Request)
    (current : request.environment = session.environment) :
    session.prepare name request.level request.file =
      match request.chosenLevel with
      | .error error => ({ session with registry := session.registry.ensure name }, .error error)
      | .ok level =>
        (session.granted name request level,
          match session.obstacle? name request with
          | some error => .error error
          | none => .ok ()) := by
  have settings := Settings.load_null session.environment
  rw [← current] at settings
  have read : session.prepare name request.level request.file =
      match request.chosenLevel with
      | .error error => ({ session with registry := session.registry.ensure name }, .error error)
      | .ok level =>
        let made :=
          { ({ session with registry := session.registry.ensure name }.update name
              fun logger => { logger with level := level }) with verdicts := [] }
        if (made.registry.logger name).handlers.isEmpty then made.configure name request.chosenFile
        else (made, .ok ()) := by
    simp only [prepare, ← current, settings]
    rfl
  rw [read]
  cases request.chosenLevel with
  | error error => rfl
  | ok level =>
    simp only [update, Registry.logger_update_ensure, if_true, configure_eq, granted, attached,
      obstacle?, Registry.update_update]
    cases (session.registry.logger name).handlers with
    | nil => cases (request.opening session.directory).2 <;> rfl
    | cons first rest => simp

/-- A request with a valid name and level is answered if nothing stands in its way. -/
theorem get_granted {session : LogSession} {request : Request} {name : LoggerName} {level : Level}
    (current : request.environment = session.environment)
    (named : LoggerName.ofValue request.name = .ok name) (chosen : request.chosenLevel = .ok level)
    (free : session.obstacle? name request = none) :
    session.get request.name request.level request.file =
      ({ session.granted name request level with issued := session.issued ++ [name] },
        { outcome := .ok (.logger ((session.granted name request level).report name)) }) := by
  rw [get, named]
  simp only [prepare_eq session name request current, chosen, free]
  rfl

/-- A request is refused for its name, refused for its level, stopped at its file, or answered. -/
theorem get_cases (session : LogSession) (request : Request)
    (current : request.environment = session.environment) :
    (∃ error, LoggerName.ofValue request.name = .error error ∧
      session.get request.name request.level request.file =
        (session, { outcome := .error error })) ∨
    (∃ name error, LoggerName.ofValue request.name = .ok name ∧ request.chosenLevel = .error error ∧
      session.get request.name request.level request.file =
        ({ session with registry := session.registry.ensure name },
          { outcome := .error error })) ∨
    (∃ name level error, LoggerName.ofValue request.name = .ok name ∧
      request.chosenLevel = .ok level ∧ session.obstacle? name request = some error ∧
      session.get request.name request.level request.file =
        (session.granted name request level, { outcome := .error error })) ∨
    ∃ name level, LoggerName.ofValue request.name = .ok name ∧ request.chosenLevel = .ok level ∧
      session.obstacle? name request = none ∧
      session.get request.name request.level request.file =
        ({ session.granted name request level with issued := session.issued ++ [name] },
          { outcome := .ok (.logger ((session.granted name request level).report name)) }) := by
  cases named : LoggerName.ofValue request.name with
  | error error => exact .inl ⟨error, rfl, by rw [get, named]⟩
  | ok name =>
    have prepared := prepare_eq session name request current
    cases chosen : request.chosenLevel with
    | error error =>
      refine .inr (.inl ⟨name, error, rfl, rfl, ?_⟩)
      rw [get, named]
      simp only [prepared, chosen]
    | ok level =>
      cases stopped : session.obstacle? name request with
      | some error =>
        refine .inr (.inr (.inl ⟨name, level, error, rfl, rfl, stopped, ?_⟩))
        rw [get, named]
        simp only [prepared, chosen, stopped]
      | none =>
        exact .inr (.inr (.inr ⟨name, level, rfl, rfl, stopped,
          get_granted current named chosen stopped⟩))

end

end LogSession

namespace LogStep

/-- The request that a step makes in an environment. -/
def request? (environment : Environment) : LogStep → Option Request
  | .get name level file =>
    some ⟨name.getD LogSession.defaultName, level.getD .null, file.getD .null, environment⟩
  | _ => none

/-- The environment after a step. -/
def environmentAfter (environment : Environment) : LogStep → Environment
  | .environment next => next
  | _ => environment

/-- The level that a step sets for a logger. -/
def levelFor? [Runtime] (environment : Environment) (name : LoggerName) (step : LogStep) : Option Level :=
  (step.request? environment).bind fun request => request.levelFor? name

end LogStep

/-- The environment that a script leaves. -/
def inForce (environment : Environment) (steps : List LogStep) : Environment :=
  steps.foldl LogStep.environmentAfter environment

/-- The requests of a script, each with the environment at its moment. -/
def requests (environment : Environment) : List LogStep → List Request
  | [] => []
  | step :: rest =>
    (step.request? environment).toList ++ requests (step.environmentAfter environment) rest

namespace LogSession

variable [Runtime]

theorem run_cons (session : LogSession) (step : LogStep) (rest : List LogStep) :
    session.run (step :: rest) =
      (((session.step step).1.run rest).1,
        (session.step step).2 :: ((session.step step).1.run rest).2) := rfl

theorem run_append (session : LogSession) (before after : List LogStep) :
    (session.run (before ++ after)).1 = ((session.run before).1.run after).1 := by
  induction before generalizing session with
  | nil => rfl
  | cons step rest later => rw [List.cons_append, run_cons, later, run_cons]

/-- Writing changes the files and what a logger has found enabled. -/
theorem write_registry (session : LogSession) (name : LoggerName) (level : Int) (message : String) :
    (session.write name level message).1.registry = session.registry ∧
      (session.write name level message).1.environment = session.environment ∧
      (session.write name level message).1.issued = session.issued := by
  rw [write]
  dsimp only
  split
  · split
    · exact ⟨rfl, rfl, rfl⟩
    · exact ⟨rfl, rfl, rfl⟩
  · exact ⟨rfl, rfl, rfl⟩

theorem step_request {session : LogSession} {step : LogStep} {request : Request}
    (asks : step.request? session.environment = some request) :
    session.step step = session.get request.name request.level request.file ∧
      request.environment = session.environment := by
  cases step with
  | get name level file =>
    cases asks
    exact ⟨rfl, rfl⟩
  | _ => cases asks

/-- A step that requests nothing leaves all loggers, and what was answered before, as they are. -/
theorem step_without_request {session : LogSession} {step : LogStep}
    (asks : step.request? session.environment = none) :
    (session.step step).1.registry = session.registry ∧
      (session.step step).1.issued = session.issued := by
  cases step with
  | environment environment => exact ⟨rfl, rfl⟩
  | get name level file => cases asks
  | log number level message =>
    rw [step]
    split
    · next name _ =>
      obtain ⟨registry, _, issued⟩ := write_registry session name level message
      exact ⟨registry, issued⟩
    · exact ⟨rfl, rfl⟩

/-- A request changes neither the environment nor the clock. -/
theorem environment_get (session : LogSession) (request : Request)
    (current : request.environment = session.environment) :
    (session.get request.name request.level request.file).1.environment = session.environment ∧
      (session.get request.name request.level request.file).1.now = session.now := by
  rcases get_cases session request current with ⟨_, _, result⟩ | ⟨_, _, _, _, result⟩ |
    ⟨_, _, _, _, _, _, result⟩ | ⟨_, _, _, _, _, result⟩
  · rw [result]
    exact ⟨rfl, rfl⟩
  · rw [result]
    exact ⟨rfl, rfl⟩
  · rw [result]
    exact ⟨rfl, rfl⟩
  · rw [result]
    exact ⟨rfl, rfl⟩

theorem environment_step (session : LogSession) (step : LogStep) :
    (session.step step).1.environment = step.environmentAfter session.environment := by
  cases step with
  | environment environment => rfl
  | get name level file => exact (environment_get session ⟨_, _, _, session.environment⟩ rfl).1
  | log number level message =>
    rw [LogSession.step]
    split
    · exact (write_registry session _ level message).2.1
    · rfl

theorem environment_run (session : LogSession) (steps : List LogStep) :
    (session.run steps).1.environment = inForce session.environment steps := by
  induction steps generalizing session with
  | nil => rfl
  | cons step rest later =>
    rw [run_cons, later, environment_step]
    rfl

/-- A request changes the logger that it sets a level for, and no other. -/
theorem logger_get (session : LogSession) (request : Request)
    (current : request.environment = session.environment) (name : LoggerName) :
    (session.get request.name request.level request.file).1.registry.logger name =
      match request.levelFor? name with
      | some level =>
        ⟨level, (session.registry.logger name).handlers ++ session.attached name request⟩
      | none => session.registry.logger name := by
  have granted {found : LoggerName} {level : Level}
      (named : LoggerName.ofValue request.name = .ok found) (chosen : request.chosenLevel = .ok level) :
      (session.granted found request level).registry.logger name =
        match request.levelFor? name with
        | some level =>
          ⟨level, (session.registry.logger name).handlers ++ session.attached name request⟩
        | none => session.registry.logger name := by
    rw [logger_granted, Request.levelFor?, named, chosen]
    by_cases same : found = name
    · simp [same]
    · simp [same, Ne.symm same]
  rcases get_cases session request current with ⟨error, refused, result⟩ |
    ⟨found, error, named, refused, result⟩ | ⟨found, level, error, named, chosen, _, result⟩ |
    ⟨found, level, named, chosen, _, result⟩
  · rw [result, Request.levelFor?, refused]
  · rw [result, Request.levelFor?, named, refused]
    exact Registry.logger_ensure _ _ _
  · rw [result]
    exact granted named chosen
  · rw [result]
    exact granted named chosen

theorem logger_step (session : LogSession) (step : LogStep) (name : LoggerName) :
    (session.step step).1.registry.logger name =
      match step.request? session.environment with
      | none => session.registry.logger name
      | some request =>
        match request.levelFor? name with
        | some level =>
          ⟨level, (session.registry.logger name).handlers ++ session.attached name request⟩
        | none => session.registry.logger name := by
  cases asks : step.request? session.environment with
  | none => rw [(step_without_request asks).1]
  | some request =>
    obtain ⟨same, current⟩ := step_request asks
    rw [same]
    exact logger_get session request current name

end LogSession

end Logging

end KeyProtection
