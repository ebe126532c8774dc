import KeyProtection.Proofs.Logging.Handlers
import KeyProtection.Proofs.Logging.Opening

/-! Requests that fail. A request can fail for its name, for its level, or for the file of a logger that
has no handlers yet. It changes nothing but the logger it names, and leaves no more behind than folders
on the way of a file that could not be opened. -/

namespace KeyProtection.Logging

namespace Request

/-- The folders on the way of the file that a request chooses. -/
def OnWay (request : Request) (directory : Directory) (place : FilePath) : Prop :=
  ∃ given, request.chosenFile.ifTrue? = some (.text given) ∧ directory.OnWay given place

/-- A file that cannot be opened leaves nothing behind but folders on its way. -/
theorem opening_furnishes {request : Request} {directory : Directory} {error : Error}
    (fails : (request.opening directory).2 = .error error) :
    directory.Furnishes (request.opening directory).1 (request.OnWay directory) := by
  rw [opening] at fails ⊢
  split
  · exact .refl directory _
  · next given chosen =>
    rw [chosen] at fails
    cases opened : (directory.openLog given).2 with
    | ok path => simp [opened, Except.map] at fails
    | error cause =>
      exact (Directory.openLog_furnishes opened).mono fun place onWay => ⟨given, chosen, onWay⟩
  · exact .refl directory _

theorem handlers_of_error {request : Request} {directory : Directory} {error : Error}
    (fails : (request.opening directory).2 = .error error) :
    request.handlers directory = [.console] := by
  rw [handlers, fails]

end Request

namespace LogSession

theorem find?_granted (session : LogSession) (name other : LoggerName) (request : Request)
    (level : Level) :
    (session.granted name request level).registry.find? other =
      if other = name then
        some ⟨level, (session.registry.logger name).handlers ++ session.attached name request⟩
      else session.registry.find? other := by
  rw [granted, Registry.find?_update, Registry.find?_ensure]
  by_cases same : other = name
  · subst same
    cases found : session.registry.find? other with
    | none => simp [Registry.logger, found]
    | some logger => simp [Registry.logger, found]
  · simp [same]

theorem obstacle?_eq_some_iff {session : LogSession} {name : LoggerName} {request : Request}
    {error : Error} : session.obstacle? name request = some error ↔
      (session.registry.logger name).handlers = [] ∧
        (request.opening session.directory).2 = .error error := by
  rw [obstacle?]
  cases (session.registry.logger name).handlers with
  | cons first rest => simp
  | nil => cases (request.opening session.directory).2 <;> simp

theorem obstacle?_eq_none {session : LogSession} {name : LoggerName} {request : Request}
    (free : (session.registry.logger name).handlers ≠ [] ∨
      (request.opening session.directory).2 = .ok none) : session.obstacle? name request = none := by
  apply Option.eq_none_iff_forall_ne_some.mpr
  intro error stopped
  obtain ⟨bare, failed⟩ := obstacle?_eq_some_iff.mp stopped
  rcases free with attached | opened
  · exact attached bare
  · rw [opened] at failed
    cases failed

/-- No file stands in the way of a request for a logger that has handlers. -/
theorem get_attached [Runtime] {session : LogSession} {request : Request} {name : LoggerName} {level : Level}
    (current : request.environment = session.environment)
    (attached : (session.registry.logger name).handlers ≠ [])
    (sets : request.levelFor? name = some level) :
    ∃ report, (session.get request.name request.level request.file).2.outcome = .ok (.logger report) ∧
      report.handlers = (session.registry.logger name).handlers ∧
      (session.get request.name request.level request.file).1.directory = session.directory := by
  obtain ⟨named, chosen⟩ := Request.levelFor?_eq_some_iff.mp sets
  rw [get_granted current named chosen (obstacle?_eq_none (.inl attached))]
  refine ⟨_, rfl, ?_, ?_⟩
  · simp [report, logger_granted, LogSession.attached, attached]
  · simp [granted, attached]

/-- What a request for a name that fails leaves as it was: every other logger, all that is in the
directory, and everything else in the session; and no file is new. -/
structure Spares (session next : LogSession) (name : Value) : Prop where
  others : ∀ other, LoggerName.ofValue name ≠ .ok other →
    next.registry.find? other = session.registry.find? other
  kept : ∀ place node, session.directory.find? place = some node →
    next.directory.find? place = some node
  files : ∀ place content, next.directory.find? place = some (.file content) →
    session.directory.find? place = some (.file content)
  /-- Only what loggers have found of their levels may be forgotten. -/
  verdicts : next.verdicts = session.verdicts ∨ next.verdicts = []
  rest : next = { session with
    registry := next.registry, directory := next.directory, verdicts := next.verdicts }

theorem spares_ensure {session : LogSession} {value : Value} {name : LoggerName}
    (named : LoggerName.ofValue value = .ok name) :
    session.Spares { session with registry := session.registry.ensure name } value where
  others other different := by
    have apart : other ≠ name := fun same => different (same ▸ named)
    simp [Registry.find?_ensure, apart]
  kept _ _ found := found
  files _ _ found := found
  verdicts := .inl rfl
  rest := rfl

theorem spares_granted {session : LogSession} {request : Request} {name : LoggerName} {level : Level}
    (named : LoggerName.ofValue request.name = .ok name)
    (furnishes : session.directory.Furnishes (session.granted name request level).directory
      (request.OnWay session.directory)) :
    session.Spares (session.granted name request level) request.name where
  others other different := by
    have apart : other ≠ name := fun same => different (same ▸ named)
    rw [find?_granted, if_neg apart]
  kept place node := furnishes.find?_eq
  files place content found := by
    rcases furnishes.nodes place with same | ⟨_, folder, _⟩
    · exact same ▸ found
    · rw [found] at folder
      cases folder
  verdicts := .inr rfl
  rest := rfl

/-- A request that fails changes nothing but the logger that it names, writes nothing and makes no file.
If its name is refused, nothing changes at all. If its level is refused, its logger keeps its level and
handlers, or is new with no level set and no handlers. Else its file could not be opened, which only
happens to a logger without handlers: that logger has the new level and the console alone, folders on
the way of the file are all that is new, and whatever happens later, every further request for it with a
valid level is answered without a look at any file. -/
theorem failed_request_contained [Runtime] (session : LogSession) (step : LogStep) (request : Request)
    (error : Error) (asks : step.request? session.environment = some request)
    (fails : (session.step step).2.outcome = .error error) :
    let next := (session.step step).1
    session.Spares next request.name ∧ (session.step step).2.log = "" ∧
    ((LoggerName.ofValue request.name = .error error ∧ next = session) ∨
    (∃ name, LoggerName.ofValue request.name = .ok name ∧ request.chosenLevel = .error error ∧
      next.registry.find? name = some ((session.registry.find? name).getD ⟨.int 0, []⟩) ∧
      next.directory = session.directory ∧ next.verdicts = session.verdicts) ∨
    ∃ name level, LoggerName.ofValue request.name = .ok name ∧ request.chosenLevel = .ok level ∧
      (session.registry.logger name).handlers = [] ∧
      (request.opening session.directory).2 = .error error ∧
      next.registry.find? name = some ⟨level, [.console]⟩ ∧
      session.directory.Furnishes next.directory (request.OnWay session.directory) ∧
      ∀ (later : List LogStep) (again : LogStep) (further : Request) (chosen : Level),
        let after := (next.run later).1
        again.request? after.environment = some further → further.levelFor? name = some chosen →
        ∃ report, (after.step again).2.outcome = .ok (.logger report) ∧
          report.handlers = [.console] ∧ (after.step again).1.directory = after.directory) := by
  intro next
  obtain ⟨same, current⟩ := step_request asks
  rcases get_cases session request current with ⟨cause, refused, result⟩ |
    ⟨name, cause, named, refused, result⟩ | ⟨name, level, cause, named, chosen, stopped, result⟩ |
    ⟨_, _, _, _, _, result⟩
  · rw [same, result] at fails
    obtain rfl := Except.error.inj fails
    have unchanged : next = session := by rw [show next = _ from congrArg Prod.fst same, result]
    refine ⟨?_, by rw [same, result], .inl ⟨refused, unchanged⟩⟩
    rw [unchanged]
    exact ⟨fun _ _ => rfl, fun _ _ found => found, fun _ _ found => found, .inl rfl, rfl⟩
  · rw [same, result] at fails
    obtain rfl := Except.error.inj fails
    have ensured : next = { session with registry := session.registry.ensure name } := by
      rw [show next = _ from congrArg Prod.fst same, result]
    rw [ensured]
    refine ⟨spares_ensure named, by rw [same, result],
      .inr (.inl ⟨name, named, refused, ?_, rfl, rfl⟩)⟩
    rw [Registry.find?_ensure, if_pos rfl]
    cases session.registry.find? name <;> rfl
  · rw [same, result] at fails
    obtain rfl := Except.error.inj fails
    obtain ⟨bare, failed⟩ := obstacle?_eq_some_iff.mp stopped
    have granted : next = session.granted name request level := by
      rw [show next = _ from congrArg Prod.fst same, result]
    have furnishes : session.directory.Furnishes (session.granted name request level).directory
        (request.OnWay session.directory) := by
      simpa [LogSession.granted, bare] using Request.opening_furnishes failed
    have console : (session.granted name request level).registry.find? name =
        some ⟨level, [.console]⟩ := by
      rw [find?_granted, if_pos rfl, attached, if_pos bare, bare, List.nil_append,
        Request.handlers_of_error failed]
    rw [granted]
    refine ⟨spares_granted named furnishes, by rw [same, result], .inr (.inr ⟨name, level, named,
      chosen, bare, failed, console, furnishes, ?_⟩)⟩
    intro later again further valid after asksAgain sets
    have kept : (after.registry.logger name).handlers = [.console] := by
      have first : ((session.granted name request level).registry.logger name).handlers =
          [.console] := by rw [Registry.logger, console, Option.getD_some]
      exact (handlers_run_kept (first ▸ List.cons_ne_nil _ _) later).trans first
    obtain ⟨sameAgain, currentAgain⟩ := step_request asksAgain
    rw [sameAgain, ← kept]
    exact get_attached currentAgain (kept ▸ List.cons_ne_nil _ _) sets
  · rw [same, result] at fails
    cases fails

/-- A folder in the place of the file stops the first request, and the next one is answered. -/
theorem failed_request_contained_folder :
    let session : LogSession := { now := 0, directory := .bare ["srv"] 900 }
    let step : LogStep := .get (some (.text "a")) (some (.int 10)) (some (.text "d/"))
    let again : LogStep := .get (some (.text "a")) (some (.int 30)) (some (.text "e"))
    let next := (session.step step).1
    (session.step step).2.outcome = .error .isADirectory ∧
      session.Spares next (.text "a") ∧
      next.registry.find? (.named "a") = some ⟨.int 10, [.console]⟩ ∧
      ∃ report, (next.step again).2.outcome = .ok (.logger report) ∧
        report.handlers = [.console] ∧ (next.step again).1.directory = next.directory := by
  intro session step again next
  have fails : (session.step step).2.outcome = .error .isADirectory := rfl
  have valid : LoggerName.ofValue (.text "a") = .ok (.named "a") := rfl
  obtain ⟨spares, _, causes⟩ := @failed_request_contained _ session step
    ⟨.text "a", .int 10, .text "d/", {}⟩ .isADirectory rfl fails
  refine ⟨fails, spares, ?_⟩
  rcases causes with ⟨refused, _⟩ | ⟨_, _, refused, _⟩ |
    ⟨name, level, named, chosen, _, _, console, _, answered⟩
  · rw [valid] at refused
    cases refused
  · cases refused
  · obtain rfl := Except.ok.inj (valid.symm.trans named)
    obtain rfl := Except.ok.inj chosen
    have sets : (Request.mk (.text "a") (.int 30) (.text "e") {}).levelFor? (.named "a") =
        some (.int 30) := rfl
    have asks : again.request? (next.run []).1.environment =
        some ⟨.text "a", .int 30, .text "e", {}⟩ := by
      rw [show (next.run []).1.environment = {} from environment_step session step]
      rfl
    have answer := answered [] again _ _ asks sets
    simp only [run] at answer
    simp only [next]
    exact ⟨console, answer⟩

end LogSession

end KeyProtection.Logging
