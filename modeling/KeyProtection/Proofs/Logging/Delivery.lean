import KeyProtection.Proofs.Logging.Ancestors
import KeyProtection.Proofs.Logging.Answers
import KeyProtection.Proofs.Logging.Directory
import KeyProtection.Proofs.Logging.Line
import KeyProtection.Proofs.Logging.Verdicts

/-! Delivery of records. A record that its logger takes for enabled is written once for every logger of the
chain that has the console, and once for every one that has a file. So in the end every file holds what was
there at the start and then what was sent to it, in order, and nothing that was there is ever lost. -/

namespace KeyProtection.Logging

namespace Registry

/-- How many loggers have a handler, from a name upwards. -/
def reach (registry : Registry) (name : LoggerName) (handler : Handler) : Nat :=
  (registry.chain name).countP fun above => decide (handler ∈ (registry.logger above).handlers)

end Registry

theorem AreHandlers.nodup {handlers : List Handler} (shaped : AreHandlers handlers) :
    handlers.Nodup := by
  rcases shaped with rfl | rfl | ⟨path, rfl⟩
  · exact List.nodup_nil
  · simp
  · simp

/-- A chain has a handler as often as its loggers have it, since each has it once at most. -/
theorem Registry.count_handlers {registry : Registry}
    (shaped : ∀ name, AreHandlers (registry.logger name).handlers) (name : LoggerName)
    (handler : Handler) : (registry.handlers name).count handler = registry.reach name handler := by
  rw [handlers, reach]
  induction registry.chain name with
  | nil => rfl
  | cons above rest step =>
    rw [List.flatMap_cons, List.count_append, step, List.countP_cons, (shaped above).nodup.count]
    by_cases member : handler ∈ (registry.logger above).handlers
    · simp [member, Nat.add_comm]
    · simp [member]

/-- A line written a number of times. -/
def copies (count : Nat) (line : String) : String := String.join (List.replicate count line)

@[simp] theorem copies_zero (line : String) : copies 0 line = "" := String.join_nil

@[simp] theorem copies_empty (count : Nat) : copies count "" = "" := by
  induction count with
  | zero => exact copies_zero ""
  | succ count step => rw [copies, List.replicate_succ, String.join_cons, String.empty_append]; exact step

theorem copies_succ (count : Nat) (line : String) :
    copies (count + 1) line = line ++ copies count line := String.join_cons

/-- Delivering a line writes it once for every handler to where that handler writes. -/
theorem foldl_deliver (line : String) (handlers : List Handler) (written : String × Directory) :
    (handlers.foldl (LogSession.deliver line) written).1 =
        written.1 ++ copies (handlers.count .console) line ∧
      ∀ path, (handlers.foldl (LogSession.deliver line) written).2.find? path =
        (written.2.find? path).map (Node.extend (copies (handlers.count (.file path)) line)) := by
  induction handlers generalizing written with
  | nil =>
    refine ⟨by simp, fun path => ?_⟩
    cases found : written.2.find? path <;> simp [found]
  | cons handler rest step =>
    obtain ⟨console, files⟩ := step (LogSession.deliver line written handler)
    rw [List.foldl_cons]
    refine ⟨console.trans ?_, fun path => (files path).trans ?_⟩
    · cases handler with
      | console =>
        rw [List.count_cons_self, copies_succ, ← String.append_assoc]
        rfl
      | file path =>
        have other : Handler.file path ≠ .console := nofun
        rw [List.count_cons_of_ne other]
        rfl
    · cases handler with
      | console =>
        have other : Handler.console ≠ .file path := nofun
        rw [List.count_cons_of_ne other]
        rfl
      | file own =>
        rw [LogSession.deliver, Directory.find?_append, Option.map_map]
        congr 1
        funext node
        by_cases same : path = own
        · rw [Function.comp_apply, if_pos same, Node.extend_extend, same, List.count_cons_self,
            copies_succ]
        · have other : Handler.file own ≠ .file path := fun equal =>
            same (Handler.file.inj equal).symm
          rw [Function.comp_apply, if_neg same, List.count_cons_of_ne other]

theorem wellFormed_deliver {line : String} {handlers : List Handler} {written : String × Directory}
    (wellFormed : written.2.WellFormed) :
    (handlers.foldl (LogSession.deliver line) written).2.WellFormed := by
  induction handlers generalizing written with
  | nil => exact wellFormed
  | cons handler rest step =>
    cases handler with
    | console => exact step wellFormed
    | file path => exact step (wellFormed.append path line)

namespace Request

theorem opening_grows {directory : Directory} (wellFormed : directory.WellFormed)
    (request : Request) : directory.Grows (request.opening directory).1 := by
  rw [opening]
  split
  · exact .refl directory
  · exact Directory.openLog_grows wellFormed _
  · exact .refl directory

/-- A request that has a handler for a file has opened it. -/
theorem opened_of_mem {request : Request} {directory : Directory} {path : FilePath}
    (member : .file path ∈ request.handlers directory) :
    ∃ content, (request.opening directory).1.find? path = some (.file content) := by
  obtain ⟨given, chosen, opened⟩ := file_mem_handlers.mp member
  rw [opening, chosen]
  exact Directory.openLog_ok opened

end Request

namespace LogSession

/-- What holds of every session that is reached: all that is in the directory is in its place, every
logger has handlers of the usual form, with files that are there, and every logger that was issued has
some. -/
structure Sound (session : LogSession) : Prop where
  wellFormed : session.directory.WellFormed
  shaped : ∀ name, AreHandlers (session.registry.logger name).handlers
  opened : ∀ name path, .file path ∈ (session.registry.logger name).handlers →
    ∃ content, session.directory.find? path = some (.file content)
  issued : ∀ name ∈ session.issued, (session.registry.logger name).handlers ≠ []

theorem sound_start (now : Int) {directory : Directory} (wellFormed : directory.WellFormed)
    (environment : Environment) : Sound { now, directory, environment } where
  wellFormed := wellFormed
  shaped name := by cases name <;> exact .inl rfl
  opened name path member := by cases name <;> cases member
  issued _ member := nomatch member

theorem granted_grows {session : LogSession} (wellFormed : session.directory.WellFormed)
    (name : LoggerName) (request : Request) (level : Level) :
    session.directory.Grows (session.granted name request level).directory := by
  rw [granted]
  dsimp only
  split
  · exact Request.opening_grows wellFormed request
  · exact .refl _

/-- What a step does to a directory and the console: all that was there stays and gets what was sent to
it at its end, and what was not there gets nothing but that. -/
structure Sends (session next : LogSession) (sent : Handler → String) : Prop where
  wellFormed : next.directory.WellFormed
  kept : ∀ path node, session.directory.find? path = some node →
    next.directory.find? path = some (node.extend (sent (.file path)))
  content : ∀ path, next.directory.content path =
    session.directory.content path ++ sent (.file path)

/-- A session that has only made files and folders has sent nothing. -/
theorem sends_nothing {session next : LogSession} (wellFormed : session.directory.WellFormed)
    (grows : session.directory.Grows next.directory) : session.Sends next fun _ => "" where
  wellFormed := grows.wellFormed wellFormed
  kept path node found := by rw [grows.find?_eq found, Node.extend_empty]
  content path := by rw [grows.content_eq, String.append_empty]

theorem reach_eq_zero {session : LogSession} (sound : session.Sound) {path : FilePath}
    (absent : ∀ content, session.directory.find? path ≠ some (.file content))
    (name : LoggerName) : session.registry.reach name (.file path) = 0 := by
  rw [Registry.reach, List.countP_eq_zero]
  intro above _ member
  obtain ⟨content, found⟩ := sound.opened above path (of_decide_eq_true member)
  exact absent content found

theorem reach_console_pos {session : LogSession} (sound : session.Sound) {name : LoggerName}
    (issued : name ∈ session.issued) : 0 < session.registry.reach name .console := by
  rw [Registry.reach, List.countP_pos_iff]
  have attached := (sound.shaped name).console_mem (sound.issued name issued)
  exact ⟨name, session.registry.self_mem_chain name, decide_eq_true attached⟩

end LogSession

section

variable [Runtime]

namespace LogSession

/-- What a handler gets of a record: nothing if the logger does not take the level for enabled, or if no
record of it can be made. -/
def textOf (session : LogSession) (name : LoggerName) (level : Int) (message : String) : String :=
  if session.verdict name level then
    match Record.make level name.text message with
    | .ok record => record.written session.now
    | .error _ => ""
  else ""

end LogSession

/-- The text that a step sends to a handler. -/
def LogStep.sent (session : LogSession) (handler : Handler) : LogStep → String
  | .log number level message =>
    match session.issued[number]? with
    | some name => copies (session.registry.reach name handler) (session.textOf name level message)
    | none => ""
  | _ => ""

namespace LogSession

theorem step_log {session : LogSession} {number : Nat} {name : LoggerName}
    (issued : session.issued[number]? = some name) (level : Int) (message : String) :
    session.step (.log number level message) = session.write name level message := by
  simp only [step, issued]

/-- All the text that a script sends to a handler, in the order of its steps. -/
def sent (session : LogSession) (handler : Handler) : List LogStep → String
  | [] => ""
  | step :: rest => step.sent session handler ++ (session.step step).1.sent handler rest

/-- A request makes files and folders, and writes nothing. -/
theorem get_grows {session : LogSession} (wellFormed : session.directory.WellFormed)
    (request : Request) (current : request.environment = session.environment) :
    session.directory.Grows
        (session.get request.name request.level request.file).1.directory ∧
      (session.get request.name request.level request.file).2.log = "" := by
  rcases get_cases session request current with ⟨_, _, result⟩ | ⟨_, _, _, _, result⟩ |
    ⟨name, level, _, _, _, _, result⟩ | ⟨name, level, _, _, _, result⟩
  · rw [result]
    exact ⟨.refl _, rfl⟩
  · rw [result]
    exact ⟨.refl _, rfl⟩
  · rw [result]
    exact ⟨granted_grows wellFormed name request level, rfl⟩
  · rw [result]
    exact ⟨granted_grows wellFormed name request level, rfl⟩

/-- A record goes once to every handler of the chain. -/
theorem write_sends {session : LogSession} (sound : session.Sound) (name : LoggerName) (level : Int)
    (message : String) :
    let text := session.textOf name level message
    let next := session.write name level message
    next.2.log = copies (session.registry.reach name .console) text ∧ next.1.directory.WellFormed ∧
      ∀ path, next.1.directory.find? path = (session.directory.find? path).map
        (Node.extend (copies (session.registry.reach name (.file path)) text)) := by
  have silent (path : FilePath) : session.directory.find? path =
      (session.directory.find? path).map (Node.extend "") := by
    cases session.directory.find? path with
    | none => rfl
    | some node => rw [Option.map_some, Node.extend_empty]
  simp only [write, textOf]
  cases session.verdict name level with
  | false =>
    simp only [Bool.false_eq_true, if_false, copies_empty, true_and]
    exact ⟨sound.wellFormed, silent⟩
  | true =>
    cases Record.make level name.text message with
    | error error =>
      simp only [if_true, copies_empty, true_and]
      exact ⟨sound.wellFormed, silent⟩
    | ok record =>
      obtain ⟨console, files⟩ := foldl_deliver (record.written session.now)
        (session.registry.handlers name) ("", session.directory)
      simp only [Registry.count_handlers sound.shaped, String.empty_append] at console files
      exact ⟨console, wellFormed_deliver sound.wellFormed, files⟩

theorem write_silent {session : LogSession} {name : LoggerName} {level : Int}
    (disabled : session.verdict name level = false) (message : String) :
    (session.write name level message).1.directory = session.directory ∧
      (session.write name level message).2 = { outcome := .ok .done } := by
  simp [write, disabled]

theorem write_unmade {session : LogSession} {name : LoggerName} {level : Int} {message : String}
    {error : Error} (enabled : session.verdict name level = true)
    (unmade : Record.make level name.text message = .error error) :
    (session.write name level message).1.directory = session.directory ∧
      (session.write name level message).2 = { outcome := .error error } := by
  simp [write, enabled, unmade]

/-- Writing changes nothing but files and verdicts. -/
theorem write_rest (session : LogSession) (name : LoggerName) (level : Int) (message : String) :
    let next := (session.write name level message).1
    next = { session with directory := next.directory, verdicts := next.verdicts } := by
  rw [write]
  dsimp only
  split
  · split
    · rfl
    · rfl
  · rfl

theorem sends_write {session : LogSession} (sound : session.Sound) (name : LoggerName) (level : Int)
    (message : String) :
    session.Sends (session.write name level message).1 fun handler =>
      copies (session.registry.reach name handler) (session.textOf name level message) := by
  obtain ⟨_, wellFormed, files⟩ := write_sends sound name level message
  refine ⟨wellFormed, fun path node found => ?_, fun path => ?_⟩
  · rw [files, found]
    rfl
  · refine Directory.content_of_extend (files path) fun absent => ?_
    rw [reach_eq_zero sound absent, copies_zero]

theorem sends_step {session : LogSession} (sound : session.Sound) (step : LogStep) :
    session.Sends (session.step step).1 (step.sent session) ∧
      (session.step step).2.log = step.sent session .console := by
  cases step with
  | environment environment => exact ⟨sends_nothing sound.wellFormed (.refl _), rfl⟩
  | get name level file =>
    obtain ⟨grows, silent⟩ := get_grows sound.wellFormed
      ⟨name.getD defaultName, level.getD .null, file.getD .null, session.environment⟩ rfl
    exact ⟨sends_nothing sound.wellFormed grows, silent⟩
  | log number level message =>
    cases issued : session.issued[number]? with
    | none =>
      simp only [step, LogStep.sent, issued]
      exact ⟨sends_nothing sound.wellFormed (.refl _), trivial⟩
    | some name =>
      have sends := sends_write sound name level message
      have console := (write_sends sound name level message).1
      simp only [step_log issued, LogStep.sent, issued]
      exact ⟨sends, console⟩

/-- The request that attaches the handlers of a logger opens its file. -/
theorem directory_get_first {session : LogSession} {request : Request} {name : LoggerName}
    {level : Level} (current : request.environment = session.environment)
    (bare : (session.registry.logger name).handlers = [])
    (sets : request.levelFor? name = some level) :
    (session.get request.name request.level request.file).1.directory =
      (request.opening session.directory).1 := by
  obtain ⟨named, chosen⟩ := Request.levelFor?_eq_some_iff.mp sets
  rcases get_cases session request current with ⟨_, refused, _⟩ | ⟨_, _, _, refused, _⟩ |
    ⟨_, _, _, namedToo, _, _, result⟩ | ⟨_, _, namedToo, _, _, result⟩
  · rw [named] at refused
    cases refused
  · rw [chosen] at refused
    cases refused
  · obtain rfl := Except.ok.inj (named.symm.trans namedToo)
    rw [result, granted, bare]
    rfl
  · obtain rfl := Except.ok.inj (named.symm.trans namedToo)
    rw [result, granted, bare]
    rfl

/-- Every file handler has its file after a step: one of before, or the one that the step has opened. -/
theorem opened_step {session : LogSession} (sound : session.Sound) (step : LogStep)
    (name : LoggerName) (path : FilePath)
    (member : .file path ∈ ((session.step step).1.registry.logger name).handlers) :
    ∃ content, (session.step step).1.directory.find? path = some (.file content) := by
  have kept (old : .file path ∈ (session.registry.logger name).handlers) :
      ∃ content, (session.step step).1.directory.find? path = some (.file content) := by
    obtain ⟨content, found⟩ := sound.opened name path old
    exact ⟨_, (sends_step sound step).1.kept path _ found⟩
  cases sets : step.levelFor? session.environment name with
  | none => exact kept (logger_step_kept sets ▸ member)
  | some level =>
    by_cases bare : (session.registry.logger name).handlers = []
    · obtain ⟨request, asks, sets⟩ := exists_request sets
      rw [handlers_step_first bare asks sets] at member
      obtain ⟨same, current⟩ := step_request asks
      rw [same, directory_get_first current bare sets]
      exact Request.opened_of_mem member
    · exact kept (handlers_step_kept bare step ▸ member)

theorem issued_step {session : LogSession} (sound : session.Sound) (step : LogStep) :
    ∀ name ∈ (session.step step).1.issued,
      ((session.step step).1.registry.logger name).handlers ≠ [] := by
  have kept (name : LoggerName) (old : name ∈ session.issued) :
      ((session.step step).1.registry.logger name).handlers ≠ [] := by
    have attached := sound.issued name old
    rwa [handlers_step_kept attached]
  have answered := answer_step session step
  cases answer : step.answer? (session.step step).2 with
  | none =>
    rw [answer] at answered
    rwa [answered]
  | some shown =>
    rw [answer] at answered
    obtain ⟨found, _, issued, sets⟩ := answered
    rw [issued]
    intro name member
    rcases List.mem_append.mp member with old | new
    · exact kept name old
    · rw [List.mem_singleton.mp new]
      intro bare
      rw [(handlers_step_eq_nil.mp bare).2] at sets
      cases sets

theorem sound_step {session : LogSession} (sound : session.Sound) (step : LogStep) :
    (session.step step).1.Sound where
  wellFormed := (sends_step sound step).1.wellFormed
  shaped name := areHandlers_step (sound.shaped name) step
  opened := opened_step sound step
  issued := issued_step sound step

theorem sound_run {session : LogSession} (sound : session.Sound) (steps : List LogStep) :
    (session.run steps).1.Sound := by
  induction steps generalizing session with
  | nil => exact sound
  | cons step rest later => exact later (sound_step sound step)

/-- A script does to the directory what its steps do in their order. -/
theorem sends_run {session : LogSession} (sound : session.Sound) (steps : List LogStep) :
    session.Sends (session.run steps).1 fun handler => session.sent handler steps := by
  induction steps generalizing session with
  | nil => exact sends_nothing sound.wellFormed (.refl _)
  | cons step rest later =>
    have first := (sends_step sound step).1
    have others := later (sound_step sound step)
    refine ⟨others.wellFormed, fun path node found => ?_, fun path => ?_⟩
    · rw [run_cons, others.kept path _ (first.kept path node found), Node.extend_extend, sent]
    · rw [run_cons, others.content, first.content, String.append_assoc, sent]

theorem now_step (session : LogSession) (step : LogStep) :
    (session.step step).1.now = session.now := by
  cases step with
  | environment environment => rfl
  | get name level file => exact (environment_get session ⟨_, _, _, session.environment⟩ rfl).2
  | log number level message =>
    rw [LogSession.step]
    split
    · next name _ =>
      rw [write_rest]
    · rfl

theorem now_run (session : LogSession) (steps : List LogStep) :
    (session.run steps).1.now = session.now := by
  induction steps generalizing session with
  | nil => rfl
  | cons step rest later => rw [run_cons, later, now_step]

end LogSession

end

namespace LogSession

/-- From the empty logging state in any directory, a record is written nowhere unless its level is positive
and was not below the effective one of its logger when that was first asked for it since a level was last
set. Else it is written once to the console for every logger of its chain that has the console, which is at
least one, and once to a file for every logger of its chain that has that file, and nothing else changes;
but if the number of its level cannot be written, the step fails and nothing is written. The chain goes up
to the root by the next loggers above, each of them once. So every file holds what it held at the start and
exactly what was sent to it, in order; all that is there stays there, files with what is sent to them later
at their end; and everything is inside folders, at a place of its own. -/
theorem delivery_exact [Runtime] (now : Int) {directory : Directory} (wellFormed : directory.WellFormed)
    (environment : Environment) (steps : List LogStep) :
    let start : LogSession := { now, directory, environment }
    let session := (start.run steps).1
    let registry := session.registry
    (∀ (number : Nat) (name : LoggerName) (level : Int) (message : String),
      session.issued[number]? = some name →
      let (next, reply) := session.step (.log number level message)
      let effective := (start.decider name level steps).registry.effectiveLevel name
      next = { session with directory := next.directory, verdicts := next.verdicts } ∧
      (¬(0 < level ∧ effective.number ≤ level) →
        next.directory = session.directory ∧ reply = { outcome := .ok .done }) ∧
      (0 < level ∧ effective.number ≤ level →
        WritesIf (Level.IsNamed level ∨ Text.Writable level) (Record.make level name.text message) ∧
        (∀ error, Record.make level name.text message = .error error →
          next.directory = session.directory ∧ reply = { outcome := .error error }) ∧
        ∀ record, Record.make level name.text message = .ok record →
          reply.log = copies (registry.reach name .console) (record.written now) ∧
          0 < registry.reach name .console ∧
          ∀ path, next.directory.find? path = (session.directory.find? path).map
            (Node.extend (copies (registry.reach name (.file path)) (record.written now))))) ∧
    registry.GoesUp ∧
    (∀ name, (registry.chain name).Nodup ∧ name ∈ registry.chain name ∧
      .root ∈ registry.chain name ∧ ∀ above ∈ registry.chain name,
        above = name ∨ (above.IsAbove name ∧ (registry.find? above).isSome)) ∧
    (∀ path content, session.directory.find? path = some (.file content) →
      content = directory.content path ++ start.sent (.file path) steps) ∧
    (∀ path node, session.directory.find? path = some node → ∀ later,
      (start.run (steps ++ later)).1.directory.find? path =
        some (node.extend (session.sent (.file path) later))) ∧
    session.directory.WellFormed := by
  intro start session registry
  have fresh := sound_start now wellFormed environment
  have sound : session.Sound := sound_run fresh steps
  have whole := sends_run fresh steps
  refine ⟨?_, registry.goesUp, ?_, ?_, ?_, sound.wellFormed⟩
  · intro number name level message issued
    have decided : session.verdict name level =
        (start.decider name level steps).registry.enabled name level := verdict_run rfl name level steps
    obtain ⟨console, _, files⟩ := write_sends sound name level message
    rw [step_log issued]
    refine ⟨write_rest session name level message, fun low => ?_, fun high => ?_⟩
    · have disabled : session.verdict name level = false := by
        rw [decided, Registry.enabled, ← Bool.decide_and]
        exact decide_eq_false low
      exact write_silent disabled message
    · have enabled : session.verdict name level = true := by
        rw [decided, Registry.enabled, ← Bool.decide_and]
        exact decide_eq_true high
      refine ⟨Record.writesIf_make level name.text message, fun error => write_unmade enabled,
        fun record made => ?_⟩
      have text : session.textOf name level message = record.written now := by
        simp only [textOf, enabled, if_true, made]
        rw [show session.now = now from now_run start steps]
      rw [text] at console files
      exact ⟨console, reach_console_pos sound (List.mem_of_getElem? issued), files⟩
  · intro name
    exact ⟨registry.chain_nodup name, registry.self_mem_chain name, registry.root_mem_chain name,
      fun above => Registry.mem_chain⟩
  · intro path content found
    exact (Directory.content_of_find? found).symm.trans (whole.content path)
  · intro path node found later
    rw [run_append]
    exact (sends_run sound later).kept path node found

/-- A logger and the one above it have one file under two spellings, and a record goes to both. -/
theorem delivery_exact_shared :
    let directory := Directory.bare ["srv", "app"] 900
    let start : LogSession := { now := 0, directory }
    let steps : List LogStep :=
      [.get (some (.text "a")) (some (.int 10)) (some (.text "x.log")),
        .get (some (.text "a.b")) (some (.int 0)) (some (.text "../app//x.log")), .log 1 20 "m"]
    let content := copies 2 (Record.line ⟨"INFO", "a.b", "m"⟩ 0)
    directory.WellFormed ∧
      (start.run steps).1.directory.find? ["srv", "app", "x.log"] = some (.file content) ∧
      content = directory.content ["srv", "app", "x.log"] ++
        start.sent (.file ["srv", "app", "x.log"]) steps := by
  have wellFormed := Directory.wellFormed_bare (by decide : FilePath.IsNormal ["srv", "app"]) 900
  obtain ⟨_, _, _, contents, _⟩ := @delivery_exact _ 0 _ wellFormed {}
    [.get (some (.text "a")) (some (.int 10)) (some (.text "x.log")),
      .get (some (.text "a.b")) (some (.int 0)) (some (.text "../app//x.log")), .log 1 20 "m"]
  refine ⟨wellFormed, ?_, ?_⟩
  · decide +kernel
  · apply contents
    decide +kernel

/-- The session in which loggers have been asked for by their names and levels alone. -/
def asked (now : Int) (requests : List (String × Option Value)) : LogSession :=
  (run { now, directory := .bare ["srv"] 900 }
    (requests.map fun (name, level) => .get (some (.text name)) level none)).1

/-- What is above by name is not always reached: a logger named by a beginning of the root's name and
made after the one below it is passed by, and so is one in front of a doubled dot. A logger that has found
a level disabled keeps to that although a request, which is refused for its level, has brought another one
above it. And at a time that no line can name, an enabled record is written nowhere. -/
theorem delivery_passes_by :
    (LoggerName.IsAbove (.named "r") (.named "r.x") ∧
      let session := asked 0 [("r.x", none), ("r", none)]
      session.registry.enabled (.named "r.x") 20 = true ∧
      (session.registry.logger (.named "r")).handlers = [.console] ∧
      (session.registry.logger (.named "r.x")).handlers = [.console] ∧
      (session.step (.log 0 20 "m")).2.log = copies 1 (Record.line ⟨"INFO", "r.x", "m"⟩ 0) ∧
      copies 1 (Record.line ⟨"INFO", "r.x", "m"⟩ 0) ≠ copies 2 (Record.line ⟨"INFO", "r.x", "m"⟩ 0)) ∧
    (LoggerName.IsAbove (.named "a") (.named "a..b") ∧
      let session := asked 0 [("a", none), ("a..b", none)]
      session.registry.enabled (.named "a..b") 20 = true ∧
      (session.registry.logger (.named "a")).handlers = [.console] ∧
      (session.registry.logger (.named "a..b")).handlers = [.console] ∧
      (session.step (.log 1 20 "m")).2.log = copies 1 (Record.line ⟨"INFO", "a..b", "m"⟩ 0) ∧
      copies 1 (Record.line ⟨"INFO", "a..b", "m"⟩ 0) ≠
        copies 2 (Record.line ⟨"INFO", "a..b", "m"⟩ 0)) ∧
    (let session := ((asked 0 [("a", some (.int 10)), ("a..b", some (.int 0))]).step (.log 1 20 "m")).1
      let refused := (session.step (.get (some (.text "a.")) (some (.text "loud")) none)).1
      refused.registry.enabled (.named "a..b") 20 = true ∧
        (refused.step (.log 1 20 "m")).2.log = "") ∧
    let session := asked 67768036191676800 [("c", none)]
    session.registry.enabled (.named "c") 20 = true ∧
      (session.registry.logger (.named "c")).handlers = [.console] ∧
      (session.step (.log 0 20 "m")).2.log = "" ∧
      Record.line ⟨"INFO", "c", "m"⟩ 67768036191676800 ≠ "" := by
  refine ⟨⟨⟨by decide, "x", rfl⟩, ?_⟩, ⟨⟨by decide, ".b", rfl⟩, ?_⟩, ?_, ?_⟩
  · decide +kernel
  · decide +kernel
  · decide +kernel
  · decide +kernel

end LogSession

end KeyProtection.Logging
