import KeyProtection.Proofs.Logging.Handlers

/-! Answers to requests. An answer shows a logger as it is then, with the number of the first answer
that has shown the same one, so that two answers show one logger exactly if their names are names of
one logger. -/

namespace KeyProtection.Logging

/-- The name that a step asks for and the logger that it is answered with. -/
def LogStep.answer? (step : LogStep) (reply : LogReply) : Option (Value × LoggerReport) :=
  match step, reply.outcome with
  | .get name _ _, .ok (.logger report) => some (name.getD LogSession.defaultName, report)
  | _, _ => none

/-- A name that comes after others has its own number if it is none of them. -/
theorem findIdx?_getD_length {before after : List LoggerName} {name : LoggerName} :
    (before.findIdx? (· == name)).getD before.length =
      (before ++ name :: after).findIdx (· == name) := by
  rw [List.findIdx_append]
  cases found : before.findIdx? (· == name) with
  | none =>
    have absent : before.findIdx (· == name) = before.length := by
      rw [List.findIdx_eq_length]
      exact List.findIdx?_eq_none_iff.mp found
    simp [absent, List.findIdx_cons]
  | some number =>
    obtain ⟨bound, same, _⟩ := List.findIdx?_eq_some_iff_getElem.mp found
    have first : before.findIdx (· == name) < before.length :=
      List.findIdx_lt_length_of_exists ⟨_, List.getElem_mem bound, same⟩
    rw [if_pos first]
    exact ((List.findIdx?_eq_some_iff_findIdx_eq.mp found).2).symm

/-- Names have the same first number exactly if they are the same. -/
theorem findIdx_eq_iff {names : List LoggerName} {name other : LoggerName}
    (member : name ∈ names) (memberToo : other ∈ names) :
    names.findIdx (· == name) = names.findIdx (· == other) ↔ name = other := by
  constructor
  · intro same
    have bound : names.findIdx (· == name) < names.length :=
      List.findIdx_lt_length_of_exists ⟨name, member, BEq.rfl⟩
    have boundToo : names.findIdx (· == other) < names.length :=
      List.findIdx_lt_length_of_exists ⟨other, memberToo, BEq.rfl⟩
    have found : names[names.findIdx (· == name)] = name :=
      eq_of_beq (List.findIdx_getElem (p := (· == name)) (w := bound))
    have foundToo : names[names.findIdx (· == other)] = other :=
      eq_of_beq (List.findIdx_getElem (p := (· == other)) (w := boundToo))
    rw [← found, ← foundToo]
    simp only [same]
  · rintro rfl
    rfl

namespace LogSession

section

variable [Runtime]

/-- The answers to the requests of a script that succeed, in order, each with the name asked for. -/
def answers (session : LogSession) (steps : List LogStep) : List (Value × LoggerReport) :=
  (steps.zip (session.run steps).2).filterMap fun (step, reply) => step.answer? reply

theorem answers_cons (session : LogSession) (step : LogStep) (rest : List LogStep) :
    session.answers (step :: rest) =
      (step.answer? (session.step step).2).toList ++ (session.step step).1.answers rest := by
  rw [answers, run_cons, List.zip_cons_cons, List.filterMap_cons]
  cases answered : step.answer? (session.step step).2 with
  | none => simp [answered, answers]
  | some answer => simp [answered, answers]

/-- A report that shows a logger of a session, and which of the names issued before was its first. -/
structure Shows (session : LogSession) (issued : List LoggerName) (value : Value)
    (report : LoggerReport) (name : LoggerName) : Prop where
  named : LoggerName.ofValue value = .ok name
  level : report.level = (session.registry.logger name).level
  handlers : report.handlers = (session.registry.logger name).handlers
  sameAs : report.sameAs = issued.findIdx? (· == name)

/-- An answer shows a logger whose level the step has set, and issues its name; no other step issues
one. -/
theorem answer_step (session : LogSession) (step : LogStep) :
    match step.answer? (session.step step).2 with
    | none => (session.step step).1.issued = session.issued
    | some (value, report) => ∃ name, (session.step step).1.Shows session.issued value report name ∧
        (session.step step).1.issued = session.issued ++ [name] ∧
        (step.levelFor? session.environment name).isSome := by
  cases step with
  | get name level file =>
    let request : Request := ⟨name.getD defaultName, level.getD .null, file.getD .null,
      session.environment⟩
    have stepped : session.step (.get name level file) =
        session.get request.name request.level request.file := rfl
    rcases get_cases session request rfl with ⟨_, _, result⟩ | ⟨_, _, _, _, result⟩ |
      ⟨_, _, _, _, _, _, result⟩ | ⟨found, level, named, chosen, _, result⟩
    · simp [LogStep.answer?, stepped, result]
    · simp [LogStep.answer?, stepped, result]
    · simp [LogStep.answer?, stepped, result, granted]
    · rw [stepped, result]
      refine ⟨found, ⟨named, rfl, rfl, rfl⟩, rfl, ?_⟩
      simp [LogStep.levelFor?, LogStep.request?, Request.levelFor?, request, named, chosen]
  | environment environment => exact (step_without_request rfl).2
  | log number level message => exact (step_without_request rfl).2

theorem issued_prefix_step (session : LogSession) (step : LogStep) :
    session.issued <+: (session.step step).1.issued := by
  have answered := answer_step session step
  cases answer : step.answer? (session.step step).2 with
  | none =>
    rw [answer] at answered
    exact answered ▸ List.prefix_rfl
  | some shown =>
    rw [answer] at answered
    obtain ⟨name, _, issued, _⟩ := answered
    exact issued ▸ List.prefix_append _ _

theorem issued_prefix_run (session : LogSession) (steps : List LogStep) :
    session.issued <+: (session.run steps).1.issued := by
  induction steps generalizing session with
  | nil => exact List.prefix_rfl
  | cons step rest later => exact (issued_prefix_step session step).trans (later _)

/-- An answer counts under the number of the first one for its name, and shows handlers that stay. -/
theorem answer_run {session : LogSession} {steps : List LogStep} {number : Nat} {value : Value}
    {report : LoggerReport} (answered : (session.answers steps)[number]? = some (value, report)) :
    ∃ name, LoggerName.ofValue value = .ok name ∧
      name ∈ (session.run steps).1.issued ∧
      report.sameAs.getD (session.issued.length + number) =
        (session.run steps).1.issued.findIdx (· == name) ∧
      report.handlers = ((session.run steps).1.registry.logger name).handlers ∧
      levels session.environment steps name ≠ [] := by
  induction steps generalizing session number with
  | nil => cases answered
  | cons step rest later =>
    have first := answer_step session step
    rw [answers_cons] at answered
    cases answer : step.answer? (session.step step).2 with
    | none =>
      rw [answer] at first answered
      obtain ⟨name, named, issued, counted, handlers, levels⟩ := later answered
      rw [first] at counted
      refine ⟨name, named, issued, counted, handlers, ?_⟩
      rw [levels_cons, ← environment_step]
      exact List.append_ne_nil_of_right_ne_nil _ levels
    | some shown =>
      obtain ⟨shownValue, shownReport⟩ := shown
      rw [answer] at first answered
      obtain ⟨found, shows, issued, sets⟩ := first
      cases number with
      | zero =>
        obtain ⟨rfl, rfl⟩ := Prod.mk.inj (Option.some.inj answered)
        obtain ⟨after, whole⟩ := issued_prefix_run (session.step step).1 rest
        have attached : ((session.step step).1.registry.logger found).handlers ≠ [] := by
          intro bare
          rw [(handlers_step_eq_nil.mp bare).2] at sets
          cases sets
        rw [issued, List.append_assoc] at whole
        refine ⟨found, shows.named, ?_, ?_, ?_, ?_⟩
        · rw [run_cons, ← whole]
          simp
        · rw [run_cons, ← whole, shows.sameAs]
          exact findIdx?_getD_length
        · rw [run_cons, handlers_run_kept attached]
          exact shows.handlers
        · obtain ⟨level, sets⟩ := Option.isSome_iff_exists.mp sets
          rw [levels_cons, sets]
          exact List.cons_ne_nil _ _
      | succ number =>
        obtain ⟨name, named, member, counted, handlers, levels⟩ := later answered
        rw [issued, List.length_append, List.length_singleton, Nat.add_assoc,
          Nat.add_comm 1 number] at counted
        refine ⟨name, named, member, counted, handlers, ?_⟩
        rw [levels_cons, ← environment_step]
        exact List.append_ne_nil_of_right_ne_nil _ levels

end

/-- From the empty logging state a logger has no handlers, the console, or the console and one file. It
gets them at the first request that sets its level, a file exactly if the request or else the
environment chooses one that can be opened, and no later step changes them. Its level is the one that
was last set. Two answers show one logger exactly if their names are names of one logger, and every
logger that was shown has the console, the handlers it was shown with, and the last level set for it. -/
theorem handlers_attached_once [Runtime] (now : Int) (directory : Directory) (steps : List LogStep) :
    let start : LogSession := { now, directory }
    let session := (start.run steps).1
    let logger := session.registry.logger
    (∀ name, AreHandlers (logger name).handlers) ∧
    (∀ name, (logger name).handlers ≠ [] → ∀ later,
      ((start.run (steps ++ later)).1.registry.logger name).handlers = (logger name).handlers) ∧
    (∀ name, (logger name).handlers ≠ [] ↔ levels {} steps name ≠ []) ∧
    (∀ name step request level, (logger name).handlers = [] →
      step.request? (inForce {} steps) = some request → request.levelFor? name = some level →
      ∀ path, .file path ∈ ((start.run (steps ++ [step])).1.registry.logger name).handlers ↔
        ∃ given, request.chosenFile.ifTrue? = some (.text given) ∧
          (session.directory.openLog given).2 = .ok path) ∧
    (∀ name, (logger name).level =
      ((levels {} steps name).getLast?).getD (Registry.logger {} name).level) ∧
    (∀ (number other : Nat) (value valueToo : Value) (report reportToo : LoggerReport),
      (start.answers steps)[number]? = some (value, report) →
      (start.answers steps)[other]? = some (valueToo, reportToo) →
      (report.sameAs.getD number = reportToo.sameAs.getD other ↔
        LoggerName.SameLogger value valueToo)) ∧
    (∀ (number : Nat) (value : Value) (report : LoggerReport),
      (start.answers steps)[number]? = some (value, report) →
      ∃ name level, LoggerName.ofValue value = .ok name ∧ .console ∈ (logger name).handlers ∧
        report.handlers = (logger name).handlers ∧
        (levels {} steps name).getLast? = some level ∧ (logger name).level = level) ∧
    ∀ step value report, step.answer? (session.step step).2 = some (value, report) →
      ∃ name, LoggerName.ofValue value = .ok name ∧
        report.level = ((start.run (steps ++ [step])).1.registry.logger name).level := by
  intro start session logger
  have bare (name : LoggerName) : (start.registry.logger name).handlers = [] := by
    cases name <;> rfl
  have shaped (name : LoggerName) : AreHandlers (logger name).handlers :=
    areHandlers_run (.inl (bare name)) steps
  have attached (name : LoggerName) :
      (logger name).handlers ≠ [] ↔ levels {} steps name ≠ [] :=
    not_congr (handlers_run_eq_nil.trans (and_iff_right (bare name)))
  have last (name : LoggerName) : (logger name).level =
      ((levels {} steps name).getLast?).getD (Registry.logger {} name).level :=
    level_run start steps name
  have next (step : LogStep) : (start.run (steps ++ [step])).1 = (session.step step).1 :=
    run_append start steps [step]
  refine ⟨shaped, ?_, attached, ?_, last, ?_, ?_, ?_⟩
  · intro name some later
    rw [run_append]
    exact handlers_run_kept some later
  · intro name step request level none asks sets path
    rw [← show session.environment = inForce {} steps from environment_run start steps] at asks
    rw [next, handlers_step_first none asks sets]
    exact Request.file_mem_handlers
  · intro number other value valueToo report reportToo answered answeredToo
    obtain ⟨name, named, member, counted, _⟩ := answer_run answered
    obtain ⟨nameToo, namedToo, memberToo, countedToo, _⟩ := answer_run answeredToo
    rw [show start.issued.length = 0 from rfl, Nat.zero_add] at counted countedToo
    rw [counted, countedToo, findIdx_eq_iff member memberToo]
    exact LoggerName.eq_iff_sameLogger named namedToo
  · intro number value report answered
    obtain ⟨name, named, _, _, handlers, some⟩ := answer_run answered
    have isLast := List.getLast?_eq_some_getLast some
    refine ⟨name, _, named, (shaped name).console_mem ((attached name).mpr some), handlers,
      isLast, ?_⟩
    rw [last, isLast, Option.getD_some]
  · intro step value report answered
    have first := answer_step session step
    rw [answered] at first
    obtain ⟨name, shows, _⟩ := first
    exact ⟨name, shows.named, by rw [next]; exact shows.level⟩

end LogSession

end KeyProtection.Logging
