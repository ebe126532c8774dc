import Mathlib.Data.List.Basic
import KeyProtection.Proofs.Logging.Delivery
import KeyProtection.Proofs.Logging.Failure
import KeyProtection.Proofs.Logging.Lineage

/-! Loggers that are asked for in another order. Requests for different loggers that are all answered
leave the same loggers and files in every order, and the same chains up to which of two loggers is the
older one; so what is logged afterwards is written to the same places. -/

namespace KeyProtection.Logging

namespace Request

/-- The path of the file that a request asks for. -/
def given? (request : Request) : Option String :=
  match request.chosenFile.ifTrue? with
  | some (.text given) => some given
  | _ => none

/-- What a request attaches to a logger without handlers, if its file can be opened. -/
def attaches (request : Request) (directory : Directory) : List Handler :=
  .console :: (request.given?.map fun given => .file (directory.target given)).toList

theorem opening_ok {request : Request} {directory : Directory} {opened : Option FilePath}
    (wellFormed : directory.WellFormed) (success : (request.opening directory).2 = .ok opened) :
    request.handlers directory = request.attaches directory ∧
      directory.Opens (request.opening directory).1 request.given?.toList := by
  rw [handlers, success]
  rw [opening] at success ⊢
  rw [attaches, given?]
  cases chosen : request.chosenFile.ifTrue? with
  | none =>
    rw [chosen] at success
    cases success
    exact ⟨rfl, .nothing directory⟩
  | some value =>
    rw [chosen] at success
    cases value with
    | text given =>
      dsimp only at success
      cases outcome : (directory.openLog given).2 with
      | error error =>
        rw [outcome] at success
        cases success
      | ok path =>
        rw [outcome] at success
        cases success
        obtain ⟨rfl, opens⟩ := Directory.openLog_opens (wellFormed.startOf given).1 outcome
        exact ⟨rfl, opens⟩
    | _ => cases success

end Request

/-- What a request that is answered makes of its logger, and the files that it opens for it. -/
structure Arrangement where
  name : LoggerName
  logger : Logger
  paths : List String

namespace LogSession

/-- What a request arranges for a logger: only a logger without handlers gets those of the request. -/
def arrange (session : LogSession) (name : LoggerName) (level : Level) (request : Request) :
    Arrangement :=
  if (session.registry.logger name).handlers = [] then
    ⟨name, ⟨level, request.attaches session.directory⟩, request.given?.toList⟩
  else ⟨name, ⟨level, (session.registry.logger name).handlers⟩, []⟩

theorem name_arrange (session : LogSession) (name : LoggerName) (level : Level) (request : Request) :
    (session.arrange name level request).name = name := by
  rw [arrange]
  split <;> rfl

end LogSession

namespace LogStep

/-- The logger that a step asks for. -/
def asked? : LogStep → Option LoggerName
  | .get name _ _ => (LoggerName.ofValue (name.getD LogSession.defaultName)).toOption
  | _ => none

/-- What a step arranges if it is answered. -/
def arrangement? [Runtime] (session : LogSession) (step : LogStep) : Option Arrangement :=
  (step.request? session.environment).bind fun request =>
    match LoggerName.ofValue request.name, request.chosenLevel with
    | .ok name, .ok level => some (session.arrange name level request)
    | _, _ => none

theorem asked?_of_arrangement? [Runtime] {session : LogSession} {step : LogStep} {made : Arrangement}
    (arranged : step.arrangement? session = some made) : step.asked? = some made.name := by
  obtain ⟨request, asks, found⟩ := Option.bind_eq_some_iff.mp arranged
  cases step with
  | get name level file =>
    cases asks
    simp only at found
    split at found
    · next named _ =>
      cases found
      rw [session.name_arrange, asked?, named]
      rfl
    · cases found
  | _ => cases asks

/-- What a step arranges depends on the environment, on the folder worked in, and on the handlers of its
logger. -/
theorem arrangement?_congr [Runtime] {session next : LogSession} {step : LogStep}
    (working : next.directory.working = session.directory.working)
    (environment : next.environment = session.environment)
    (same : ∀ name, step.asked? = some name → next.registry.logger name = session.registry.logger name) :
    step.arrangement? next = step.arrangement? session := by
  rw [arrangement?, arrangement?, environment]
  cases step with
  | get name level file =>
    simp only [request?, Option.bind_some]
    cases named : LoggerName.ofValue (name.getD LogSession.defaultName) with
    | error error => rfl
    | ok found =>
      have logger := same found (by rw [asked?, named]; rfl)
      have arranged (level : Level) (request : Request) :
          next.arrange found level request = session.arrange found level request := by
        have attaches : request.attaches next.directory = request.attaches session.directory := by
          simp only [Request.attaches, Directory.target_of_working working]
        rw [LogSession.arrange, LogSession.arrange, logger, attaches]
      cases Request.chosenLevel ⟨name.getD LogSession.defaultName, level.getD .null, file.getD .null,
        session.environment⟩ with
      | error error => rfl
      | ok level => exact congrArg some (arranged level _)
  | _ => rfl

end LogStep

/-- What a session has become of another one by one arrangement. -/
structure Arranges (session : LogSession) (made : Arrangement) (next : LogSession) : Prop where
  loggers : ∀ name, next.registry.find? name =
    if name = made.name then some made.logger else session.registry.find? name
  older : ∀ parent below, parent ≠ below → (parent ∈ next.registry.before below ↔
    parent ∈ session.registry.before below ∨
      (session.registry.find? (.named below) = none ∧ made.name = .named parent))
  opens : session.directory.Opens next.directory made.paths
  wellFormed : next.directory.WellFormed
  issued : next.issued = session.issued ++ [made.name]
  verdicts : next.verdicts = []
  environment : next.environment = session.environment
  now : next.now = session.now

theorem arranges_step [Runtime] {session : LogSession} {step : LogStep}
    (wellFormed : session.directory.WellFormed) (asks : (step.request? session.environment).isSome)
    (answered : (session.step step).2.outcome.isOk = true) :
    ∃ made, step.arrangement? session = some made ∧ Arranges session made (session.step step).1 := by
  obtain ⟨request, asks⟩ := Option.isSome_iff_exists.mp asks
  obtain ⟨same, current⟩ := LogSession.step_request asks
  rw [same] at answered ⊢
  rcases LogSession.get_cases session request current with ⟨_, _, result⟩ | ⟨_, _, _, _, result⟩ |
    ⟨_, _, _, _, _, _, result⟩ | ⟨name, level, named, chosen, clear, result⟩
  · rw [result] at answered
    cases answered
  · rw [result] at answered
    cases answered
  · rw [result] at answered
    cases answered
  · refine ⟨session.arrange name level request, by simp [LogStep.arrangement?, asks, named, chosen], ?_⟩
    rw [result]
    have grown := (LogSession.granted_grows wellFormed name request level).wellFormed wellFormed
    have older (parent below : String) (different : parent ≠ below) :
        parent ∈ (session.granted name request level).registry.before below ↔
          parent ∈ session.registry.before below ∨
            (session.registry.find? (.named below) = none ∧ name = .named parent) := by
      rw [LogSession.granted, Registry.before_update]
      exact Registry.mem_before_ensure different
    by_cases bare : (session.registry.logger name).handlers = []
    · have success : ∃ opened, (request.opening session.directory).2 = .ok opened := by
        cases outcome : (request.opening session.directory).2 with
        | ok opened => exact ⟨opened, rfl⟩
        | error error =>
          rw [LogSession.obstacle?_eq_some_iff.mpr ⟨bare, outcome⟩] at clear
          cases clear
      obtain ⟨opened, success⟩ := success
      obtain ⟨handlers, opens⟩ := Request.opening_ok wellFormed success
      rw [LogSession.arrange, if_pos bare]
      refine ⟨fun other => ?_, older, ?_, grown, rfl, rfl, rfl, rfl⟩
      · rw [LogSession.find?_granted, LogSession.attached, if_pos bare, bare, List.nil_append, handlers]
      · simpa [LogSession.granted, bare] using opens
    · rw [LogSession.arrange, if_neg bare]
      refine ⟨fun other => ?_, older, ?_, grown, rfl, rfl, rfl, rfl⟩
      · rw [LogSession.find?_granted, LogSession.attached, if_neg bare, List.append_nil]
      · simpa [LogSession.granted, bare] using Directory.Opens.nothing session.directory

/-- What a session has become of another one by some arrangements, one after the other. -/
structure ArrangesAll (session : LogSession) (made : List Arrangement) (next : LogSession) : Prop where
  asked : ∀ one ∈ made, next.registry.find? one.name = some one.logger
  others : ∀ name, name ∉ made.map Arrangement.name →
    next.registry.find? name = session.registry.find? name
  older : ∀ parent below, parent ≠ below → (parent ∈ next.registry.before below ↔
    parent ∈ session.registry.before below ∨ (session.registry.find? (.named below) = none ∧
      .named parent ∈ (made.map Arrangement.name).takeWhile (· ≠ .named below)))
  opens : session.directory.Opens next.directory (made.flatMap Arrangement.paths)
  issued : next.issued = session.issued ++ made.map Arrangement.name
  verdicts : next.verdicts = if made = [] then session.verdicts else []
  environment : next.environment = session.environment
  now : next.now = session.now

theorem ArrangesAll.nothing (session : LogSession) : ArrangesAll session [] session where
  asked _ member := nomatch member
  others _ _ := rfl
  older := by simp
  opens := .nothing session.directory
  issued := by simp
  verdicts := rfl
  environment := rfl
  now := rfl

/-- By one arrangement more before them, of another logger than theirs. -/
theorem ArrangesAll.cons {session next last : LogSession} {first : Arrangement} {rest : List Arrangement}
    (more : ArrangesAll next rest last) (arranges : Arranges session first next)
    (apart : first.name ∉ rest.map Arrangement.name) : ArrangesAll session (first :: rest) last where
  asked one member := by
    rcases List.mem_cons.mp member with rfl | later
    · rw [more.others _ apart, arranges.loggers, if_pos rfl]
    · exact more.asked one later
  others name absent := by
    obtain ⟨different, absent⟩ := not_or.mp (mt List.mem_cons.mpr absent)
    rw [more.others name absent, arranges.loggers, if_neg different]
  older parent below different := by
    rw [more.older parent below different, arranges.older parent below different, arranges.loggers,
      List.map_cons, List.takeWhile_cons]
    by_cases here : first.name = .named below
    · have other : LoggerName.named below ≠ .named parent := fun same =>
        different (LoggerName.named.inj same).symm
      simp [here, other]
    · simp [here, Ne.symm here, eq_comm, and_or_left, or_assoc]
  opens := arranges.opens.append more.opens
  issued := by rw [more.issued, arranges.issued, List.append_assoc]; rfl
  verdicts := by
    rw [more.verdicts, arranges.verdicts, ite_self, if_neg (List.cons_ne_nil _ _)]
  environment := more.environment.trans arranges.environment
  now := more.now.trans arranges.now

section Orders

variable {session first second : LogSession} {made other : List Arrangement}
  (arranged : ArrangesAll session made first) (arrangedToo : ArrangesAll session other second)
  (same : made.Perm other)

include arranged arrangedToo same

theorem ArrangesAll.find?_eq (name : LoggerName) :
    first.registry.find? name = second.registry.find? name := by
  by_cases member : name ∈ made.map Arrangement.name
  · obtain ⟨one, inside, rfl⟩ := List.mem_map.mp member
    rw [arranged.asked one inside, arrangedToo.asked one (same.mem_iff.mp inside)]
  · rw [arranged.others name member,
      arrangedToo.others name fun inside => member ((same.map _).mem_iff.mpr inside)]

theorem ArrangesAll.files_eq (path : FilePath) :
    first.directory.find? path = second.directory.find? path :=
  arranged.opens.find?_eq arrangedToo.opens (fun _ => (same.flatMap_right _).mem_iff) path

theorem ArrangesAll.verdicts_eq : first.verdicts = second.verdicts := by
  rw [arranged.verdicts, arrangedToo.verdicts]
  cases made with
  | nil => rw [if_pos rfl, if_pos same.nil_eq.symm]
  | cons one rest =>
    rw [if_neg (List.cons_ne_nil one rest), if_neg fun none => List.cons_ne_nil one rest (none ▸ same).eq_nil]

/-- The chain of a logger is the same in both orders exactly if, wherever it goes up to a logger that is
named by a beginning of the root's name and both are new, that one comes before the other in both orders or
in neither. -/
theorem ArrangesAll.chain_eq_iff (name : LoggerName) :
    first.registry.chain name = second.registry.chain name ↔
      ∀ parent child, .named child ∈ first.registry.chain name →
        parent.toList <+: LoggerName.root.text.toList →
        (first.registry.IsNext child (.named parent) ∨ second.registry.IsNext child (.named parent)) →
        session.registry.find? (.named parent) = none → session.registry.find? (.named child) = none →
        (.named parent ∈ (made.map Arrangement.name).takeWhile (· ≠ .named child) ↔
          .named parent ∈ (other.map Arrangement.name).takeWhile (· ≠ .named child)) := by
  have loggers := arranged.find?_eq arrangedToo same
  rw [Registry.chain_eq_iff fun name => congrArg Option.isSome (loggers name)]
  refine forall₅_congr fun parent child member beginning either => ?_
  have different : parent ≠ child := by
    rintro rfl
    have isAbove := either.elim (fun here => here.isAbove.1) fun there => there.isAbove.1
    exact absurd isAbove.depth_lt (Nat.lt_irrefl _)
  rw [arranged.older parent child different, arrangedToo.older parent child different]
  by_cases absent : session.registry.find? (.named child) = none
  · by_cases new : session.registry.find? (.named parent) = none
    · have younger : parent ∉ session.registry.before child := by
        rw [Registry.before_of_absent absent]
        exact (Registry.find?_eq_none_iff _ _).mp new
      simp [absent, new, younger]
    · have older : parent ∈ session.registry.before child := by
        rw [Registry.before_of_absent absent]
        exact Classical.not_not.mp fun missing => new ((Registry.find?_eq_none_iff _ _).mpr missing)
      simp [new, older]
  · simp [absent]

end Orders

/-- The loggers that steps ask for, in their order. -/
def askedFor (steps : List LogStep) : List LoggerName := steps.filterMap LogStep.asked?

namespace LogSession

/-- Sessions that write alike to some of their loggers. -/
structure Alike (first second : LogSession) (names : LoggerName → Prop) : Prop where
  now : first.now = second.now
  loggers : ∀ name, first.registry.find? name = second.registry.find? name
  chains : ∀ name, names name → first.registry.chain name = second.registry.chain name
  verdicts : ∀ name, names name → ∀ level,
    first.verdicts.lookup (name, level) = second.verdicts.lookup (name, level)
  files : ∀ path, first.directory.find? path = second.directory.find? path

theorem Alike.logger_eq {first second : LogSession} {names : LoggerName → Prop}
    (alike : Alike first second names) (name : LoggerName) :
    first.registry.logger name = second.registry.logger name := by
  rw [Registry.logger, Registry.logger, alike.loggers]

theorem Alike.effectiveLevel_eq {first second : LogSession} {names : LoggerName → Prop}
    (alike : Alike first second names) {name : LoggerName} (named : names name) :
    first.registry.effectiveLevel name = second.registry.effectiveLevel name := by
  simp only [Registry.effectiveLevel, alike.chains name named, alike.logger_eq]

section

variable [Runtime]

/-- Requests for different loggers that are all answered. -/
structure Configures (session : LogSession) (steps : List LogStep) : Prop where
  requests : ∀ step ∈ steps, (step.request? session.environment).isSome
  apart : (askedFor steps).Nodup
  answered : ∀ reply ∈ (session.run steps).2, reply.outcome.isOk = true

/-- What steps arrange if they are answered. -/
def arrangements (session : LogSession) (steps : List LogStep) : List Arrangement :=
  steps.filterMap (LogStep.arrangement? session)

/-- By induction on the steps: what each of them arranges is not changed by those before it, since they
ask for other loggers. -/
theorem Configures.arranges {session : LogSession} {steps : List LogStep}
    (wellFormed : session.directory.WellFormed) (configures : session.Configures steps) :
    (session.arrangements steps).map Arrangement.name = askedFor steps ∧
      ArrangesAll session (session.arrangements steps) (session.run steps).1 := by
  induction steps generalizing session with
  | nil => exact ⟨rfl, .nothing session⟩
  | cons step rest later =>
    obtain ⟨requests, apart, answered⟩ := configures
    obtain ⟨made, arranged, arranges⟩ := arranges_step wellFormed (requests step List.mem_cons_self)
      (answered _ (by rw [run_cons]; exact List.mem_cons_self))
    have named := LogStep.asked?_of_arrangement? arranged
    rw [askedFor, List.filterMap_cons_some named, List.nodup_cons] at apart
    have kept : (session.step step).1.arrangements rest = session.arrangements rest := by
      apply List.filterMap_congr
      intro other member
      apply LogStep.arrangement?_congr arranges.opens.working arranges.environment
      intro name asks
      have different : name ≠ made.name := by
        rintro rfl
        exact apart.1 (List.mem_filterMap.mpr ⟨other, member, asks⟩)
      rw [Registry.logger, arranges.loggers, if_neg different]
      rfl
    have configures : (session.step step).1.Configures rest := by
      refine ⟨fun other member => ?_, apart.2, fun reply member => ?_⟩
      · rw [arranges.environment]
        exact requests other (List.mem_cons_of_mem _ member)
      · exact answered reply (by rw [run_cons]; exact List.mem_cons_of_mem _ member)
    obtain ⟨names, all⟩ := later arranges.wellFormed configures
    rw [kept] at names all
    rw [arrangements, askedFor, List.filterMap_cons_some arranged, List.filterMap_cons_some named,
      List.map_cons]
    exact ⟨congrArg _ names, all.cons arranges (names ▸ apart.1)⟩

/-- Wherever the chain of a logger goes up, after the steps in one order or in the other, from a new logger
to a new one that is named by a beginning of the root's name, the two come in the same order in both. -/
def SameElders (session : LogSession) (steps other : List LogStep) (name : LoggerName) : Prop :=
  let first := (session.run steps).1.registry
  let second := (session.run other).1.registry
  ∀ parent child, .named child ∈ first.chain name → parent.toList <+: LoggerName.root.text.toList →
    (first.IsNext child (.named parent) ∨ second.IsNext child (.named parent)) →
    session.registry.find? (.named parent) = none → session.registry.find? (.named child) = none →
    (.named parent ∈ (askedFor steps).takeWhile (· ≠ .named child) ↔
      .named parent ∈ (askedFor other).takeWhile (· ≠ .named child))

theorem Alike.write {first second : LogSession} {names : LoggerName → Prop}
    (alike : Alike first second names) {name : LoggerName} (named : names name) (level : Int)
    (message : String) :
    (first.write name level message).2.log = (second.write name level message).2.log ∧
      Alike (first.write name level message).1 (second.write name level message).1 names := by
  have verdict : first.verdict name level = second.verdict name level := by
    rw [LogSession.verdict, LogSession.verdict, alike.verdicts name named, Registry.enabled,
      Registry.enabled, alike.effectiveLevel_eq named]
  have handlers : first.registry.handlers name = second.registry.handlers name := by
    simp only [Registry.handlers, alike.chains name named, alike.logger_eq]
  -- Both keep the verdict in mind, whatever becomes of the files.
  have keeps {directory other : Directory}
      (files : ∀ path, directory.find? path = other.find? path) :
      Alike
        { first with
          now := second.now
          directory := directory
          verdicts := ((name, level), second.verdict name level) :: first.verdicts }
        { second with
          directory := other
          verdicts := ((name, level), second.verdict name level) :: second.verdicts } names := by
    refine ⟨rfl, alike.loggers, alike.chains, fun other chosen number => ?_, files⟩
    rw [List.lookup_cons, List.lookup_cons, alike.verdicts other chosen number]
  rw [LogSession.write, LogSession.write]
  simp only [verdict, handlers, alike.now]
  split
  · cases Record.make level name.text message with
    | error error => exact ⟨rfl, keeps alike.files⟩
    | ok record =>
      have delivered (directory : Directory) := foldl_deliver (record.written second.now)
        (second.registry.handlers name) ("", directory)
      obtain ⟨console, files⟩ := delivered first.directory
      obtain ⟨consoleToo, filesToo⟩ := delivered second.directory
      refine ⟨console.trans consoleToo.symm, keeps fun path => ?_⟩
      rw [files path, filesToo path, alike.files]
  · exact ⟨rfl, keeps alike.files⟩

/-- Two steps that write one record to one logger, which two sessions may have numbered differently. -/
inductive SameRecord (first second : List LoggerName) (names : LoggerName → Prop) :
    LogStep → LogStep → Prop
  | log {number other : Nat} (level : Int) (message : String)
      (same : first[number]? = second[other]?) (named : ∀ name ∈ first[number]?, names name) :
      SameRecord first second names (.log number level message) (.log other level message)

theorem Alike.step {first second : LogSession} {names : LoggerName → Prop}
    (alike : Alike first second names) {log other : LogStep}
    (same : SameRecord first.issued second.issued names log other) :
    (first.step log).2.log = (second.step other).2.log ∧
      Alike (first.step log).1 (second.step other).1 names ∧
      (first.step log).1.issued = first.issued ∧ (second.step other).1.issued = second.issued := by
  obtain ⟨level, message, same, named⟩ := same
  rw [LogSession.step, LogSession.step, ← same]
  split
  · next name found =>
    obtain ⟨line, next⟩ := alike.write (named name found) level message
    exact ⟨line, next, (write_registry first name level message).2.2,
      (write_registry second name level message).2.2⟩
  · exact ⟨rfl, alike, rfl, rfl⟩

/-- Alike sessions write alike, record by record. -/
theorem Alike.run {first second : LogSession} {names : LoggerName → Prop}
    (alike : Alike first second names) {logs others : List LogStep}
    (same : List.Forall₂ (SameRecord first.issued second.issued names) logs others) :
    (first.run logs).2.map LogReply.log = (second.run others).2.map LogReply.log ∧
      Alike (first.run logs).1 (second.run others).1 names := by
  induction logs generalizing first second others with
  | nil =>
    cases same
    exact ⟨rfl, alike⟩
  | cons log rest later =>
    rcases same with _ | ⟨record, records⟩
    obtain ⟨line, next, issued, issuedToo⟩ := alike.step record
    obtain ⟨lines, last⟩ := later next (by rwa [issued, issuedToo])
    exact ⟨congrArg₂ List.cons line lines, last⟩

/-- Requests for different loggers that are all answered leave the same loggers, with the same levels and
handlers, and the same files, in whatever order they are made. Chains go up by the next loggers above, and
the first level on a chain that is set takes effect. The chain of a logger is the same in both orders exactly
if they agree about the elders on it; then its level does not depend on the order either, nor does what is
written of records that are logged to such loggers afterwards. -/
theorem configuration_order_free {session : LogSession} (wellFormed : session.directory.WellFormed)
    {steps other : List LogStep} (same : other.Perm steps) (configures : session.Configures steps)
    (configuresToo : session.Configures other) :
    let first := (session.run steps).1
    let second := (session.run other).1
    (∀ name, first.registry.find? name = second.registry.find? name) ∧
    (∀ path, first.directory.find? path = second.directory.find? path) ∧
    first.registry.GoesUp ∧ second.registry.GoesUp ∧
    (∀ name, first.registry.chain name = second.registry.chain name ↔
      session.SameElders steps other name) ∧
    (∀ name, session.SameElders steps other name →
      first.registry.effectiveLevel name = second.registry.effectiveLevel name) ∧
    first.issued.Perm second.issued ∧
    ∀ logs others, List.Forall₂ (SameRecord first.issued second.issued (session.SameElders steps other))
        logs others →
      (first.run logs).2.map LogReply.log = (second.run others).2.map LogReply.log ∧
      ∀ path, (first.run logs).1.directory.find? path = (second.run others).1.directory.find? path := by
  intro first second
  obtain ⟨names, arranged⟩ := configures.arranges wellFormed
  obtain ⟨namesToo, arrangedToo⟩ := configuresToo.arranges wellFormed
  have made : (session.arrangements steps).Perm (session.arrangements other) := (same.filterMap _).symm
  have chains (name : LoggerName) : first.registry.chain name = second.registry.chain name ↔
      session.SameElders steps other name := by
    rw [arranged.chain_eq_iff arrangedToo made, names, namesToo]
    rfl
  have alike : Alike first second (session.SameElders steps other) :=
    ⟨arranged.now.trans arrangedToo.now.symm, arranged.find?_eq arrangedToo made,
      fun name => (chains name).mpr,
      fun _ _ _ => by rw [arranged.verdicts_eq arrangedToo made],
      arranged.files_eq arrangedToo made⟩
  refine ⟨alike.loggers, alike.files, first.registry.goesUp, second.registry.goesUp, chains,
    fun name => alike.effectiveLevel_eq, ?_, fun logs others records => ?_⟩
  · rw [arranged.issued, arrangedToo.issued]
    exact (made.map _).append_left _
  · obtain ⟨lines, last⟩ := alike.run records
    exact ⟨lines, last.files⟩

end

/-- A logger with a file and the one above it, from which it has its level, in both orders. -/
theorem configuration_order_free_pair :
    let start : LogSession := { now := 0, directory := .bare ["srv"] 900 }
    let below : LogStep := .get (some (.text "b.a")) (some (.int 0)) (some (.text "/var//e"))
    let above : LogStep := .get (some (.text "b")) (some (.int 10)) none
    start.directory.WellFormed ∧ [above, below].Perm [below, above] ∧
      start.Configures [below, above] ∧ start.Configures [above, below] ∧
      (∀ path, (start.run [below, above]).1.directory.find? path =
        (start.run [above, below]).1.directory.find? path) ∧
      (start.run [below, above]).1.registry.effectiveLevel (.named "b.a") =
        (start.run [above, below]).1.registry.effectiveLevel (.named "b.a") := by
  intro start below above
  have wellFormed : start.directory.WellFormed :=
    Directory.wellFormed_bare (by decide : FilePath.IsNormal ["srv"]) 900
  have same : [above, below].Perm [below, above] := .swap below above []
  have first : start.Configures [below, above] :=
    ⟨by decide +kernel, by decide +kernel, by decide +kernel⟩
  have second : start.Configures [above, below] :=
    ⟨by decide +kernel, by decide +kernel, by decide +kernel⟩
  obtain ⟨_, files, _, _, _, levels, _⟩ := configuration_order_free wellFormed same first second
  refine ⟨wellFormed, same, first, second, files, levels _ fun parent child _ beginning _ _ _ => ?_⟩
  -- Neither of the two names is a beginning of the root's.
  have absent (asked : List LoggerName)
      (known : ∀ name ∈ asked, name = .named "b.a" ∨ name = .named "b") :
      .named parent ∉ asked.takeWhile (· ≠ .named child) := by
    intro member
    rcases known _ ((List.takeWhile_prefix _).mem member) with named | named
    · obtain rfl := LoggerName.named.inj named
      exact absurd beginning (by decide)
    · obtain rfl := LoggerName.named.inj named
      exact absurd beginning (by decide)
  exact iff_of_false (absent _ (by decide +kernel)) (absent _ (by decide +kernel))

/-- Above a logger the order matters: one that is named by a beginning of the root's name and made after
the one below it does not get its records. And a logger in front of a doubled dot is passed by. -/
theorem configuration_order_felt :
    let start : LogSession := { now := 0, directory := .bare ["srv"] 900 }
    let below : LogStep := .get (some (.text "r.x")) (some (.int 20)) none
    let above : LogStep := .get (some (.text "r")) (some (.int 20)) none
    let doubled : LogStep := .get (some (.text "a..b")) (some (.int 0)) none
    let front : LogStep := .get (some (.text "a")) (some (.int 10)) none
    let line := Record.line ⟨"INFO", "r.x", "m"⟩ 0
    (start.Configures [below, above] ∧ start.Configures [above, below] ∧
      ((start.run [below, above]).1.step (.log 0 20 "m")).2.log = line ∧
      ((start.run [above, below]).1.step (.log 1 20 "m")).2.log = line ++ line) ∧
    start.Configures [front, doubled] ∧
      (start.run [front, doubled]).1.registry.logger (.named "a") = ⟨.int 10, [.console]⟩ ∧
      LoggerName.IsAbove (.named "a") (.named "a..b") ∧
      (start.run [front, doubled]).1.registry.logger (.named "a..b") = ⟨.int 0, [.console]⟩ ∧
      (start.run [front, doubled]).1.registry.effectiveLevel (.named "a..b") = .int 30 := by
  intro start below above doubled front line
  have first : start.Configures [below, above] :=
    ⟨by decide +kernel, by decide +kernel, by decide +kernel⟩
  have second : start.Configures [above, below] :=
    ⟨by decide +kernel, by decide +kernel, by decide +kernel⟩
  have third : start.Configures [front, doubled] :=
    ⟨by decide +kernel, by decide +kernel, by decide +kernel⟩
  refine ⟨⟨first, second, ?_, ?_⟩, third, ?_, ⟨by decide, ".b", by decide⟩, ?_, ?_⟩
  · decide +kernel
  · decide +kernel
  · decide +kernel
  · decide +kernel
  · decide +kernel

end LogSession

end KeyProtection.Logging
