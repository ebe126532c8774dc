import Mathlib.Data.List.ReduceOption
import KeyProtection.Proofs.Logging.Line
import KeyProtection.Proofs.Parameters.Build

/-! What the log tells of builds. Of a whole session it holds one line for each set of parameters that
was built and can be told of, in their order, and nothing else; the message of a line gives back what it was
written of. -/

namespace KeyProtection

/-- What a notice says is so of the parameters. -/
structure BuildNotice.Describes (notice : BuildNotice) (parameters : KeyParameters) : Prop where
  purposes : parameters.purposes.integer? = some notice.purposes
  specified : notice.digests.isSome = parameters.isDigestsSpecified
  digests : ∀ bits ∈ notice.digests, parameters.digests.integer? = some bits
  duration : parameters.duration.integer? = some notice.duration
  encrypted : parameters.isEncryptionRequired = .ok notice.encrypted

namespace Session

open BuildNotice

/-- The notice of parameters that were built describes them: their masks are flag sets, their duration an
integer. -/
theorem describes_notice [Runtime] {builder : Builder} {parameters : KeyParameters}
    (built : builder.build = .ok parameters) : (notice parameters).Describes parameters := by
  obtain ⟨acceptable, _, rfl⟩ := Builder.eq_frozen_of_build built
  constructor
  case purposes => rfl
  case specified =>
    simp only [notice]
    split <;> simp [*]
  case digests =>
    intro bits found
    cases held : builder.digests with
    | none => simp [notice, Builder.frozen, held, KeyParameters.isDigestsSpecified] at found
    | some value =>
      simpa [notice, Builder.frozen, held, KeyParameters.isDigestsSpecified, Value.integer?] using found
  case duration =>
    have whole : ∀ value : Value, value.IsDuration → value.integer? = some (value.integer?.getD 0) := by
      rintro (_ | _ | _) duration <;> trivial
    exact whole _ acceptable.duration
  case encrypted =>
    cases required : builder.encryption <;> simp [notice, Builder.frozen, required] <;> rfl

/-- What is read of a line of the log. -/
def readNotice? (line : String) : Option BuildNotice :=
  match (Json.read? line.toList).bind (Json.lastMember? "msg") with
  | some (.atom (.text message)) => ofMessage? message
  | _ => none

theorem readNotice?_line (parameters : KeyParameters) (seconds : Int) :
    readNotice? ((noticeRecord parameters).line seconds) = some (notice parameters) := by
  have message := (Logging.Record.isIn_document (noticeRecord parameters) seconds).message
  rw [readNotice?, Logging.Record.read?_line (arePlain_levelName_noticeRecord parameters)
    (isClean_noticeRecord parameters), Option.bind_some, message]
  exact ofMessage?_message (notice parameters)

end Session

/-- The parameters that a step has built, by the reply to it. -/
def SessionStep.built? (step : SessionStep) (reply : SessionReply) : Option KeyParameters :=
  match step, reply.outcome with
  | .build _, .ok (.fields parameters) => some parameters
  | _, _ => none

theorem SessionStep.built?_eq_some_iff {step : SessionStep} {reply : SessionReply}
    {parameters : KeyParameters} : step.built? reply = some parameters ↔
      ∃ number, step = .build number ∧ reply.outcome = .ok (.fields parameters) := by
  unfold built?
  split <;> simp_all

namespace Session

theorem logs_iff (session : Session) :
    session.logs = true ↔ session.logLevel ≠ 0 ∧ session.logLevel ≤ 10 := by
  by_cases unset : session.logLevel = 0
  · simp [logs, unset, Level.unset, Level.warning, Level.debug]
  · simp [logs, unset, Level.unset, Level.debug]

theorem count_join_lines (seconds : Int) (made : List KeyParameters) :
    (String.join (made.map fun parameters => (noticeRecord parameters).line seconds)).toList.count '\n' =
      made.length := by
  induction made with
  | nil => rfl
  | cons parameters rest later =>
    obtain ⟨body, line, inside⟩ :=
      Logging.Record.oneLine_line (arePlain_levelName_noticeRecord parameters)
        (isClean_noticeRecord parameters) seconds
    rw [List.map_cons, String.join_cons, String.toList_append, List.count_append, later, line,
      List.count_append, List.count_eq_zero_of_not_mem inside, List.length_cons]
    simp [Nat.add_comm]

/-- The lines of all parameters that were built, one after the other. -/
theorem join_map_getD (line : KeyParameters → String) (made : List (Option KeyParameters)) :
    String.join (made.map fun built => (built.map line).getD "") =
      String.join (made.reduceOption.map line) := by
  induction made with
  | nil => rfl
  | cons first rest later =>
    rw [List.map_cons, String.join_cons, later]
    cases first with
    | none => exact String.empty_append
    | some parameters => rw [List.reduceOption_cons_of_some, List.map_cons, String.join_cons]; rfl

section

variable [Runtime]

/-- What the steps of a session build, in their order: nothing where a step is no build or fails. -/
def built (session : Session) (steps : List SessionStep) : List (Option KeyParameters) :=
  steps.zipWith SessionStep.built? (session.run steps).2

/-- What is written where these parameters, if any, were built. -/
def logOf (session : Session) (made : Option KeyParameters) : String :=
  (made.map session.buildLog).getD ""

/-- Nothing is logged of a build at a level that is not set or too high, or at a clock value that no line
can name. -/
theorem buildLog_of_silent {session : Session}
    (silent : session.logLevel = 0 ∨ 10 < session.logLevel ∨
      Logging.Record.isDatable session.now = false) (parameters : KeyParameters) :
    session.buildLog parameters = "" := by
  rcases silent with unset | high | undatable
  · have silent : session.logs = false :=
      Bool.eq_false_iff.mpr fun logs => (session.logs_iff.mp logs).1 unset
    simp only [buildLog, silent]
  · have silent : session.logs = false :=
      Bool.eq_false_iff.mpr fun logs => Int.not_lt.mpr (session.logs_iff.mp logs).2 high
    simp only [buildLog, silent]
  · rw [buildLog]
    split
    · next record _ _ => exact if_neg (by simp [undatable])
    · rfl

theorem log_adopt (session : Session) (made : Except Error KeyParameters) :
    (session.adopt made).2.log = "" ∧ (session.adopt made).1.buildLog = session.buildLog := by
  cases made <;> exact ⟨rfl, rfl⟩

/-- A step writes what is logged of the parameters that it has built, if it has built any, and changes
nothing in how the next ones are logged. -/
theorem log_step (session : Session) (step : SessionStep) :
    (session.step step).2.log = session.logOf (step.built? (session.step step).2) ∧
      (session.step step).1.buildLog = session.buildLog := by
  cases step with
  | builder context =>
    rw [Session.step]
    cases Builder.new context <;> exact ⟨rfl, rfl⟩
  | set number setting =>
    rw [Session.step]
    cases session.builder number <;> exact ⟨rfl, rfl⟩
  | build number =>
    rw [Session.step]
    cases (session.builder number).bind Builder.build <;> exact ⟨rfl, rfl⟩
  | new fields => exact session.log_adopt _
  | replace number fields => exact session.log_adopt _
  | _ => exact ⟨rfl, rfl⟩

theorem built_cons (session : Session) (step : SessionStep) (rest : List SessionStep) :
    session.built (step :: rest) =
      step.built? (session.step step).2 :: (session.step step).1.built rest := rfl

/-- By induction on the steps, since none of them changes how builds are logged. -/
theorem logs_run (session : Session) (steps : List SessionStep) :
    (session.run steps).2.map SessionReply.log = (session.built steps).map session.logOf := by
  induction steps generalizing session with
  | nil => rfl
  | cons step rest later =>
    obtain ⟨written, kept⟩ := session.log_step step
    have same : (session.step step).1.logOf = session.logOf := by
      funext made
      rw [logOf, logOf, kept]
    rw [run_cons, built_cons, List.map_cons, List.map_cons, later, written, same]

theorem built_of_mem {session : Session} {steps : List SessionStep} {parameters : KeyParameters}
    (member : some parameters ∈ session.built steps) :
    ∃ builder : Builder, builder.build = .ok parameters := by
  induction steps generalizing session with
  | nil => cases member
  | cons step rest later =>
    rcases List.mem_cons.mp member with here | after
    · obtain ⟨number, rfl, outcome⟩ := SessionStep.built?_eq_some_iff.mp here.symm
      obtain ⟨builder, -, built⟩ := (outcome_build_iff session number parameters).mp outcome
      exact ⟨builder, built⟩
    · exact later after

/-- The parameters among these whose notice can be written. -/
def told (made : Option KeyParameters) : Option KeyParameters :=
  made.filter fun parameters => decide (notice parameters).Writable

/-- Where builds are logged, what is written of one is its line, if its notice can be written. -/
theorem logOf_of_logs {session : Session} (logs : session.logs = true)
    (datable : Logging.Record.isDatable session.now = true) (made : Option KeyParameters) :
    session.logOf made =
      ((told made).map fun parameters => (noticeRecord parameters).line session.now).getD "" := by
  cases made with
  | none => rfl
  | some parameters =>
    rw [logOf, told, Option.map_some, Option.getD_some, buildLog_of_logs logs,
      Logging.Record.written_of_isDatable datable, Option.filter_some]
    by_cases writable : (notice parameters).Writable
    · simp [writable]
    · simp [writable]

/-- Without a bound on digits every notice can be written. -/
theorem told_of_unbounded (unbounded : Runtime.digitLimit = none) (made : Option KeyParameters) :
    told made = made := by
  cases made with
  | none => rfl
  | some parameters =>
    have writable := (writesIf_buildRecord parameters).of_unbounded unbounded
    rw [told, Option.filter_some, if_pos (decide_eq_true writable)]

/-- A session writes of its steps exactly the builds that succeed and whose integers can be written. Where
it logs builds, at a clock value that a line can name, each step writes the one line of the parameters that
it has built, or nothing if it has built none or a record of them cannot be made; so the whole log holds as
many lines as such parameters were built, in their order, and each line gives back what it tells of the
parameters. Where digits are not bounded, those are all that were built. Everywhere else nothing is
written. -/
theorem logs_exactly_built (session : Session) (steps : List SessionStep) :
    (session.logLevel = 0 ∨ 10 < session.logLevel ∨ Logging.Record.isDatable session.now = false →
      ∀ reply ∈ (session.run steps).2, reply.log = "") ∧
    (session.logLevel ≠ 0 → session.logLevel ≤ 10 → Logging.Record.isDatable session.now = true →
      let line (parameters : KeyParameters) : String := (noticeRecord parameters).line session.now
      let log := String.join ((session.run steps).2.map SessionReply.log)
      let made := session.built steps
      let written := (made.map told).reduceOption
      ((session.run steps).2.map SessionReply.log =
        made.map fun built => ((told built).map line).getD "") ∧
      log = String.join (written.map line) ∧ log.toList.count '\n' = written.length ∧
      (∀ parameters ∈ written, ∃ notice, readNotice? (line parameters) = some notice ∧
        notice.Describes parameters) ∧
      (∀ parameters, WritesIf (notice parameters).Writable (buildRecord parameters)) ∧
      (Runtime.digitLimit = none → written = made.reduceOption)) := by
  refine ⟨fun silent => ?_, fun own low datable => ?_⟩
  · have nothing : session.logOf = fun _ => "" := by
      funext built
      cases built with
      | none => rfl
      | some parameters => exact buildLog_of_silent silent parameters
    intro reply member
    have found : reply.log ∈ (session.run steps).2.map SessionReply.log := List.mem_map_of_mem member
    rw [logs_run, nothing] at found
    exact List.eq_of_mem_map_const found
  · intro line log made written
    have each : (session.run steps).2.map SessionReply.log =
        made.map fun built => ((told built).map line).getD "" := by
      rw [logs_run]
      exact List.map_congr_left fun built _ => logOf_of_logs (session.logs_iff.mpr ⟨own, low⟩) datable built
    have whole : log = String.join (written.map line) := by
      rw [← join_map_getD, List.map_map]
      exact congrArg String.join each
    refine ⟨each, whole, ?_, fun parameters member => ?_, writesIf_buildRecord, fun unbounded => ?_⟩
    · rw [whole]
      exact count_join_lines session.now written
    · obtain ⟨built, present, kept⟩ := List.mem_map.mp (List.reduceOption_mem_iff.mp member)
      obtain ⟨rfl, _⟩ := Option.filter_eq_some_iff.mp kept
      obtain ⟨builder, success⟩ := built_of_mem present
      exact ⟨notice parameters, readNotice?_line parameters session.now, describes_notice success⟩
    · exact congrArg List.reduceOption
        ((List.map_congr_left fun built _ => told_of_unbounded unbounded built).trans (List.map_id' made))

end

/-- Of two builds, one with a duration that is refused, the other one is logged. -/
theorem logs_exactly_built_once :
    let session : Session := ⟨10, 0, [], []⟩
    let steps : List SessionStep := [.builder (.text "context"), .set 0 (.digests (.int 3)), .build 0,
      .set 0 (.duration (.int (-5))), .build 0, .fields 0]
    session.logLevel ≠ 0 ∧ session.logLevel ≤ 10 ∧ Logging.Record.isDatable session.now = true ∧
      (String.join ((session.run steps).2.map SessionReply.log)).toList.count '\n' = 1 := by
  intro session steps
  have datable : Logging.Record.isDatable session.now = true := by decide +kernel
  exact ⟨by decide, by decide, datable,
    ((@logs_exactly_built _ session steps).2 (by decide) (by decide) datable).2.2.1⟩

/-- Not every build that is to be logged is: from the second on at which the year is one more than a line
can name, nothing is written. -/
theorem built_unlogged :
    let session : Session := ⟨10, 67768036191676800, [], []⟩
    let steps : List SessionStep := [.builder (.text "context"), .build 0]
    (session.built steps).reduceOption.length = 1 ∧
      (session.run steps).2.map SessionReply.log = ["", ""] := by
  exact ⟨rfl, by decide +kernel⟩

end Session

end KeyProtection
