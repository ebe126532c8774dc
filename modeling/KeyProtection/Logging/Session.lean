import KeyProtection.Logging.Record
import KeyProtection.Logging.Registry
import KeyProtection.Settings

/-!
Log sessions: scripts that set the environment, ask for configured loggers and write records.
-/

namespace KeyProtection.Logging

inductive LogStep where
  | environment (environment : Environment)
  | get (name level file : Option Value)
  | log (logger : Nat) (level : Int) (message : String)

/-- A logger as a successful request shows it, with the number of the first request for it if that
was an earlier one. -/
structure LoggerReport where
  name : String
  level : Level
  effective : Level
  sameAs : Option Nat
  handlers : List Handler

inductive LogAnswer where
  | done
  | logger (report : LoggerReport)

structure LogReply where
  outcome : Except Error LogAnswer
  /-- What was written to the console. -/
  log : String := ""

structure LogSession where
  now : Int
  directory : Directory
  environment : Environment := {}
  registry : Registry := {}
  issued : List LoggerName := []
  /-- Whether loggers have found levels enabled, since the level of any logger was last set. -/
  verdicts : List ((LoggerName × Int) × Bool) := []

namespace LogSession

def defaultName : Value := .text "keystore_core"

def update (session : LogSession) (name : LoggerName) (change : Logger → Logger) : LogSession :=
  { session with registry := session.registry.update name change }

def attach (session : LogSession) (name : LoggerName) (handler : Handler) : LogSession :=
  session.update name fun logger => { logger with handlers := logger.handlers ++ [handler] }

/-- The console, and then the file if there is one. A file that fails leaves the console and the
folders that were made. -/
def configure (session : LogSession) (name : LoggerName) (file : Value) :
    LogSession × Except Error Unit :=
  let session := session.attach name .console
  match file.ifTrue? with
  | none => (session, .ok ())
  | some (.text path) =>
    let (directory, outcome) := session.directory.openLog path
    let session := { session with directory := directory }
    match outcome with
    | .ok path => (session.attach name (.file path), .ok ())
    | .error error => (session, .error error)
  | some value => (session, .error (.notAPath value.kind))

variable [Runtime]

/-- Sets the level of a logger, upon which all loggers forget their verdicts, and attaches its handlers if
it has none. -/
def prepare (session : LogSession) (name : LoggerName) (level file : Value) :
    LogSession × Except Error Unit :=
  let session := { session with registry := session.registry.ensure name }
  match Settings.load .null false session.environment with
  | .error error => (session, .error error)
  | .ok settings =>
    let chosen : Except Error Level := match level with
      | .null => .ok (.int settings.logLevel)
      | level => Level.ofValue level
    match chosen with
    | .error error => (session, .error error)
    | .ok level =>
      let session :=
        { session.update name fun logger => { logger with level := level } with verdicts := [] }
      if (session.registry.logger name).handlers.isEmpty then
        session.configure name (file.ifTrue?.getD settings.logFile)
      else (session, .ok ())

def report (session : LogSession) (name : LoggerName) : LoggerReport where
  name := name.text
  level := (session.registry.logger name).level
  effective := session.registry.effectiveLevel name
  sameAs := session.issued.findIdx? (· == name)
  handlers := (session.registry.logger name).handlers

def get (session : LogSession) (name level file : Value) : LogSession × LogReply :=
  match LoggerName.ofValue name with
  | .error error => (session, { outcome := .error error })
  | .ok name =>
    let (prepared, outcome) := session.prepare name level file
    match outcome with
    | .error error => (prepared, { outcome := .error error })
    | .ok () =>
      ({ prepared with issued := prepared.issued ++ [name] },
        { outcome := .ok (.logger (prepared.report name)) })

/-- One line to one handler: what is written to the console, and the directory after it. -/
def deliver (line : String) (written : String × Directory) : Handler → String × Directory
  | .console => (written.1 ++ line, written.2)
  | .file path => (written.1, written.2.append path line)

/-- Whether a logger takes a level for enabled. It looks at its effective level the first time, and later
goes by what it found then. -/
def verdict (session : LogSession) (name : LoggerName) (level : Int) : Bool :=
  (session.verdicts.lookup (name, level)).getD (session.registry.enabled name level)

def write (session : LogSession) (name : LoggerName) (level : Int) (message : String) :
    LogSession × LogReply :=
  let verdict := session.verdict name level
  let session := { session with verdicts := ((name, level), verdict) :: session.verdicts }
  if verdict then
    match Record.make level name.text message with
    | .error error => (session, { outcome := .error error })
    | .ok record =>
      let (console, directory) := (session.registry.handlers name).foldl
        (deliver (record.written session.now)) ("", session.directory)
      ({ session with directory := directory }, { outcome := .ok .done, log := console })
  else (session, { outcome := .ok .done })

def step (session : LogSession) : LogStep → LogSession × LogReply
  | .environment environment =>
    ({ session with environment := environment }, { outcome := .ok .done })
  | .get name level file =>
    session.get (name.getD defaultName) (level.getD .null) (file.getD .null)
  | .log number level message =>
    match session.issued[number]? with
    | some name => session.write name level message
    | none => (session, { outcome := .error (.noSuchSlot .logger number) })

/-- The replies to a script, in order, and the session after it. -/
def run (session : LogSession) : List LogStep → LogSession × List LogReply
  | [] => (session, [])
  | first :: rest =>
    let (next, reply) := session.step first
    let (last, replies) := run next rest
    (last, reply :: replies)

end LogSession

end KeyProtection.Logging
