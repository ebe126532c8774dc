import KeyProtection.Logging.Record
import KeyProtection.Parameters.Builder

/-!
Sessions: scripts over numbered builders and numbered sets of parameters. A step that fails changes
nothing, and only a successful build is logged.
-/

namespace KeyProtection

inductive SessionStep where
  | builder (context : Value)
  | set (builder : Nat) (setting : Setting)
  | build (builder : Nat)
  | new (fields : List (String × Value))
  | replace (parameters : Nat) (fields : List (String × Value))
  | fields (parameters : Nat)
  | assign (parameters : Nat) (field : String)
  | delete (parameters : Nat) (field : String)
  | equal (parameters other : Nat)
  | hash (parameters : Nat)
  | isEncryptionRequired (parameters : Nat)
  | isDigestsSpecified (parameters : Nat)
  | getDigests (parameters : Nat)
  | document (parameters : Nat)
  | text (parameters : Nat)

/-- What a successful step answers. Equal parameters also answer whether their hashes agree. -/
inductive SessionAnswer where
  | number (number : Nat)
  | done
  | fields (parameters : KeyParameters)
  | different
  | same (hashes : Bool)
  | truth (truth : Bool)
  | value (value : Value)
  | text (text : String)

structure SessionReply where
  outcome : Except Error SessionAnswer
  log : String := ""

structure Session where
  logLevel : Int
  now : Int
  builders : List Builder := []
  parameters : List KeyParameters := []

namespace Session

def builder (session : Session) (number : Nat) : Except Error Builder :=
  match session.builders[number]? with
  | some builder => .ok builder
  | none => .error (.noSuchSlot .builder number)

def parameter (session : Session) (number : Nat) : Except Error KeyParameters :=
  match session.parameters[number]? with
  | some parameters => .ok parameters
  | none => .error (.noSuchSlot .parameters number)

def loggerName : String := "keystore_core.parameters"

/-- Builds are logged at the debugging level; a logger without a level has that of the root. -/
def logs (session : Session) : Bool :=
  (if session.logLevel = Level.unset then Level.warning else session.logLevel) ≤ Level.debug

variable [Runtime]

def maskText (value : Value) : Except Error String :=
  (Text.ofInteger (value.integer?.getD 0)).map String.ofList

def digestsText (parameters : KeyParameters) : Except Error String :=
  if parameters.isDigestsSpecified then maskText parameters.digests else .ok "unspecified"

def buildMessage (parameters : KeyParameters) : Except Error String := do
  let purposes ← maskText parameters.purposes
  let digests ← digestsText parameters
  let duration ← maskText parameters.duration
  let encrypted := match parameters.isEncryptionRequired with
    | .ok true => "True"
    | _ => "False"
  return "PARAMS BUILT purposes=" ++ purposes ++ " digests=" ++ digests ++ " auth_validity=" ++ duration ++
    " encrypted=" ++ encrypted

def buildRecord (parameters : KeyParameters) : Except Error Logging.Record := do
  Logging.Record.make Level.debug loggerName (← buildMessage parameters)

/-- What is written of a build. A record that cannot be made is dropped, and the build goes on. -/
def buildLog (session : Session) (parameters : KeyParameters) : String :=
  match session.logs, buildRecord parameters with
  | true, .ok record => record.written session.now
  | _, _ => ""

/-- The session after new parameters, and the answer with their fields. -/
def adopt (session : Session) (made : Except Error KeyParameters) : Session × SessionReply :=
  match made with
  | .ok parameters =>
    ({ session with parameters := session.parameters ++ [parameters] },
      { outcome := .ok (.fields parameters) })
  | .error error => (session, { outcome := .error error })

def equality (left right : KeyParameters) : Except Error SessionAnswer :=
  if left.equal right then do
    let leftHash ← left.hash
    let rightHash ← right.hash
    return .same (leftHash == rightHash)
  else .ok .different

def step (session : Session) : SessionStep → Session × SessionReply
  | .builder context =>
    match Builder.new context with
    | .ok builder =>
      ({ session with builders := session.builders ++ [builder] },
        { outcome := .ok (.number session.builders.length) })
    | .error error => (session, { outcome := .error error })
  | .set number setting =>
    match session.builder number with
    | .ok builder =>
      ({ session with builders := session.builders.set number (builder.set setting) },
        { outcome := .ok .done })
    | .error error => (session, { outcome := .error error })
  | .build number =>
    match (session.builder number).bind Builder.build with
    | .ok parameters =>
      ({ session with parameters := session.parameters ++ [parameters] },
        { outcome := .ok (.fields parameters), log := session.buildLog parameters })
    | .error error => (session, { outcome := .error error })
  | .new fields => session.adopt (KeyParameters.new fields)
  | .replace number fields =>
    session.adopt ((session.parameter number).bind fun parameters => parameters.replace fields)
  | .fields number => read (session.parameter number |>.map .fields)
  | .assign number field =>
    read (session.parameter number |>.bind fun _ => .error (.frozenAssign field))
  | .delete number field =>
    read (session.parameter number |>.bind fun _ => .error (.frozenDelete field))
  | .equal number other => read do
    equality (← session.parameter number) (← session.parameter other)
  | .hash number => read do
    let _ ← (← session.parameter number).hash
    return .done
  | .isEncryptionRequired number => read do
    return .truth (← (← session.parameter number).isEncryptionRequired)
  | .isDigestsSpecified number => read do
    return .truth (← session.parameter number).isDigestsSpecified
  | .getDigests number => read do
    return .value (← (← session.parameter number).getDigests)
  | .document number => read do
    return .value (← (← session.parameter number).document)
  | .text number => read do
    return .text (← (← session.parameter number).text)
where
  read (outcome : Except Error SessionAnswer) : Session × SessionReply :=
    (session, { outcome := outcome })

/-- The replies to a script, in order, and the session after it. -/
def run (session : Session) : List SessionStep → Session × List SessionReply
  | [] => (session, [])
  | first :: rest =>
    let (next, reply) := session.step first
    let (last, replies) := run next rest
    (last, reply :: replies)

end Session

end KeyProtection
