import KeyProtection.Canonical
import KeyProtection.Mask
import KeyProtection.Value.Equality
import KeyProtection.Value.Timestamp

/-!
Protection parameters of a key: ten fields that may hold values of any kind, of which only the
duration is checked when a set of parameters is made.
-/

namespace KeyProtection

/-- The fields in their order. -/
inductive Field where
  | flags
  | start
  | originationEnd
  | consumptionEnd
  | purposes
  | paddings
  | digests
  | blockModes
  | userAuthenticators
  | duration
  deriving DecidableEq, Repr

namespace Field

def all : List Field :=
  [flags, start, originationEnd, consumptionEnd, purposes, paddings, digests, blockModes,
    userAuthenticators, duration]

def name : Field → String
  | flags => "flags"
  | start => "key_validity_start"
  | originationEnd => "key_validity_for_origination_end"
  | consumptionEnd => "key_validity_for_consumption_end"
  | purposes => "purposes"
  | paddings => "paddings"
  | digests => "digests"
  | blockModes => "block_modes"
  | userAuthenticators => "user_authenticators"
  | duration => "user_authentication_validity_duration_seconds"

def ofName? (name : String) : Option Field := all.find? fun field => field.name == name

end Field

/-- The version of the documents. -/
def schemaVersion : String := "1.0"

/-- The flag of an entry that must be encrypted at rest. -/
def encryptedFlag : Int := 1

/-- The duration of an authentication that holds for good. -/
def unlimitedValidity : Int := -1

/-- Null digests are unspecified, which differs from an empty set of them. -/
structure KeyParameters where
  flags : Value := .int 0
  start : Value := .null
  originationEnd : Value := .null
  consumptionEnd : Value := .null
  purposes : Value := .flags ⟨.purpose, 0⟩
  paddings : Value := .flags ⟨.padding, 0⟩
  digests : Value := .null
  blockModes : Value := .flags ⟨.blockMode, 0⟩
  userAuthenticators : Value := .flags ⟨.userAuthenticator, 0⟩
  duration : Value := .int unlimitedValidity

namespace KeyParameters

def get (parameters : KeyParameters) : Field → Value
  | .flags => parameters.flags
  | .start => parameters.start
  | .originationEnd => parameters.originationEnd
  | .consumptionEnd => parameters.consumptionEnd
  | .purposes => parameters.purposes
  | .paddings => parameters.paddings
  | .digests => parameters.digests
  | .blockModes => parameters.blockModes
  | .userAuthenticators => parameters.userAuthenticators
  | .duration => parameters.duration

def set (parameters : KeyParameters) (field : Field) (value : Value) : KeyParameters :=
  match field with
  | .flags => { parameters with flags := value }
  | .start => { parameters with start := value }
  | .originationEnd => { parameters with originationEnd := value }
  | .consumptionEnd => { parameters with consumptionEnd := value }
  | .purposes => { parameters with purposes := value }
  | .paddings => { parameters with paddings := value }
  | .digests => { parameters with digests := value }
  | .blockModes => { parameters with blockModes := value }
  | .userAuthenticators => { parameters with userAuthenticators := value }
  | .duration => { parameters with duration := value }

theorem get_set (parameters : KeyParameters) (field other : Field) (value : Value) :
    (parameters.set field value).get other = if other = field then value else parameters.get other := by
  cases field <;> cases other <;> rfl

theorem ext_get {left right : KeyParameters} (agree : ∀ field, left.get field = right.get field) :
    left = right := by
  cases left
  cases right
  simp only [mk.injEq]
  exact ⟨agree .flags, agree .start, agree .originationEnd, agree .consumptionEnd, agree .purposes,
    agree .paddings, agree .digests, agree .blockModes, agree .userAuthenticators, agree .duration⟩

/-- All values in the order of the fields. -/
def values (parameters : KeyParameters) : List Value := Field.all.map parameters.get

variable [Runtime]

/-- A duration is an integer in earnest, negative only where it is unlimited. -/
def checkDuration (duration : Value) : Except Error Unit :=
  match duration.mask? with
  | none => .error .durationNotInteger
  | some seconds =>
    if seconds < 0 ∧ seconds ≠ unlimitedValidity then do
      let shown ← Text.ofInteger seconds
      .error (.durationNegative (String.ofList shown))
    else .ok ()

/-- The parameters themselves, if their duration is valid. -/
def checked (parameters : KeyParameters) : Except Error KeyParameters := do
  checkDuration parameters.duration
  return parameters

/-- The fields that names stand for; the first name of no field is an error. -/
def namedChanges : List (String × Value) → Except Error (List (Field × Value))
  | [] => .ok []
  | (name, value) :: rest =>
    match Field.ofName? name with
    | some field => (namedChanges rest).map ((field, value) :: ·)
    | none => .error (.keyword .keyParameters name)

def change (parameters : KeyParameters) (changes : List (Field × Value)) : KeyParameters :=
  changes.foldl (fun parameters (field, value) => parameters.set field value) parameters

/-- A copy with some fields changed. -/
def replace (parameters : KeyParameters) (changes : List (String × Value)) :
    Except Error KeyParameters := do
  (parameters.change (← namedChanges changes)).checked

/-- Parameters from the values of some fields, the others as they are by default. -/
def new (changes : List (String × Value)) : Except Error KeyParameters :=
  replace {} changes

def isEncryptionRequired (parameters : KeyParameters) : Except Error Bool :=
  (parameters.flags.operand .int).map fun flags => Bits.and flags encryptedFlag != 0

def isDigestsSpecified (parameters : KeyParameters) : Bool :=
  match parameters.digests with
  | .null => false
  | _ => true

def getDigests (parameters : KeyParameters) : Except Error Value :=
  if parameters.isDigestsSpecified then .ok parameters.digests else .error .digestsUnspecified

/-- The document of a set of parameters: masks as integers, times as timestamps. -/
def document (parameters : KeyParameters) : Except Error Value := do
  let encryption ← parameters.isEncryptionRequired
  let start ← parameters.start.timestamp
  let originationEnd ← parameters.originationEnd.timestamp
  let consumptionEnd ← parameters.consumptionEnd.timestamp
  let purposes ← parameters.purposes.toInteger
  let paddings ← parameters.paddings.toInteger
  let digests ←
    if parameters.isDigestsSpecified then parameters.digests.toInteger.map .int else .ok .null
  let blockModes ← parameters.blockModes.toInteger
  let userAuthenticators ← parameters.userAuthenticators.toInteger
  return .dict
    [("schema_ver", .text schemaVersion),
      (Field.flags.name, parameters.flags),
      ("encryption_required", .bool encryption),
      (Field.start.name, .ofText? start),
      (Field.originationEnd.name, .ofText? originationEnd),
      (Field.consumptionEnd.name, .ofText? consumptionEnd),
      (Field.purposes.name, .int purposes),
      (Field.paddings.name, .int paddings),
      (Field.digests.name, digests),
      (Field.blockModes.name, .int blockModes),
      (Field.userAuthenticators.name, .int userAuthenticators),
      (Field.duration.name, parameters.duration)]

def text (parameters : KeyParameters) : Except Error String := do
  (← parameters.document).canonicalText

/-- Two sets of parameters are equal if they agree field by field. -/
def equal (left right : KeyParameters) : Bool :=
  Field.all.all fun field => (left.get field).equal (right.get field)

def hashValues (seed : UInt64) : List Value → Except Error UInt64
  | [] => .ok seed
  | value :: rest =>
    match value.hash with
    | .ok next => hashValues (Value.mix seed next) rest
    | .error kind => .error (.unhashable kind)

/-- A hash of all fields; the first field without one is an error. -/
def hash (parameters : KeyParameters) : Except Error UInt64 := hashValues 11 parameters.values

end KeyParameters

end KeyProtection
