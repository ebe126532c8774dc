import KeyProtection.Text.Quoted
import KeyProtection.Value

/-!
Failures by cause, the class that a caller can catch each of them by, and its message.
-/

namespace KeyProtection

/-- The classes of failures. The first three after the root are this library's own. -/
inductive ErrorClass where
  | exception
  | keyStoreParameter
  | invalidArgument
  | invalidState
  | value
  | runtime
  | type
  | missingAttribute
  | overflow
  | frozenInstance
  | recursion
  | operatingSystem
  | fileExists
  | notADirectory
  | isADirectory
  | fileNotFound
  | noSuchSlot
  deriving DecidableEq, Repr

/-- The class itself and all classes above it. -/
def ErrorClass.ancestors : ErrorClass → List ErrorClass
  | exception => [exception]
  | invalidArgument => [invalidArgument, keyStoreParameter, value, exception]
  | invalidState => [invalidState, keyStoreParameter, runtime, exception]
  | frozenInstance => [frozenInstance, missingAttribute, exception]
  | recursion => [recursion, runtime, exception]
  | fileExists => [fileExists, operatingSystem, exception]
  | notADirectory => [notADirectory, operatingSystem, exception]
  | isADirectory => [isADirectory, operatingSystem, exception]
  | fileNotFound => [fileNotFound, operatingSystem, exception]
  | other => [other, exception]

def ErrorClass.isA (child parent : ErrorClass) : Bool := child.ancestors.contains parent

/-- What numbered things a script can name before they are made. -/
inductive Slot where
  | builder
  | parameters
  | logger
  deriving DecidableEq, Repr

/-- What can be called with keyword arguments. -/
inductive Callee where
  | authorizationContext
  | keyParameters
  deriving DecidableEq, Repr

inductive Error where
  | contextMissing
  | maskNotInteger (type : FlagType) (found : Kind)
  | maskNegative (type : FlagType) (shown : String)
  | durationNotInteger
  | durationNegative (shown : String)
  | levelNameUnknown (shown : String)
  | digestsUnspecified
  | notDecimal (text : String)
  | tooManyDigits (limit count : Nat)
  | integerTooLong (limit : Nat)
  | undefinedToInteger
  | infiniteToInteger
  | levelTextUnknown (text : String)
  | embeddedNull
  | notConvertible (found : Kind)
  | notOperands (sign : Char) (left right : Kind)
  | notAPart (part whole : Kind)
  | notSerializable (found : Kind)
  | unhashable (found : Kind)
  | unexpectedKeyword (callee : Callee) (keyword : String)
  | repeatedReceiver (callee : Callee)
  | nameNotText
  | levelNotAccepted (shown : String)
  | notAPath (found : Kind)
  | noAttribute (found : Kind) (name : String)
  | dateOutOfRange
  | frozenAssign (field : String)
  | frozenDelete (field : String)
  | fileExists
  | notADirectory
  | isADirectory
  | fileNotFound
  | nameTooLong
  | nestedTooDeep
  | noSuchSlot (slot : Slot) (number : Nat)
  deriving DecidableEq, Repr

namespace Error

/-- A keyword that names no argument. The object that is being made has the name `self` and cannot be
given again. -/
def keyword (callee : Callee) (keyword : String) : Error :=
  if keyword = "self" then repeatedReceiver callee else unexpectedKeyword callee keyword

def errorClass : Error → ErrorClass
  | contextMissing | maskNotInteger .. | maskNegative .. | durationNotInteger | durationNegative _
  | levelNameUnknown _ => .invalidArgument
  | digestsUnspecified => .invalidState
  | notDecimal _ | tooManyDigits .. | integerTooLong _ | undefinedToInteger | levelTextUnknown _
  | embeddedNull => .value
  | notConvertible _ | notOperands .. | notAPart .. | notSerializable _ | unhashable _
  | unexpectedKeyword .. | repeatedReceiver _ | nameNotText | levelNotAccepted _ | notAPath _ => .type
  | noAttribute .. => .missingAttribute
  | infiniteToInteger | dateOutOfRange => .overflow
  | frozenAssign _ | frozenDelete _ => .frozenInstance
  | fileExists => .fileExists
  | notADirectory => .notADirectory
  | isADirectory => .isADirectory
  | fileNotFound => .fileNotFound
  | nameTooLong => .operatingSystem
  | nestedTooDeep => .recursion
  | noSuchSlot .. => .noSuchSlot

def quoted (content : String) : String := String.ofList (Text.quoted content.toList)

def calleeName : Callee → String
  | .authorizationContext => "AuthorizationContext.__init__()"
  | .keyParameters => "KeyStoreParameter.__init__()"

def slotName : Slot → String
  | .builder => "builder"
  | .parameters => "params"
  | .logger => "logger"

def count (number : Nat) : String := String.ofList (digits number)

/-- What stands at the start of both messages about a bound on digits. -/
def digitBound (limit : Nat) : String :=
  "Exceeds the limit (" ++ count limit ++ " digits) for integer string conversion"

/-- The wording of each cause. A text that is no decimal number is shown up to 200 characters. -/
def message : Error → String
  | contextMissing => "context must not be None"
  | maskNotInteger type found => type.name ++ " bits must be int, got " ++ found.name
  | maskNegative type shown => type.name ++ " bits must not be negative (got " ++ shown ++ ")"
  | durationNotInteger => "user_authentication_validity_duration_seconds must be an int"
  | durationNegative shown =>
    "user_authentication_validity_duration_seconds must not be negative (got " ++ shown ++
      "; use -1 for unlimited)"
  | levelNameUnknown shown => "Unknown log level: " ++ shown
  | digestsUnspecified => "Digests not specified"
  | notDecimal text =>
    "invalid literal for int() with base 10: " ++ String.ofList ((Text.quoted text.toList).take 200)
  | tooManyDigits limit found =>
    digitBound limit ++ ": value has " ++ count found ++
      " digits; use sys.set_int_max_str_digits() to increase the limit"
  | integerTooLong limit =>
    digitBound limit ++ "; use sys.set_int_max_str_digits() to increase the limit"
  | undefinedToInteger => "cannot convert float NaN to integer"
  | infiniteToInteger => "cannot convert float infinity to integer"
  | levelTextUnknown text => "Unknown level: " ++ quoted text
  | embeddedNull => "embedded null byte"
  | notConvertible found =>
    "int() argument must be a string, a bytes-like object or a real number, not '" ++
      found.qualifiedName ++ "'"
  | notOperands sign left right =>
    "unsupported operand type(s) for " ++ sign.toString ++ ": '" ++ left.qualifiedName ++ "' and '" ++
      right.qualifiedName ++ "'"
  | notAPart part whole =>
    "unsupported operand type(s) for 'in': '" ++ part.name ++ "' and '" ++ whole.name ++ "'"
  | notSerializable found => "Object of type " ++ found.name ++ " is not JSON serializable"
  | unhashable found => "unhashable type: '" ++ found.name ++ "'"
  | unexpectedKeyword callee keyword =>
    calleeName callee ++ " got an unexpected keyword argument '" ++ keyword ++ "'"
  | repeatedReceiver callee => calleeName callee ++ " got multiple values for argument 'self'"
  | nameNotText => "A logger name must be a string"
  | levelNotAccepted shown => "Level not an integer or a valid string: " ++ shown
  | notAPath found => "expected str, bytes or os.PathLike object, not " ++ found.name
  | noAttribute found name =>
    "'" ++ found.qualifiedName ++ "' object has no attribute '" ++ name ++ "'"
  | dateOutOfRange => "date value out of range"
  | frozenAssign field => "cannot assign to field " ++ quoted field
  | frozenDelete field => "cannot delete field " ++ quoted field
  | fileExists => "File exists"
  | notADirectory => "Not a directory"
  | isADirectory => "Is a directory"
  | fileNotFound => "No such file or directory"
  | nameTooLong => "File name too long"
  | nestedTooDeep => "maximum recursion depth exceeded"
  | noSuchSlot slot number => slotName slot ++ " " ++ count number

end Error

end KeyProtection
