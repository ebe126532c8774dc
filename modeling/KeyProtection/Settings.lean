import KeyProtection.Level
import KeyProtection.Text.UpperCase

/-!
Settings of the log: its level and its file. A true entry of the configuration comes first, then the
variable of the environment, then the default.
-/

namespace KeyProtection

/-- The two variables that settings look at; a variable set to the empty text is set. -/
structure Environment where
  logLevel : Option String := none
  logFile : Option String := none
  deriving DecidableEq, Repr

structure Settings where
  logLevel : Int
  logFile : Value

namespace Settings

/-- The true entry of a configuration for a key. -/
def configured? (config : Value) (key : String) : Option Value :=
  match config with
  | .dict entries => (entries.lookup key).bind Value.ifTrue?
  | _ => none

/-- The value that names the level. -/
def levelChoice (config : Value) (environment : Environment) : Value :=
  ((configured? config "log_level").or (environment.logLevel.map .text)).getD (.text "INFO")

/-- The file of the log, null for none. -/
def fileChoice (config : Value) (environment : Environment) : Value :=
  ((configured? config "log_file").or ((environment.logFile.map .text).bind Value.ifTrue?)).getD .null

/-- The level that a text names in any mixture of cases. -/
def namedLevel? (shown : List Char) : Option Int :=
  Level.named.lookup (String.ofList (Text.upper shown))

variable [Runtime]

/-- The level of a value that is shown as a known name. Any other one is an error if `strict`, and else
the ordinary level; a value that cannot be shown is an error in both cases. -/
def level (choice : Value) (strict : Bool) : Except Error Int := do
  let shown ← choice.display
  match namedLevel? shown with
  | some level => .ok level
  | none => if strict then .error (.levelNameUnknown (String.ofList shown)) else .ok Level.info

/-- Settings from a configuration, of which every false value is empty. -/
def load (config : Value) (strict : Bool) (environment : Environment) : Except Error Settings :=
  match config with
  | .dict _ => resolve config
  | _ => if config.truthy then .error (.noAttribute config.kind "get") else resolve (.dict [])
where
  resolve (config : Value) : Except Error Settings :=
    (level (levelChoice config environment) strict).map fun level =>
      ⟨level, fileChoice config environment⟩

end Settings

end KeyProtection
