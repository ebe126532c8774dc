import KeyProtection.Value.Display

/-!
Log levels: numbers, five of which have a name that settings know, and more names for a logger's
level. A logger keeps its level in the form in which it was given.
-/

namespace KeyProtection

/-- A level as it was given: a number, or a truth value or flag set that stands for one. -/
inductive Level where
  | int (number : Int)
  | bool (truth : Bool)
  | flags (set : FlagSet)
  deriving DecidableEq, Repr

namespace Level

def value : Level → Value
  | int number => .int number
  | bool truth => .bool truth
  | flags set => .flags set

/-- The number that a level is compared by. -/
def number : Level → Int
  | int number => number
  | bool truth => if truth then 1 else 0
  | flags set => set.bits

def named : List (String × Int) :=
  [("DEBUG", 10), ("INFO", 20), ("WARNING", 30), ("ERROR", 40), ("CRITICAL", 50)]

def info : Int := 20

def warning : Int := 30

def debug : Int := 10

/-- A level that leaves the choice to the loggers above. -/
def unset : Int := 0

/-- The names that a logger's level can be given by. -/
def accepted : List (String × Int) := named ++ [("FATAL", 50), ("WARN", 30), ("NOTSET", unset)]

/-- A number as log lines show it. -/
def text [Runtime] (number : Int) : Except Error String :=
  match (named ++ [("NOTSET", unset)]).find? fun entry => entry.2 == number with
  | some (name, _) => .ok name
  | none => (Text.ofInteger number).map fun digits => "Level " ++ String.ofList digits

/-- The level of a value that stands for an integer. -/
def ofInteger? : Value → Option Level
  | .bool truth => some (bool truth)
  | .int number => some (int number)
  | .flags set => some (flags set)
  | _ => none

/-- The level that a value gives a logger: an integer or an exact name. -/
def ofValue [Runtime] : Value → Except Error Level
  | .text content =>
    match accepted.lookup content with
    | some number => .ok (int number)
    | none => .error (.levelTextUnknown content)
  | value =>
    match ofInteger? value with
    | some level => .ok level
    | none => do
      let shown ← value.shown
      .error (.levelNotAccepted (String.ofList shown))

end Level

end KeyProtection
