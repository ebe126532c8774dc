import KeyProtection.Level
import KeyProtection.Logging.Directory

/-!
Loggers in the tree of their names. A logger's parent is the nearest logger that exists under a
name cut off at a dot; the root is above all. A new logger becomes the parent of those below it that
were made before it, except of one whose parent until then has a name that begins with the new one;
so a logger named by a beginning of the root's name leaves to the root what was made before it.
-/

namespace KeyProtection.Logging

inductive Handler where
  | console
  | file (path : FilePath)
  deriving DecidableEq, Repr

structure Logger where
  level : Level := .int Level.unset
  handlers : List Handler := []
  deriving DecidableEq, Repr

inductive LoggerName where
  | root
  | named (name : String)
  deriving DecidableEq, Repr

namespace LoggerName

def text : LoggerName → String
  | root => "root"
  | named name => name

/-- Every false value and the text `root` name the root; else only a text is a name. -/
def ofValue (value : Value) : Except Error LoggerName :=
  if !value.truthy then .ok root
  else match value with
    | .text name => .ok (if name = root.text then root else named name)
    | _ => .error .nameNotText

/-- The names above `name`, nearest first, all of them read backwards; `isParent child parent` says
whether a cut is a parent. A name is cut off at its last dot; where that is no parent, the search
goes on before the character in front of that dot. The first character of a name is never cut off
at. -/
def above (isParent : List Char → List Char → Bool) (name : List Char) :
    List Char → List (List Char)
  | [] => []
  | [_] => []
  | first :: second :: rest =>
    if first = '.' then
      if isParent name (second :: rest) then
        (second :: rest) :: above isParent (second :: rest) (second :: rest)
      else above isParent name rest
    else above isParent name (second :: rest)

end LoggerName

/-- All loggers; the root is there from the start. -/
structure Registry where
  root : Logger := { level := .int Level.warning }
  /-- In the order in which they were made. -/
  named : List (String × Logger) := []
  deriving Repr

namespace Registry

def find? (registry : Registry) : LoggerName → Option Logger
  | .root => some registry.root
  | .named name => registry.named.lookup name

/-- The logger of a name, with nothing set if there is none. -/
def logger (registry : Registry) (name : LoggerName) : Logger := (registry.find? name).getD {}

/-- The registry with a logger of that name. -/
def ensure (registry : Registry) (name : LoggerName) : Registry :=
  match name, registry.find? name with
  | .named name, none => { registry with named := registry.named ++ [(name, {})] }
  | _, _ => registry

def update (registry : Registry) (name : LoggerName) (change : Logger → Logger) : Registry :=
  match name with
  | .root => { registry with root := change registry.root }
  | .named name =>
    { registry with
      named := registry.named.map fun (found, logger) =>
        (found, if found = name then change logger else logger) }

/-- The names of the loggers that were made before one. -/
def before (registry : Registry) (name : String) : List String :=
  (registry.named.map Prod.fst).takeWhile (· ≠ name)

/-- Whether a logger exists under a beginning of another one's name and is above that one. A logger
that is named by a beginning of the root's name has to be the older of the two. -/
def isParent (registry : Registry) (child parent : String) : Bool :=
  if parent.toList.isPrefixOf LoggerName.root.text.toList then
    (registry.before child).contains parent
  else (registry.named.lookup parent).isSome

/-- A logger's name and the names above it, nearest first; the root is the last. -/
def chain (registry : Registry) : LoggerName → List LoggerName
  | .root => [.root]
  | .named name =>
    let isParent (child parent : List Char) : Bool :=
      registry.isParent (String.ofList child.reverse) (String.ofList parent.reverse)
    let names := LoggerName.above isParent name.toList.reverse name.toList.reverse
    .named name :: (names.map fun reversed => .named (String.ofList reversed.reverse)) ++ [.root]

/-- The first level on the chain that is set. -/
def effectiveLevel (registry : Registry) (name : LoggerName) : Level :=
  (((registry.chain name).map fun name => (registry.logger name).level).find? fun level =>
    level.number != Level.unset).getD (.int Level.unset)

/-- The handlers of a chain, each logger's in their order. -/
def handlers (registry : Registry) (name : LoggerName) : List Handler :=
  (registry.chain name).flatMap fun name => (registry.logger name).handlers

/-- Whether a level is positive and not below the effective one of a logger. -/
def enabled (registry : Registry) (name : LoggerName) (level : Int) : Bool :=
  decide (0 < level) && decide ((registry.effectiveLevel name).number ≤ level)

end Registry

end KeyProtection.Logging
