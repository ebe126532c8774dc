import KeyProtection.DateTime
import KeyProtection.Flag
import KeyProtection.Floating

/-!
Values of any kind that can reach a field, a setting or a log call, and what a caller may ask of
every one of them: its kind, its truth, and the integer it stands for.
-/

namespace KeyProtection

inductive Value where
  | null
  | bool (truth : Bool)
  | int (number : Int)
  | float (number : Floating)
  | text (content : String)
  | flags (set : FlagSet)
  | time (moment : DateTime)
  | context (label : Value)
  | list (items : List Value)
  | dict (entries : List (String × Value))

instance : Inhabited Value := ⟨.null⟩

inductive Kind where
  | null
  | bool
  | int
  | float
  | text
  | flags (type : FlagType)
  | time
  | context
  | list
  | dict
  deriving DecidableEq, Repr

namespace Kind

def name : Kind → String
  | null => "NoneType"
  | bool => "bool"
  | int => "int"
  | float => "float"
  | text => "str"
  | flags type => type.name
  | time => "datetime"
  | context => "AuthorizationContext"
  | list => "list"
  | dict => "dict"

/-- The name with the module of the calendar types, which some messages show. -/
def qualifiedName : Kind → String
  | time => "datetime.datetime"
  | kind => kind.name

end Kind

namespace Value

def kind : Value → Kind
  | null => .null
  | bool _ => .bool
  | int _ => .int
  | float _ => .float
  | text _ => .text
  | flags set => .flags set.type
  | time _ => .time
  | context _ => .context
  | list _ => .list
  | dict _ => .dict

/-- Only null, false, zero of any kind and what is empty count as false. -/
def truthy : Value → Bool
  | null => false
  | bool truth => truth
  | int number => number != 0
  | float number => !number.isZero
  | text content => content != ""
  | flags set => set.bits != 0
  | time _ => true
  | context _ => true
  | list items => !items.isEmpty
  | dict entries => !entries.isEmpty

/-- The integer that a value passes for wherever an integer is expected. -/
def integer? : Value → Option Int
  | bool truth => some (if truth then 1 else 0)
  | int number => some number
  | flags set => some set.bits
  | _ => none

/-- The integer of a value that is one in earnest, truth values left out. -/
def mask? : Value → Option Int
  | bool _ => none
  | value => value.integer?

/-- The value if it is true. -/
def ifTrue? (value : Value) : Option Value := if value.truthy then some value else none

/-- Entries with one more; a key that is there keeps its place and takes the new value. -/
def insertEntry (key : String) (value : Value) : List (String × Value) → List (String × Value)
  | [] => [(key, value)]
  | (found, old) :: rest =>
    if found = key then (key, value) :: rest else (found, old) :: insertEntry key value rest

/-- Entries in order, of which each key has one: the last value given for it. -/
def distinctEntries (entries : List (String × Value)) : List (String × Value) :=
  entries.foldl (fun entries (key, value) => insertEntry key value entries) []

def ofText? : Option String → Value
  | some content => text content
  | none => null

end Value

end KeyProtection
