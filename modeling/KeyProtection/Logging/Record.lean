import KeyProtection.DateTime
import KeyProtection.Level

/-!
Log records and the line each is written as. Name and message go into the line as they are.
-/

namespace KeyProtection.Logging

structure Record where
  levelName : String
  name : String
  message : String
  deriving DecidableEq, Repr

namespace Record

/-- A record at a level, if the level has a name or its number can be written. -/
def make [Runtime] (level : Int) (name message : String) : Except Error Record :=
  (Level.text level).map fun levelName => ⟨levelName, name, message⟩

/-- A clock value in seconds as an instant. -/
def instant (seconds : Int) : Instant := seconds * 1000000

/-- The line of a record written when the clock shows `seconds`. -/
def line (record : Record) (seconds : Int) : String :=
  "\x7b\"ts\": \"" ++ String.ofList (instant seconds).secondText ++
    "\", \"level\": \"" ++ record.levelName ++
    "\", \"name\": \"" ++ record.name ++
    "\", \"msg\": \"" ++ record.message ++ "\"\x7d\n"

/-- Whether a line can name the year of a clock value: the year and its distance from 1900 fit 32
bits. -/
def isDatable (seconds : Int) : Bool :=
  let year := (instant seconds).date.year
  decide (-2147483648 ≤ year - 1900) && decide (year ≤ 2147483647)

/-- What is written of a record: its line, or nothing for a clock value that no line can name. -/
def written (record : Record) (seconds : Int) : String :=
  if isDatable seconds then record.line seconds else ""

end Record

end KeyProtection.Logging
