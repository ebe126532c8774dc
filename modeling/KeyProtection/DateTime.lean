import KeyProtection.Calendar
import KeyProtection.Decimal

/-!
Civil times with an optional offset from universal time, instants in microseconds from the start of
1970, and the texts of instants.
-/

namespace KeyProtection

/-- A number in decimal digits with leading zeros up to a width. -/
def padded (width number : Nat) : List Char :=
  List.replicate (width - (digits number).length) '0' ++ digits number

/-- Microseconds from the first moment of January 1970, universal time. -/
abbrev Instant := Int

namespace Instant

def date (instant : Instant) : Date := Date.ofDayNumber (instant / TimeOfDay.microsecondsPerDay)

def timeOfDay (instant : Instant) : TimeOfDay :=
  TimeOfDay.ofCount (instant % TimeOfDay.microsecondsPerDay).toNat (by
    simp only [TimeOfDay.microsecondsPerDay]; omega)

def monthDayText (date : Date) : List Char := '-' :: padded 2 date.month ++ '-' :: padded 2 date.day

def clockText (time : TimeOfDay) : List Char :=
  padded 2 time.hour ++ ':' :: padded 2 time.minute ++ ':' :: padded 2 time.second

/-- The years that a timestamp can name. -/
def InRange (instant : Instant) : Prop := 1 ≤ instant.date.year ∧ instant.date.year ≤ 9999

instance (instant : Instant) : Decidable instant.InRange :=
  inferInstanceAs (Decidable (_ ∧ _))

/-- Universal time to the millisecond, `YYYY-MM-DDThh:mm:ss.mmmZ`; the rest is cut off. -/
def millisecondText (instant : Instant) : List Char :=
  padded 4 instant.date.year.toNat ++ monthDayText instant.date ++ 'T' :: clockText instant.timeOfDay ++
    '.' :: padded 3 (instant.timeOfDay.microsecond / 1000) ++ ['Z']

/-- Universal time to the second, the year without leading zeros, as the log writes it. -/
def secondText (instant : Instant) : List Char :=
  integerText instant.date.year ++ monthDayText instant.date ++ 'T' :: clockText instant.timeOfDay ++
    ['Z']

end Instant

/-- A civil time of the years 1 to 9999; the offset counts microseconds east of universal time. -/
structure DateTime where
  date : Date
  time : TimeOfDay
  offset : Option Int
  year_range : 1 ≤ date.year ∧ date.year ≤ 9999
  offset_range : ∀ shift ∈ offset, shift.natAbs < TimeOfDay.microsecondsPerDay
  deriving DecidableEq

namespace DateTime

/-- The instant that a civil time names; without an offset it is universal time. -/
def instant (time : DateTime) : Instant :=
  time.date.dayNumber * TimeOfDay.microsecondsPerDay + time.time.count - time.offset.getD 0

/-- Times with offsets are equal if they name one instant, times without if they agree field by
field; a time with and a time without offset differ. -/
def equal (left right : DateTime) : Bool :=
  match left.offset, right.offset with
  | none, none => left.date == right.date && left.time == right.time
  | some _, some _ => left.instant == right.instant
  | _, _ => false

def utcText? (time : DateTime) : Option String :=
  if time.instant.InRange then some (String.ofList time.instant.millisecondText) else none

def microsecondText (microsecond : Nat) : List Char :=
  if microsecond = 0 then [] else '.' :: padded 6 microsecond

/-- An offset as hours and minutes, with seconds and their fraction only where they are not zero. -/
def offsetText (offset : Int) : List Char :=
  let seconds := offset.natAbs / 1000000
  let fraction := microsecondText (offset.natAbs % 1000000)
  (if offset < 0 then '-' else '+') :: padded 2 (seconds / 3600) ++ ':' :: padded 2 (seconds / 60 % 60) ++
    if seconds % 60 = 0 ∧ fraction = [] then [] else ':' :: padded 2 (seconds % 60) ++ fraction

/-- The civil time as written, date and time of day apart. -/
def text (time : DateTime) : List Char :=
  padded 4 time.date.year.toNat ++ Instant.monthDayText time.date ++ ' ' :: Instant.clockText time.time ++
    microsecondText time.time.microsecond ++ (time.offset.map offsetText).getD []

end DateTime

end KeyProtection
