/-!
The Gregorian calendar, continued over all years, and the time of day. Days are counted from the
first of January 1970. Each date and each time of day is determined by its count.
-/

namespace KeyProtection

def isLeapYear (year : Int) : Bool := year % 4 = 0 && (year % 100 ≠ 0 || year % 400 = 0)

def monthLengths (year : Int) : List Nat :=
  [31, if isLeapYear year then 29 else 28, 31, 30, 31, 30, 31, 31, 30, 31, 30, 31]

/-- The days of some months together. -/
def total (lengths : List Nat) : Nat := lengths.foldr (· + ·) 0

@[simp] theorem total_nil : total [] = 0 := rfl

@[simp] theorem total_cons (length : Nat) (lengths : List Nat) :
    total (length :: lengths) = length + total lengths := rfl

def daysInMonth (year : Int) (month : Nat) : Nat := (monthLengths year).getD (month - 1) 0

structure Date where
  year : Int
  month : Nat
  day : Nat
  month_range : 1 ≤ month ∧ month ≤ 12
  day_range : 1 ≤ day ∧ day ≤ daysInMonth year month
  deriving DecidableEq

/-- A time of day with microseconds. -/
structure TimeOfDay where
  hour : Nat
  minute : Nat
  second : Nat
  microsecond : Nat
  hour_range : hour < 24
  minute_range : minute < 60
  second_range : second < 60
  microsecond_range : microsecond < 1000000
  deriving DecidableEq

namespace Date

/-- Days of the years before `year`, counted from the first of January of year 1. -/
def daysBeforeYear (year : Int) : Int :=
  365 * (year - 1) + (year - 1) / 4 - (year - 1) / 100 + (year - 1) / 400

/-- The day number of the first of January 1970, counted from the first of January of year 1. -/
def epoch : Int := 719162

def daysBeforeMonth (year : Int) (month : Nat) : Nat := total ((monthLengths year).take (month - 1))

def dayNumber (date : Date) : Int :=
  daysBeforeYear date.year + daysBeforeMonth date.year date.month + (date.day - 1) - epoch

/-- The year that holds a day counted from the first of January of year 1. The mean length of a year
puts it at most one year off. -/
def yearOfDay (days : Int) : Int :=
  let guess := 400 * days / 146097 + 1
  if days < daysBeforeYear guess then guess - 1
  else if daysBeforeYear (guess + 1) ≤ days then guess + 1
  else guess

/-- The month, as a count from the first of `lengths`, and the day of the month, of a day's place
in those months. -/
def monthOfDay : List Nat → Nat → Nat × Nat
  | [], place => (0, place)
  | length :: lengths, place =>
    if place < length then (0, place)
    else
      let (month, rest) := monthOfDay lengths (place - length)
      (month + 1, rest)

theorem sum_monthLengths (year : Int) :
    total (monthLengths year) = if isLeapYear year then 366 else 365 := by
  cases leap : isLeapYear year <;> simp [monthLengths, leap]

theorem daysBeforeYear_succ (year : Int) :
    daysBeforeYear (year + 1) = daysBeforeYear year + total (monthLengths year) := by
  rw [sum_monthLengths]
  cases leap : isLeapYear year <;> simp [isLeapYear] at leap <;> simp [daysBeforeYear] <;> omega

theorem daysBeforeYear_yearOfDay_le (days : Int) : daysBeforeYear (yearOfDay days) ≤ days := by
  unfold yearOfDay
  dsimp only
  split
  · simp only [daysBeforeYear]; omega
  · split
    · assumption
    · omega

theorem lt_daysBeforeYear_yearOfDay_succ (days : Int) :
    days < daysBeforeYear (yearOfDay days + 1) := by
  unfold yearOfDay
  dsimp only
  split
  · next early => simpa using early
  · split
    · simp only [daysBeforeYear]; omega
    · omega

theorem monthOfDay_valid (lengths : List Nat) (place : Nat) (inside : place < total lengths) :
    (monthOfDay lengths place).1 < lengths.length ∧
      (monthOfDay lengths place).2 < lengths.getD (monthOfDay lengths place).1 0 := by
  induction lengths generalizing place with
  | nil => simp at inside
  | cons length lengths ih =>
    simp only [monthOfDay]
    split
    · next small => simpa using small
    · next large =>
      simp only [total_cons] at inside
      have later := ih (place - length) (by omega)
      simpa using later

theorem sum_take_monthOfDay (lengths : List Nat) (place : Nat) (inside : place < total lengths) :
    total (lengths.take (monthOfDay lengths place).1) + (monthOfDay lengths place).2 = place := by
  induction lengths generalizing place with
  | nil => simp at inside
  | cons length lengths ih =>
    simp only [monthOfDay]
    split
    · simp
    · next large =>
      simp only [total_cons] at inside
      have later := ih (place - length) (by omega)
      simp only [List.take_succ_cons, total_cons]
      omega

/-- The date of a day number. -/
def ofDayNumber (number : Int) : Date :=
  let days := number + epoch
  let year := yearOfDay days
  let place := (days - daysBeforeYear year).toNat
  let position := monthOfDay (monthLengths year) place
  have inside : place < total (monthLengths year) := by
    have lower : daysBeforeYear year ≤ days := daysBeforeYear_yearOfDay_le days
    have upper : days < daysBeforeYear (year + 1) := lt_daysBeforeYear_yearOfDay_succ days
    rw [daysBeforeYear_succ] at upper
    omega
  have valid := monthOfDay_valid (monthLengths year) place inside
  have twelve : (monthLengths year).length = 12 := rfl
  { year := year, month := position.1 + 1, day := position.2 + 1
    month_range := ⟨by omega, twelve ▸ valid.1⟩
    day_range := ⟨by omega, valid.2⟩ }

theorem dayNumber_ofDayNumber (number : Int) : (ofDayNumber number).dayNumber = number := by
  have lower := daysBeforeYear_yearOfDay_le (number + epoch)
  have upper := lt_daysBeforeYear_yearOfDay_succ (number + epoch)
  rw [daysBeforeYear_succ] at upper
  have months := sum_take_monthOfDay (monthLengths (yearOfDay (number + epoch)))
    (number + epoch - daysBeforeYear (yearOfDay (number + epoch))).toNat (by omega)
  simp only [dayNumber, ofDayNumber, daysBeforeMonth, Nat.add_sub_cancel]
  omega

end Date

namespace TimeOfDay

def microsecondsPerDay : Nat := 86400000000

def count (time : TimeOfDay) : Nat :=
  ((time.hour * 60 + time.minute) * 60 + time.second) * 1000000 + time.microsecond

/-- The time of day so many microseconds after midnight. -/
def ofCount (count : Nat) (inside : count < microsecondsPerDay) : TimeOfDay where
  hour := count / 3600000000
  minute := count / 60000000 % 60
  second := count / 1000000 % 60
  microsecond := count % 1000000
  hour_range := by simp only [microsecondsPerDay] at inside; omega
  minute_range := by omega
  second_range := by omega
  microsecond_range := by omega

theorem count_ofCount (number : Nat) (inside : number < microsecondsPerDay) :
    (ofCount number inside).count = number := by
  simp only [count, ofCount]
  omega

end TimeOfDay

end KeyProtection
