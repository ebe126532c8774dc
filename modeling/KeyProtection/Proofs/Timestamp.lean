import KeyProtection.Proofs.Calendar
import KeyProtection.Proofs.Digits
import KeyProtection.Value.Timestamp

/-! Timestamps read back. A reader that knows only the shape `YYYY-MM-DDThh:mm:ss.mmmZ` and the
calendar finds in each timestamp the millisecond of the time that it was written for. -/

namespace KeyProtection

/-- Microseconds of universal time from the start of 1970 to a civil time, its days counted one by
one. -/
def DateTime.elapsed (moment : DateTime) : Int :=
  ((moment.date.elapsedDays : Int) - Date.firstOf1970.elapsedDays) * 86400000000 +
    (((moment.time.hour * 60 + moment.time.minute) * 60 + moment.time.second) * 1000000 +
      moment.time.microsecond : Nat) - moment.offset.getD 0

/-- The first moment that timestamps can name. -/
def DateTime.earliest : DateTime :=
  { date := ⟨1, 1, 1, Date.firstOf1970.month_range, by decide⟩
    time := ⟨0, 0, 0, 0, by decide, by decide, by decide, by decide⟩
    offset := none
    year_range := by decide
    offset_range := by simp }

def DateTime.latest : DateTime :=
  { date := ⟨9999, 12, 31, by decide, by decide⟩
    time := ⟨23, 59, 59, 999999, by decide, by decide, by decide, by decide⟩
    offset := none
    year_range := by decide
    offset_range := by simp }

/-- The universal time of a moment lies from the earliest to the latest nameable one. -/
def DateTime.IsNameable (moment : DateTime) : Prop :=
  earliest.elapsed ≤ moment.elapsed ∧ moment.elapsed ≤ latest.elapsed

/-- The universal time `stamp` begins the millisecond in which `moment` lies. -/
def DateTime.BeginsMillisecondOf (stamp moment : DateTime) : Prop :=
  stamp.offset = some 0 ∧ stamp.elapsed = 1000 * (moment.elapsed / 1000)

theorem DateTime.instant_eq_elapsed (moment : DateTime) : moment.instant = moment.elapsed := by
  simp only [instant, elapsed, TimeOfDay.count, TimeOfDay.microsecondsPerDay,
    Date.dayNumber_eq_elapsedDays moment.date moment.year_range.1]
  rfl

theorem DateTime.elapsed_earliest : earliest.elapsed = -62135596800000000 :=
  (instant_eq_elapsed _).symm.trans (by decide)

theorem DateTime.elapsed_latest : latest.elapsed = 253402300799999999 :=
  (instant_eq_elapsed _).symm.trans (by decide)

/-- Exactly the moments from the earliest to the latest one have a year that timestamps can name. -/
theorem Instant.inRange_iff (instant : Int) :
    Instant.InRange instant ↔
      DateTime.earliest.elapsed ≤ instant ∧ instant ≤ DateTime.latest.elapsed := by
  have lower := Date.le_yearOfDay_iff 1 (instant / TimeOfDay.microsecondsPerDay + Date.epoch)
  have upper := Date.le_yearOfDay_iff 10000 (instant / TimeOfDay.microsecondsPerDay + Date.epoch)
  have firstDay : Date.daysBeforeYear 1 = 0 := by decide
  have afterLastDay : Date.daysBeforeYear 10000 = 3652059 := by decide
  have year : (Instant.date instant).year =
      Date.yearOfDay (instant / TimeOfDay.microsecondsPerDay + Date.epoch) := rfl
  simp only [TimeOfDay.microsecondsPerDay, Date.epoch] at lower upper year
  rw [InRange, year, DateTime.elapsed_earliest, DateTime.elapsed_latest]
  omega

namespace Timestamp

/-- A number of so many digits at the start of a text, and the rest of the text. -/
def number? (width : Nat) (text : List Char) : Option (Nat × List Char) :=
  let run := text.take width
  if run.length = width ∧ run.all Char.isDigit then some (ofDigits run, text.drop width) else none

/-- A number that follows a mark. -/
def marked? (mark : Char) (width : Nat) : List Char → Option (Nat × List Char)
  | [] => none
  | first :: rest => if first = mark then number? width rest else none

def validDate? (year month day : Nat) : Option Date :=
  if valid : (1 ≤ month ∧ month ≤ 12) ∧ 1 ≤ day ∧ day ≤ daysInMonth year month then
    some ⟨year, month, day, valid.1, valid.2⟩
  else none

def validTime? (hour minute second microsecond : Nat) : Option TimeOfDay :=
  if valid : hour < 24 ∧ minute < 60 ∧ second < 60 ∧ microsecond < 1000000 then
    some ⟨hour, minute, second, microsecond, valid.1, valid.2.1, valid.2.2.1, valid.2.2.2⟩
  else none

/-- Universal time of a year from 1 to 9999. -/
def universal? (date : Date) (time : TimeOfDay) : Option DateTime :=
  if range : 1 ≤ date.year ∧ date.year ≤ 9999 then
    some ⟨date, time, some 0, range, by rintro shift ⟨⟩; decide⟩
  else none

/-- Reads `YYYY-MM-DD` at the start of a text. -/
def date? (text : List Char) : Option (Date × List Char) := do
  let (year, text) ← number? 4 text
  let (month, text) ← marked? '-' 2 text
  let (day, text) ← marked? '-' 2 text
  return (← validDate? year month day, text)

/-- Reads `Thh:mm:ss` at the start of a text. -/
def clock? (text : List Char) : Option ((Nat × Nat × Nat) × List Char) := do
  let (hour, text) ← marked? 'T' 2 text
  let (minute, text) ← marked? ':' 2 text
  let (second, text) ← marked? ':' 2 text
  return ((hour, minute, second), text)

/-- Reads a text of exactly the shape `YYYY-MM-DDThh:mm:ss.mmmZ`. -/
def read? (text : List Char) : Option DateTime := do
  let (date, text) ← date? text
  let ((hour, minute, second), text) ← clock? text
  let (millisecond, text) ← marked? '.' 3 text
  let time ← validTime? hour minute second (millisecond * 1000)
  if text = ['Z'] then universal? date time else none

theorem number?_padded {width number : Nat} (rest : List Char) (positive : 0 < width)
    (fits : number < 10 ^ width) :
    number? width (padded width number ++ rest) = some (number, rest) := by
  have length := length_padded positive fits
  have run : (padded width number ++ rest).take width = padded width number :=
    List.take_left' length
  have after : (padded width number ++ rest).drop width = rest := List.drop_left' length
  have allDigits : (padded width number).all Char.isDigit = true :=
    List.all_eq_true.mpr fun _ member => isDigit_of_mem_padded member
  simp [number?, run, after, length, allDigits, ofDigits_padded]

theorem marked?_padded {width number : Nat} (mark : Char) (rest : List Char) (positive : 0 < width)
    (fits : number < 10 ^ width) :
    marked? mark width (mark :: (padded width number ++ rest)) = some (number, rest) := by
  rw [marked?, if_pos rfl, number?_padded rest positive fits]

theorem day_le (date : Date) : date.day ≤ 31 := by
  have range := date.day_range.2
  have longest : ∀ length ∈ monthLengths date.year, length ≤ 31 := by
    intro length member
    cases leap : isLeapYear date.year <;> simp [monthLengths, leap] at member <;> omega
  rw [daysInMonth, List.getD_eq_getElem?_getD] at range
  cases found : (monthLengths date.year)[date.month - 1]? with
  | none => simp [found] at range; omega
  | some length =>
    have bound := longest length (List.mem_of_getElem? found)
    simp [found] at range
    omega

theorem year_lt {year : Int} (range : year ≤ 9999) : year.toNat < 10 ^ 4 := by omega

theorem month_lt (date : Date) : date.month < 10 ^ 2 := by
  have range := date.month_range
  omega

theorem day_lt (date : Date) : date.day < 10 ^ 2 := by
  have range := day_le date
  omega

theorem hour_lt (time : TimeOfDay) : time.hour < 10 ^ 2 := by
  have range := time.hour_range
  omega

theorem minute_lt (time : TimeOfDay) : time.minute < 10 ^ 2 := by
  have range := time.minute_range
  omega

theorem second_lt (time : TimeOfDay) : time.second < 10 ^ 2 := by
  have range := time.second_range
  omega

theorem millisecond_lt (time : TimeOfDay) : time.microsecond / 1000 < 10 ^ 3 := by
  have range := time.microsecond_range
  omega

theorem validDate?_fields (date : Date) (started : 0 ≤ date.year) :
    validDate? date.year.toNat date.month date.day = some date := by
  obtain ⟨year, month, day, monthRange, dayRange⟩ := date
  obtain ⟨count, rfl⟩ := Int.eq_ofNat_of_zero_le started
  simp [validDate?, monthRange, dayRange]

theorem date?_written (date : Date) (rest : List Char) (range : 1 ≤ date.year ∧ date.year ≤ 9999) :
    date? (padded 4 date.year.toNat ++ (Instant.monthDayText date ++ rest)) = some (date, rest) := by
  simp only [date?, Instant.monthDayText, List.cons_append, List.append_assoc,
    number?_padded _ (by decide : 0 < 4) (year_lt range.2),
    marked?_padded _ _ (by decide : 0 < 2) (month_lt date),
    marked?_padded _ _ (by decide : 0 < 2) (day_lt date), validDate?_fields date (by omega),
    Option.bind_eq_bind, Option.bind_some]
  rfl

theorem clock?_written (time : TimeOfDay) (rest : List Char) :
    clock? ('T' :: (Instant.clockText time ++ rest)) =
      some ((time.hour, time.minute, time.second), rest) := by
  simp only [clock?, Instant.clockText, List.cons_append, List.append_assoc,
    marked?_padded _ _ (by decide : 0 < 2) (hour_lt time),
    marked?_padded _ _ (by decide : 0 < 2) (minute_lt time),
    marked?_padded _ _ (by decide : 0 < 2) (second_lt time), Option.bind_eq_bind, Option.bind_some]
  rfl

/-- The time of day cut off at the millisecond. -/
def toMillisecond (time : TimeOfDay) : TimeOfDay :=
  { time with
    microsecond := time.microsecond / 1000 * 1000
    microsecond_range := by have range := time.microsecond_range; omega }

theorem validTime?_fields (time : TimeOfDay) :
    validTime? time.hour time.minute time.second (time.microsecond / 1000 * 1000) =
      some (toMillisecond time) :=
  dif_pos ⟨time.hour_range, time.minute_range, time.second_range, (toMillisecond time).microsecond_range⟩

/-- What the timestamp of an instant shows. -/
def shown (instant : Instant) (inRange : instant.InRange) : DateTime :=
  { date := instant.date
    time := toMillisecond instant.timeOfDay
    offset := some 0
    year_range := inRange
    offset_range := by rintro shift ⟨⟩; decide }

/-- The reader takes a timestamp apart into the very fields that it was written from. -/
theorem read?_millisecondText (instant : Instant) (inRange : instant.InRange) :
    read? instant.millisecondText = some (shown instant inRange) := by
  have universal : universal? instant.date (toMillisecond instant.timeOfDay) =
      some (shown instant inRange) := dif_pos inRange
  simp only [read?, Instant.millisecondText, List.append_assoc, List.cons_append,
    date?_written _ _ inRange, clock?_written,
    marked?_padded _ _ (by decide : 0 < 3) (millisecond_lt instant.timeOfDay),
    validTime?_fields, Option.bind_eq_bind, Option.bind_some, ↓reduceIte, universal]

theorem dayNumber_date (instant : Int) :
    (Instant.date instant).dayNumber = instant / 86400000000 :=
  Date.dayNumber_ofDayNumber _

theorem count_timeOfDay (instant : Int) :
    (Instant.timeOfDay instant).count = (instant % 86400000000).toNat :=
  TimeOfDay.count_ofCount _ _

/-- What is shown is the instant without the microseconds of its millisecond. -/
theorem elapsed_shown (instant : Int) (inRange : Instant.InRange instant) :
    (shown instant inRange).elapsed = 1000 * (instant / 1000) := by
  have cut : (toMillisecond (Instant.timeOfDay instant)).count =
      1000 * ((Instant.timeOfDay instant).count / 1000) := by
    simp only [toMillisecond, TimeOfDay.count]
    omega
  have parts : (shown instant inRange).instant = ((Instant.date instant).dayNumber * 86400000000 +
      (toMillisecond (Instant.timeOfDay instant)).count : Int) := Int.sub_zero _
  rw [← DateTime.instant_eq_elapsed, parts, dayNumber_date, cut, count_timeOfDay]
  omega

theorem shown_beginsMillisecondOf (moment : DateTime) (inRange : moment.instant.InRange) :
    (shown moment.instant inRange).BeginsMillisecondOf moment := by
  refine ⟨rfl, ?_⟩
  rw [elapsed_shown, DateTime.instant_eq_elapsed]

theorem length_millisecondText (instant : Instant) (inRange : instant.InRange) :
    instant.millisecondText.length = 24 := by
  simp only [Instant.millisecondText, Instant.monthDayText, Instant.clockText, List.length_append,
    List.length_cons, List.length_nil, length_padded (by decide : 0 < 4) (year_lt inRange.2),
    length_padded (by decide : 0 < 2) (month_lt instant.date),
    length_padded (by decide : 0 < 2) (day_lt instant.date),
    length_padded (by decide : 0 < 2) (hour_lt instant.timeOfDay),
    length_padded (by decide : 0 < 2) (minute_lt instant.timeOfDay),
    length_padded (by decide : 0 < 2) (second_lt instant.timeOfDay),
    length_padded (by decide : 0 < 3) (millisecond_lt instant.timeOfDay)]

theorem inRange_instant_iff (moment : DateTime) :
    moment.instant.InRange ↔ moment.IsNameable := by
  rw [DateTime.instant_eq_elapsed]
  exact Instant.inRange_iff moment.elapsed

theorem timestamp_of_inRange (moment : DateTime) (inRange : moment.instant.InRange) :
    (Value.time moment).timestamp = .ok (some (String.ofList moment.instant.millisecondText)) := by
  have text : moment.utcText? = some (String.ofList moment.instant.millisecondText) := if_pos inRange
  unfold Value.timestamp
  simp only [text]

theorem timestamp_of_not_inRange (moment : DateTime) (outside : ¬ moment.instant.InRange) :
    (Value.time moment).timestamp = .error .dateOutOfRange := by
  have text : moment.utcText? = none := if_neg outside
  unfold Value.timestamp
  simp only [text]

/-- Null has no timestamp, a nameable time its own, and nothing else goes without an error. -/
theorem timestamp_eq_ok_iff (value : Value) (stamp : Option String) :
    value.timestamp = .ok stamp ↔ (value = .null ∧ stamp = none) ∨
      ∃ moment, value = .time moment ∧ moment.instant.InRange ∧
        stamp = some (String.ofList moment.instant.millisecondText) := by
  constructor
  · intro written
    cases value with
    | null => exact .inl ⟨rfl, (Except.ok.inj written).symm⟩
    | time moment =>
      by_cases inRange : moment.instant.InRange
      · rw [timestamp_of_inRange moment inRange] at written
        exact .inr ⟨moment, rfl, inRange, (Except.ok.inj written).symm⟩
      · rw [timestamp_of_not_inRange moment inRange] at written
        cases written
    | _ => cases written
  · rintro (⟨rfl, rfl⟩ | ⟨moment, rfl, inRange, rfl⟩)
    · rfl
    · exact timestamp_of_inRange moment inRange

/-- A time has no timestamp where it is not nameable, and what is neither null nor a time is none. -/
theorem timestamp_eq_error_iff (value : Value) (error : Error) :
    value.timestamp = .error error ↔
      (∃ moment, value = .time moment ∧ ¬ moment.IsNameable ∧ error = .dateOutOfRange) ∨
        (value.kind ≠ .null ∧ value.kind ≠ .time ∧ error = .noAttribute value.kind "tzinfo") := by
  constructor
  · intro fault
    cases value with
    | null => cases fault
    | time moment =>
      by_cases inRange : moment.instant.InRange
      · rw [timestamp_of_inRange moment inRange] at fault
        cases fault
      · rw [timestamp_of_not_inRange moment inRange] at fault
        exact .inl ⟨moment, rfl, mt (inRange_instant_iff moment).mpr inRange,
          (Except.error.inj fault).symm⟩
    | _ => exact .inr ⟨nofun, nofun, (Except.error.inj fault).symm⟩
  · rintro (⟨moment, rfl, outside, rfl⟩ | ⟨specified, untimed, rfl⟩)
    · exact timestamp_of_not_inRange moment (mt (inRange_instant_iff moment).mp outside)
    · cases value with
      | null => exact absurd rfl specified
      | time moment => exact absurd rfl untimed
      | _ => rfl

/-- The text depends on nothing below the millisecond. -/
theorem millisecondText_congr {left right : Int} (same : left / 1000 = right / 1000) :
    Instant.millisecondText left = Instant.millisecondText right := by
  have day : left / 86400000000 = right / 86400000000 := by omega
  have date : Instant.date left = Instant.date right := congrArg Date.ofDayNumber day
  have count : (left % 86400000000).toNat / 1000 = (right % 86400000000).toNat / 1000 := by omega
  have hour : (Instant.timeOfDay left).hour = (Instant.timeOfDay right).hour := by
    simp only [Instant.timeOfDay, TimeOfDay.ofCount, TimeOfDay.microsecondsPerDay, Nat.cast_ofNat]
    omega
  have minute : (Instant.timeOfDay left).minute = (Instant.timeOfDay right).minute := by
    simp only [Instant.timeOfDay, TimeOfDay.ofCount, TimeOfDay.microsecondsPerDay, Nat.cast_ofNat]
    omega
  have seconds : (Instant.timeOfDay left).second = (Instant.timeOfDay right).second := by
    simp only [Instant.timeOfDay, TimeOfDay.ofCount, TimeOfDay.microsecondsPerDay, Nat.cast_ofNat]
    omega
  have millisecond : (Instant.timeOfDay left).microsecond / 1000 =
      (Instant.timeOfDay right).microsecond / 1000 := by
    simp only [Instant.timeOfDay, TimeOfDay.ofCount, TimeOfDay.microsecondsPerDay, Nat.cast_ofNat]
    omega
  simp only [Instant.millisecondText, Instant.clockText, date, hour, minute, seconds, millisecond]

/-- A time whose universal time lies in the years 1 to 9999 has a timestamp of 24 characters that
names the millisecond in which it lies; every other time is refused as out of range. -/
theorem timestamp_names_millisecond (moment : DateTime) :
    (moment.IsNameable ∧ ∃ written stamp, (Value.time moment).timestamp = .ok (some written) ∧
      written.length = 24 ∧ read? written.toList = some stamp ∧ stamp.BeginsMillisecondOf moment) ∨
    (¬ moment.IsNameable ∧ (Value.time moment).timestamp = .error .dateOutOfRange ∧
      Error.dateOutOfRange.errorClass = .overflow) := by
  have nameable := inRange_instant_iff moment
  by_cases inRange : moment.instant.InRange
  · left
    refine ⟨nameable.mp inRange, String.ofList moment.instant.millisecondText,
      shown moment.instant inRange, timestamp_of_inRange moment inRange, ?_, ?_, ?_⟩
    · rw [String.length_ofList]
      exact length_millisecondText moment.instant inRange
    · rw [String.toList_ofList]
      exact read?_millisecondText moment.instant inRange
    · exact shown_beginsMillisecondOf moment inRange
  · right
    exact ⟨mt nameable.mpr inRange, timestamp_of_not_inRange moment inRange, rfl⟩

end Timestamp

end KeyProtection
