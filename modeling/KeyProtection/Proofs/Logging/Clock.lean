import KeyProtection.Proofs.Logging.Line
import KeyProtection.Proofs.Timestamp.Order

/-! Times of log lines. The line of a record gives the second that the clock shows, in the same calendar
as timestamps and up to the milliseconds in the same form, so that later lines have greater times. -/

namespace KeyProtection

namespace Timestamp

/-- Reads a text of exactly the shape `YYYY-MM-DDThh:mm:ssZ`. -/
def readSecond? (text : List Char) : Option DateTime := do
  let (date, text) ← date? text
  let ((hour, minute, second), text) ← clock? text
  let time ← validTime? hour minute second 0
  if text = ['Z'] then universal? date time else none

/-- A year of four digits is written alike with and without a width. -/
theorem secondText_eq {instant : Int} (fourDigits : 1000 ≤ (Instant.date instant).year) :
    Instant.secondText instant = dateAndClock instant ++ ['Z'] := by
  obtain ⟨year, same⟩ := Int.eq_ofNat_of_zero_le (Int.le_trans (by decide) fourDigits)
  have text : integerText (Instant.date instant).year = padded 4 (Instant.date instant).year.toNat := by
    rw [same] at fourDigits ⊢
    exact (padded_of_le (Int.ofNat_le.mp fourDigits)).symm
  simp only [Instant.secondText, dateAndClock, text, List.cons_append, List.append_assoc]

theorem readSecond?_dateAndClock (instant : Instant) (inRange : instant.InRange)
    (whole : instant.timeOfDay.microsecond = 0) :
    readSecond? (dateAndClock instant ++ ['Z']) = some (shown instant inRange) := by
  have time := validTime?_fields instant.timeOfDay
  rw [whole] at time
  have universal : universal? instant.date (toMillisecond instant.timeOfDay) =
      some (shown instant inRange) := dif_pos inRange
  simp only [readSecond?, dateAndClock, List.append_assoc, List.cons_append, date?_written _ _ inRange,
    clock?_written, time, Option.bind_eq_bind, Option.bind_some, ↓reduceIte, universal]

theorem length_dateAndClock (instant : Instant) (inRange : instant.InRange) :
    (dateAndClock instant).length = 19 := by
  have length := length_millisecondText instant inRange
  rw [millisecondText_eq] at length
  simp only [List.length_append, List.length_cons, List.length_nil,
    length_padded (by decide : 0 < 3) (millisecond_lt _)] at length
  omega

end Timestamp

namespace Logging.Record

open Json Timestamp

/-- The clock values from the start of 1970 to the end of the year 9999. -/
def IsClock (seconds : Int) : Prop :=
  0 ≤ seconds ∧ seconds * 1000000 ≤ DateTime.latest.elapsed

/-- The text that a line gives as its time. -/
def stamp? (line : String) : Option String :=
  let opening := ['\x7b', '"', 't', 's', '"', ':', ' ', '"']
  if line.toList.take opening.length = opening then
    some (String.ofList ((line.toList.drop opening.length).takeWhile (· != '"')))
  else none

/-- The time of a line ends at its closing quote, since it has none itself. -/
theorem stamp?_line (record : Record) (seconds : Int) :
    stamp? (record.line seconds) = some (String.ofList (instant seconds).secondText) := by
  have unquoted : ∀ char ∈ (instant seconds).secondText, (char != '"') = true := by
    intro char member
    exact bne_iff_ne.mpr (arePlain_secondText seconds char member).1
  simp [stamp?, toList_line, opening, nextMember, List.takeWhile_append_of_pos unquoted]

theorem year_of_isClock {seconds : Int} (clock : IsClock seconds) :
    1970 ≤ (Instant.date (instant seconds)).year := by
  have started := clock.1
  have days : Date.daysBeforeYear 1970 = Date.epoch := by decide
  apply (Date.le_yearOfDay_iff 1970 _).mpr
  rw [days, instant, TimeOfDay.microsecondsPerDay]
  omega

theorem inRange_of_isClock {seconds : Int} (clock : IsClock seconds) :
    Instant.InRange (instant seconds) := by
  have started : 0 ≤ instant seconds := Int.mul_nonneg clock.1 (by decide)
  have early : DateTime.earliest.elapsed ≤ 0 := by
    rw [DateTime.elapsed_earliest]
    decide
  exact (Instant.inRange_iff _).mpr ⟨early.trans started, clock.2⟩

theorem isDatable_of_isClock {seconds : Int} (clock : IsClock seconds) : isDatable seconds = true := by
  have inRange := inRange_of_isClock clock
  simp only [Instant.InRange] at inRange
  simp only [isDatable, Bool.and_eq_true, decide_eq_true_eq]
  omega

theorem stamp?_written {seconds : Int} (clock : IsClock seconds) (record : Record) :
    stamp? (record.written seconds) =
      some (String.ofList (dateAndClock (instant seconds) ++ ['Z'])) := by
  have year := year_of_isClock clock
  rw [written_of_isDatable (isDatable_of_isClock clock), stamp?_line, secondText_eq (by omega)]

theorem microsecond_instant (seconds : Int) :
    (Instant.timeOfDay (instant seconds)).microsecond = 0 := by
  simp only [Instant.timeOfDay, TimeOfDay.ofCount, TimeOfDay.microsecondsPerDay, instant]
  omega

/-- Every record that is written while the clock shows a second from 1970 to the year 9999 gives that
second as its time, in 20 characters that a reader of the calendar finds it in again. Any time of that
instant, with an offset or without, has the same text as its timestamp but for its milliseconds, which are
none; and at a later second the text is greater. -/
theorem stamp_of_clock {seconds : Int} (clock : IsClock seconds) :
    ∃ stamp : String, (∀ record : Record, stamp? (record.written seconds) = some stamp) ∧
      stamp.length = 20 ∧
      (∃ moment, readSecond? stamp.toList = some moment ∧ moment.offset = some 0 ∧
        moment.elapsed = seconds * 1000000) ∧
      (∃ front, stamp.toList = front ++ ['Z'] ∧
        ∀ moment : DateTime, moment.elapsed = seconds * 1000000 →
          (Value.time moment).timestamp =
            .ok (some (String.ofList (front ++ ['.', '0', '0', '0', 'Z'])))) ∧
      ∀ later, IsClock later → seconds < later →
        ∃ greater : String, (∀ record : Record, stamp? (record.written later) = some greater) ∧
          stamp < greater := by
  have inRange := inRange_of_isClock clock
  refine ⟨_, stamp?_written clock, ?_, ?_, ⟨dateAndClock (instant seconds), String.toList_ofList, ?_⟩, ?_⟩
  · rw [String.length_ofList, List.length_append, length_dateAndClock _ inRange]
    rfl
  · rw [String.toList_ofList]
    refine ⟨_, readSecond?_dateAndClock _ inRange (microsecond_instant seconds), rfl, ?_⟩
    rw [elapsed_shown, instant]
    omega
  · intro moment same
    have denoted : moment.instant = instant seconds := (DateTime.instant_eq_elapsed moment).trans same
    rw [timestamp_of_inRange moment (denoted ▸ inRange), denoted, millisecondText_eq,
      microsecond_instant]
    rfl
  · intro later laterClock order
    refine ⟨_, stamp?_written laterClock, ?_⟩
    rw [String.lt_iff_toList_lt, String.toList_ofList, String.toList_ofList]
    apply dateAndClock_append_lt inRange (inRange_of_isClock laterClock)
    simp only [instant]
    omega

/-- The first second of a leap day, written with an offset on the day before, and the last second that a
timestamp can name. -/
theorem stamp_of_clock_leap_day :
    let moment : DateTime :=
      { date := ⟨2000, 2, 28, by decide, by decide⟩
        time := ⟨22, 30, 0, 0, by decide, by decide, by decide, by decide⟩
        offset := some (-5400000000)
        year_range := by decide
        offset_range := by decide }
    ∃ stamp greater : String, (∀ record : Record, stamp? (record.written 951782400) = some stamp) ∧
      (∀ record : Record, stamp? (record.written 253402300799) = some greater) ∧ stamp < greater ∧
      ∃ front, stamp.toList = front ++ ['Z'] ∧ (Value.time moment).timestamp =
        .ok (some (String.ofList (front ++ ['.', '0', '0', '0', 'Z']))) := by
  intro moment
  have last := DateTime.elapsed_latest
  have denoted : moment.elapsed = 951782400 * 1000000 :=
    (DateTime.instant_eq_elapsed _).symm.trans (by decide)
  obtain ⟨stamp, written, _, _, ⟨front, whole, timestamps⟩, increasing⟩ :=
    @stamp_of_clock 951782400 ⟨by decide, by omega⟩
  obtain ⟨greater, writtenLater, order⟩ :=
    increasing 253402300799 ⟨by decide, by omega⟩ (by decide)
  exact ⟨stamp, greater, written, writtenLater, order, front, whole, timestamps moment denoted⟩

end Logging.Record

end KeyProtection
