import Mathlib.Data.String.Basic
import KeyProtection.Proofs.Timestamp

/-! The order of timestamps. All parts of a timestamp have a fixed width and stand in the order of
their weight, so the texts are in the order of the milliseconds that they name. -/

namespace KeyProtection

namespace Timestamp

/-- Whole seconds from midnight. -/
def secondOfDay (time : TimeOfDay) : Nat := (time.hour * 60 + time.minute) * 60 + time.second

theorem secondOfDay_lt (time : TimeOfDay) : secondOfDay time < 86400 := by
  have hour := time.hour_range
  have minute := time.minute_range
  have second := time.second_range
  simp only [secondOfDay]
  omega

/-- Texts that begin with dates are in the order of the dates; between texts of one date the rest
decides. -/
theorem dateText_append_lt {left right : Date} {rest more : List Char}
    (leftRange : 1 ≤ left.year ∧ left.year ≤ 9999) (rightRange : 1 ≤ right.year ∧ right.year ≤ 9999)
    (order : left.dayNumber < right.dayNumber ∨ left.dayNumber = right.dayNumber ∧ rest < more) :
    padded 4 left.year.toNat ++ (Instant.monthDayText left ++ rest) <
      padded 4 right.year.toNat ++ (Instant.monthDayText right ++ more) := by
  rcases order with earlier | ⟨same, later⟩
  · simp only [Instant.monthDayText, List.cons_append, List.append_assoc]
    apply padded_append_lt (by decide) (year_lt rightRange.2)
    rcases Date.precedes_of_dayNumber_lt earlier with year | ⟨year, month⟩
    · exact .inl (by omega)
    · refine .inr ⟨congrArg Int.toNat year, List.cons_lt_cons_self.mpr ?_⟩
      apply padded_append_lt (by decide) (month_lt right)
      rcases month with month | ⟨month, day⟩
      · exact .inl month
      · refine .inr ⟨month, List.cons_lt_cons_self.mpr ?_⟩
        exact padded_append_lt (by decide) (day_lt right) (.inl day)
  · rw [Date.eq_of_dayNumber_eq same]
    exact List.append_left_lt (List.append_left_lt later)

theorem clockText_append_lt {left right : TimeOfDay} {rest more : List Char}
    (order : secondOfDay left < secondOfDay right ∨
      secondOfDay left = secondOfDay right ∧ rest < more) :
    Instant.clockText left ++ rest < Instant.clockText right ++ more := by
  have leftMinute := left.minute_range
  have leftSecond := left.second_range
  have rightMinute := right.minute_range
  have rightSecond := right.second_range
  simp only [secondOfDay] at order
  simp only [Instant.clockText, List.cons_append, List.append_assoc]
  apply padded_append_lt (by decide) (hour_lt right)
  by_cases hour : left.hour < right.hour
  · exact .inl hour
  · refine .inr ⟨by omega, List.cons_lt_cons_self.mpr ?_⟩
    apply padded_append_lt (by decide) (minute_lt right)
    by_cases minute : left.minute < right.minute
    · exact .inl minute
    · refine .inr ⟨by omega, List.cons_lt_cons_self.mpr ?_⟩
      apply padded_append_lt (by decide) (second_lt right)
      rcases order with earlier | ⟨same, later⟩
      · exact .inl (by omega)
      · exact .inr ⟨by omega, later⟩

/-- An instant is counted in days, seconds of the day and microseconds of the second. -/
theorem instant_eq_parts (instant : Int) :
    instant = ((Instant.date instant).dayNumber * 86400 + secondOfDay (Instant.timeOfDay instant)) *
      1000000 + (Instant.timeOfDay instant).microsecond := by
  have time := count_timeOfDay instant
  simp only [TimeOfDay.count] at time
  rw [dayNumber_date, secondOfDay]
  omega

/-- Universal time to the second, with which every text of an instant begins. -/
def dateAndClock (instant : Int) : List Char :=
  padded 4 (Instant.date instant).year.toNat ++ (Instant.monthDayText (Instant.date instant) ++
    'T' :: Instant.clockText (Instant.timeOfDay instant))

theorem millisecondText_eq (instant : Int) :
    Instant.millisecondText instant = dateAndClock instant ++
      '.' :: (padded 3 ((Instant.timeOfDay instant).microsecond / 1000) ++ ['Z']) := by
  simp only [Instant.millisecondText, dateAndClock, List.cons_append, List.append_assoc]

/-- Texts of instants in different seconds are in the order of the seconds; between texts of one second
the rest decides. -/
theorem dateAndClock_append_lt {left right : Int} {rest more : List Char}
    (leftRange : Instant.InRange left) (rightRange : Instant.InRange right)
    (order : left / 1000000 < right / 1000000 ∨ left / 1000000 = right / 1000000 ∧ rest < more) :
    dateAndClock left ++ rest < dateAndClock right ++ more := by
  have leftParts := instant_eq_parts left
  have rightParts := instant_eq_parts right
  have leftSecond := secondOfDay_lt (Instant.timeOfDay left)
  have rightSecond := secondOfDay_lt (Instant.timeOfDay right)
  have leftMicrosecond := (Instant.timeOfDay left).microsecond_range
  have rightMicrosecond := (Instant.timeOfDay right).microsecond_range
  simp only [dateAndClock, List.cons_append, List.append_assoc]
  apply dateText_append_lt leftRange rightRange
  by_cases day : (Instant.date left).dayNumber < (Instant.date right).dayNumber
  · exact .inl day
  · refine .inr ⟨by omega, List.cons_lt_cons_self.mpr ?_⟩
    apply clockText_append_lt
    rcases order with earlier | ⟨same, later⟩
    · exact .inl (by omega)
    · exact .inr ⟨by omega, later⟩

/-- Of two instants in different milliseconds the earlier one has the smaller timestamp. -/
theorem millisecondText_lt {left right : Int} (leftRange : Instant.InRange left)
    (rightRange : Instant.InRange right) (order : left / 1000 < right / 1000) :
    Instant.millisecondText left < Instant.millisecondText right := by
  have leftParts := instant_eq_parts left
  have rightParts := instant_eq_parts right
  have leftMicrosecond := (Instant.timeOfDay left).microsecond_range
  have rightMicrosecond := (Instant.timeOfDay right).microsecond_range
  rw [millisecondText_eq, millisecondText_eq]
  apply dateAndClock_append_lt leftRange rightRange
  by_cases second : left / 1000000 < right / 1000000
  · exact .inl second
  · refine .inr ⟨by omega, List.cons_lt_cons_self.mpr ?_⟩
    exact padded_append_lt (by decide) (millisecond_lt _) (.inl (by omega))

theorem ofList_millisecondText_lt {left right : Int} (leftRange : Instant.InRange left)
    (rightRange : Instant.InRange right) (order : left / 1000 < right / 1000) :
    String.ofList (Instant.millisecondText left) < String.ofList (Instant.millisecondText right) := by
  rw [String.lt_iff_toList_lt, String.toList_ofList, String.toList_ofList]
  exact millisecondText_lt leftRange rightRange order

/-- The text of a time that has one is that of its instant, which is in range. -/
theorem eq_millisecondText_of_timestamp {moment : DateTime} {written : String}
    (stamped : (Value.time moment).timestamp = .ok (some written)) :
    moment.instant.InRange ∧ written = String.ofList moment.instant.millisecondText := by
  rcases (timestamp_eq_ok_iff _ _).mp stamped with ⟨other, _⟩ | ⟨same, found, inRange, shown⟩
  · cases other
  · obtain rfl := Value.time.inj found
    exact ⟨inRange, Option.some.inj shown⟩

/-- Timestamps compare, code point by code point, as the milliseconds of universal time in which
their times lie; so they are equal exactly for times of one millisecond. -/
theorem compare_timestamps {left right : DateTime} {first second : String}
    (stamped : (Value.time left).timestamp = .ok (some first))
    (stampedToo : (Value.time right).timestamp = .ok (some second)) :
    compare first second = compare (left.elapsed / 1000) (right.elapsed / 1000) ∧
      (first = second ↔ left.elapsed / 1000 = right.elapsed / 1000) := by
  obtain ⟨leftRange, rfl⟩ := eq_millisecondText_of_timestamp stamped
  obtain ⟨rightRange, rfl⟩ := eq_millisecondText_of_timestamp stampedToo
  rw [← DateTime.instant_eq_elapsed, ← DateTime.instant_eq_elapsed]
  rcases lt_trichotomy (left.instant / 1000) (right.instant / 1000) with earlier | same | later
  · have texts := ofList_millisecondText_lt leftRange rightRange earlier
    exact ⟨(compare_lt_iff_lt.mpr texts).trans (compare_lt_iff_lt.mpr earlier).symm,
      iff_of_false texts.ne earlier.ne⟩
  · have texts := congrArg String.ofList (millisecondText_congr same)
    exact ⟨(compare_eq_iff_eq.mpr texts).trans (compare_eq_iff_eq.mpr same).symm,
      iff_of_true texts same⟩
  · have texts := ofList_millisecondText_lt rightRange leftRange later
    exact ⟨(compare_gt_iff_gt.mpr texts).trans (compare_gt_iff_gt.mpr later).symm,
      iff_of_false texts.ne' later.ne'⟩

/-- A time without an offset, just before the year 1000, has a smaller timestamp than one with an
offset just after it. -/
theorem compare_timestamps_year_1000 :
    let left : DateTime :=
      { date := ⟨999, 12, 31, by decide, by decide⟩
        time := ⟨23, 59, 59, 999999, by decide, by decide, by decide, by decide⟩
        offset := none
        year_range := by decide
        offset_range := by simp }
    let right : DateTime :=
      { date := ⟨1000, 1, 1, by decide, by decide⟩
        time := ⟨1, 30, 0, 0, by decide, by decide, by decide, by decide⟩
        offset := some 5400000000
        year_range := by decide
        offset_range := by decide }
    ∃ first second, (Value.time left).timestamp = .ok (some first) ∧
      (Value.time right).timestamp = .ok (some second) ∧ compare first second = .lt ∧
      first ≠ second := by
  intro left right
  have stamped := timestamp_of_inRange left (by decide)
  have stampedToo := timestamp_of_inRange right (by decide)
  obtain ⟨order, same⟩ := compare_timestamps stamped stampedToo
  rw [← DateTime.instant_eq_elapsed, ← DateTime.instant_eq_elapsed] at order same
  exact ⟨_, _, stamped, stampedToo, order.trans (by decide), mt same.mp (by decide)⟩

end Timestamp

end KeyProtection
