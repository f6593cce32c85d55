import Subscription.Calendar.Timestamp

/-!
# The date on a clock

A timestamp is kept in universal time. So the date that a clock shows is moved to universal time
when the timestamp is made, and moved back when the date is asked for; either may cross the end of a
day, and with it that of a month, of a February or of a year. The moves undo each other because the
day after and the day before do (`Date.previous_next`, `Date.next_previous`): the date is again the
one that the clock showed (`Timestamp.date_ofClock`). The point in time that is kept in between is
the one that the clock means (`Timestamp.unixSeconds_ofClock`).
-/

namespace Subscription

namespace Date

/-! ### From day to day and back -/

/-- The day before the next one is the day itself. -/
@[simp]
theorem previous_next (date : Date) : date.next.previous = date := by
  have first := date.valid.2.2.1
  have last := date.valid.2.2.2
  unfold next
  split
  · next inside =>
    have later : 1 < date.day + 1 := by omega
    ext <;> simp [previous, later]
  · next atEnd =>
    have whole : date.day = daysInMonth date.year date.month := by omega
    have month := date.valid.1
    split
    · next inYear =>
      have later : 1 < date.month + 1 := by omega
      ext <;> simp [previous, later, whole]
    · next december =>
      have twelve : date.month = 12 := by
        have := date.valid.2.1
        omega
      rw [twelve, daysInMonth_twelve] at whole
      ext <;> simp [previous, twelve, whole]

/-- The day after the one before is the day itself. -/
@[simp]
theorem next_previous (date : Date) : date.previous.next = date := by
  have first := date.valid.2.2.1
  have last := date.valid.2.2.2
  unfold previous
  split
  · next inside =>
    have earlier : date.day - 1 < daysInMonth date.year date.month := by omega
    have back : date.day - 1 + 1 = date.day := by omega
    ext <;> simp [next, earlier, back]
  · next atBegin =>
    have one : date.day = 1 := by omega
    have month := date.valid.1
    split
    · next inYear =>
      have earlier : date.month - 1 < 12 := by
        have := date.valid.2.1
        omega
      have back : date.month - 1 + 1 = date.month := by omega
      ext <;> simp [next, earlier, back, one]
    · next january =>
      have january : date.month = 1 := by omega
      ext <;> simp [next, daysInMonth_twelve, january, one]

/-! ### Counting days -/

/-- A year has 365 days, and one more if it is a leap year. -/
theorem daysBeforeYear_succ (year : Int) :
    daysBeforeYear (year + 1) = daysBeforeYear year + 365 + if isLeapYear year then 1 else 0 := by
  simp only [daysBeforeYear, isLeapYear, Bool.or_eq_true, Bool.and_eq_true, beq_iff_eq, bne_iff_ne]
  split <;> omega

/-- The next day has the next number, also where a month or a year ends. -/
theorem dayNumber_next (date : Date) : date.next.dayNumber = date.dayNumber + 1 := by
  have first := date.valid.2.2.1
  have last := date.valid.2.2.2
  unfold next
  split
  · simp only [dayNumber]
    omega
  · next atEnd =>
    split
    · next inYear =>
      have month := daysInMonth_pos date.year date.valid.1 (Nat.le_of_lt inYear)
      simp only [daysInMonth] at atEnd last month
      simp only [dayNumber]
      omega
    · next december =>
      have twelve : date.month = 12 := by
        have := date.valid.2.1
        omega
      rw [twelve, daysInMonth_twelve] at atEnd last
      simp only [dayNumber, daysBeforeYear_succ, twelve, daysBeforeMonth]
      split <;> omega

/-- The day before has the number before, also where a month or a year begins. -/
theorem dayNumber_previous (date : Date) : date.previous.dayNumber = date.dayNumber - 1 := by
  have after := dayNumber_next date.previous
  rw [next_previous] at after
  omega

/-! ### The second of a day -/

variable {second : Int}

/-- A second before midnight belongs to the day before. -/
theorem ofSecond_of_neg (date : Date) (h : second < 0) : date.ofSecond second = date.previous :=
  if_pos h

theorem ofSecond_of_lt (date : Date) (h : 0 ≤ second) (small : second < secondsPerDay) :
    date.ofSecond second = date := by
  rw [ofSecond, if_neg (Int.not_lt.2 h), if_pos small]

/-- A second behind the end of the day belongs to the next one. -/
theorem ofSecond_of_le (date : Date) (h : (secondsPerDay : Int) ≤ second) :
    date.ofSecond second = date.next := by
  have pos : (0 : Int) ≤ secondsPerDay := by decide
  rw [ofSecond, if_neg (Int.not_lt.2 (Int.le_trans pos h)), if_neg (Int.not_lt.2 h)]

end Date

namespace Timestamp

variable (date : Date) (time : TimeOfDay) {offset : Int}

/-- Taking a clock to universal time crosses the end of a day at most once, and then the second of
the day is a day's length off. -/
theorem ofClock_cases (near : offset.natAbs < secondsPerDay) :
    let timestamp := ofClock date time offset near
    (timestamp.utcDate = date.previous ∧
      (timestamp.utcTime.second : Int) = time.second - offset + secondsPerDay) ∨
    (timestamp.utcDate = date ∧ (timestamp.utcTime.second : Int) = time.second - offset) ∨
    (timestamp.utcDate = date.next ∧
      (timestamp.utcTime.second : Int) = time.second - offset - secondsPerDay) := by
  intro timestamp
  have inDay := time.second_lt
  have second : (timestamp.utcTime.second : Int) =
      (((time.second + -offset) % secondsPerDay).toNat : Int) := rfl
  rw [second]
  unfold secondsPerDay at *
  rcases Int.lt_or_le (time.second - offset) 0 with before | started
  · refine .inl ⟨date.ofSecond_of_neg before, by omega⟩
  · rcases Int.lt_or_le (time.second - offset) 86400 with same | after
    · exact .inr (.inl ⟨date.ofSecond_of_lt started same, by omega⟩)
    · exact .inr (.inr ⟨date.ofSecond_of_le after, by omega⟩)

/-- **The clock shows the date that it showed.** -/
@[simp]
theorem date_ofClock (near : offset.natAbs < secondsPerDay) :
    (ofClock date time offset near).date = date := by
  have inDay := time.second_lt
  have same : (ofClock date time offset near).offset = offset := rfl
  rw [Timestamp.date, same]
  rcases ofClock_cases date time near with ⟨day, second⟩ | ⟨day, second⟩ | ⟨day, second⟩
  · rw [day, second, Date.ofSecond_of_le _ (by omega), Date.next_previous]
  · rw [day, second, Date.ofSecond_of_lt _ (by omega) (by omega)]
  · rw [day, second, Date.ofSecond_of_neg _ (by omega), Date.previous_next]

/-- The point in time is the one that the clock shows, less what the clock is ahead. -/
theorem unixSeconds_ofClock (near : offset.natAbs < secondsPerDay) :
    (ofClock date time offset near).unixSeconds =
      date.dayNumber * secondsPerDay + time.second - offset := by
  rw [unixSeconds]
  unfold secondsPerDay at *
  rcases ofClock_cases date time near with ⟨day, second⟩ | ⟨day, second⟩ | ⟨day, second⟩
  · rw [day, second, Date.dayNumber_previous, secondsPerDay]
    omega
  · rw [day, second]
    omega
  · rw [day, second, Date.dayNumber_next, secondsPerDay]
    omega

end Timestamp

end Subscription
