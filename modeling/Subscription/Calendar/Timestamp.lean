import Subscription.Calendar.Date

/-!
# Points in time

A `Timestamp` is a point in time, kept in universal time, and how far the clock that it was written
down by is ahead of that. `Timestamp.ofClock` takes what such a clock shows to universal time, and
`Timestamp.date` is the date that the clock shows, which may be the day before or the day after.
In a leap second the second of the day stays at the last one and the nanoseconds go on beyond a
thousand million.
-/

namespace Subscription

/-- The seconds of a day, leap seconds apart. -/
def secondsPerDay : Nat := 86400

/-- A time of day. -/
structure TimeOfDay where
  /-- The second of the day, counted from midnight. -/
  second : Nat
  nanos : Nat
  second_lt : second < secondsPerDay
  deriving DecidableEq, Repr

/-- The nanoseconds of a second. -/
def nanosPerSecond : Nat := 1000000000

/-- The time of day at an hour, a minute and a second, if there is one. The second 60 is a leap
second. -/
def TimeOfDay.of? (hour minute second nanos : Nat) : Option TimeOfDay :=
  if h : hour ≤ 23 ∧ minute ≤ 59 ∧ second ≤ 60 then
    some { second := hour * 3600 + minute * 60 + min second 59
           nanos := if second = 60 then nanos + nanosPerSecond else nanos
           second_lt := by unfold secondsPerDay; omega }
  else none

/-- The time of day so many seconds later, on whichever day that is. -/
def TimeOfDay.later (time : TimeOfDay) (seconds : Int) : TimeOfDay where
  second := ((time.second + seconds) % secondsPerDay).toNat
  nanos := time.nanos
  second_lt := by unfold secondsPerDay; omega

/-- The nanoseconds of a decimal fraction of a second. Digits behind the ninth do not count. -/
def nanosOfDigits (digits : List Nat) : Nat :=
  let counted := digits.take 9
  counted.foldl (fun value digit => value * 10 + digit) 0 * Nat.pow 10 (9 - counted.length)

/-- The day of a second that is counted from the beginning of a day, if it lies on that day, the day
before or the day after. -/
def Date.ofSecond (date : Date) (second : Int) : Date :=
  if second < 0 then date.previous
  else if second < secondsPerDay then date
  else date.next

/-- A point in time, and the clock that it was written down by. -/
structure Timestamp where
  /-- The date in universal time. -/
  utcDate : Date
  /-- The time of that day. -/
  utcTime : TimeOfDay
  /-- How many seconds the clock is ahead of universal time. -/
  offset : Int
  offset_lt : offset.natAbs < secondsPerDay
  deriving DecidableEq, Repr

namespace Timestamp

/-- The point in time at which a clock shows a date and a time of day. -/
def ofClock (date : Date) (time : TimeOfDay) (offset : Int)
    (offset_lt : offset.natAbs < secondsPerDay) : Timestamp where
  utcDate := date.ofSecond (time.second - offset)
  utcTime := time.later (-offset)
  offset
  offset_lt

/-- The point in time at which a clock in universal time shows a date and a time of day. -/
def universal (date : Date) (time : TimeOfDay) : Timestamp := ofClock date time 0 (by decide)

/-- The date that the clock shows. -/
def date (timestamp : Timestamp) : Date :=
  timestamp.utcDate.ofSecond (timestamp.utcTime.second + timestamp.offset)

/-- The seconds of universal time since the beginning of 1970. -/
def unixSeconds (timestamp : Timestamp) : Int :=
  timestamp.utcDate.dayNumber * secondsPerDay + timestamp.utcTime.second

/-- The nanoseconds within the second. -/
def nanos (timestamp : Timestamp) : Nat := timestamp.utcTime.nanos

end Timestamp

end Subscription
