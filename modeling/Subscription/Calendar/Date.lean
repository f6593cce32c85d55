/-!
# Dates

Days of the Gregorian calendar, reckoned backwards and forwards without end, with the year zero in
front of the year one. `Date.next` and `Date.previous` go from day to day, across the ends of months
and years; `Date.dayNumber` counts days; `Date.text` writes a date in words.
-/

namespace Subscription

/-- Whether a year has a leap day. -/
def isLeapYear (year : Int) : Bool := (year % 4 == 0 && year % 100 != 0) || year % 400 == 0

/-- The number of days in the months of a year that are over when a month begins. -/
def daysBeforeMonth (year : Int) (month : Nat) : Nat :=
  let leap := if isLeapYear year then 1 else 0
  match month with
  | 0 | 1 => 0
  | 2 => 31
  | 3 => 59 + leap
  | 4 => 90 + leap
  | 5 => 120 + leap
  | 6 => 151 + leap
  | 7 => 181 + leap
  | 8 => 212 + leap
  | 9 => 243 + leap
  | 10 => 273 + leap
  | 11 => 304 + leap
  | 12 => 334 + leap
  | _ => 365 + leap

/-- The number of days in a month. -/
def daysInMonth (year : Int) (month : Nat) : Nat :=
  daysBeforeMonth year (month + 1) - daysBeforeMonth year month

/-- Every month has days. -/
theorem daysInMonth_pos (year : Int) {month : Nat} (first : 1 ≤ month) (last : month ≤ 12) :
    1 ≤ daysInMonth year month := by
  obtain rfl | rfl | rfl | rfl | rfl | rfl | rfl | rfl | rfl | rfl | rfl | rfl : month = 1 ∨
      month = 2 ∨ month = 3 ∨ month = 4 ∨ month = 5 ∨ month = 6 ∨ month = 7 ∨ month = 8 ∨
      month = 9 ∨ month = 10 ∨ month = 11 ∨ month = 12 := by omega
  all_goals
    simp only [daysInMonth, daysBeforeMonth]
    omega

/-- December has 31 days. -/
theorem daysInMonth_twelve (year : Int) : daysInMonth year 12 = 31 := by
  simp only [daysInMonth, daysBeforeMonth]
  omega

/-- Whether there is such a day. -/
def Date.Valid (year : Int) (month day : Nat) : Prop :=
  1 ≤ month ∧ month ≤ 12 ∧ 1 ≤ day ∧ day ≤ daysInMonth year month

instance (year : Int) (month day : Nat) : Decidable (Date.Valid year month day) :=
  inferInstanceAs (Decidable (_ ∧ _))

/-- A day of the calendar. -/
@[ext]
structure Date where
  year : Int
  month : Nat
  day : Nat
  valid : Date.Valid year month day
  deriving DecidableEq, Repr

namespace Date

/-- The day with this year, month and day of the month, if there is one. -/
def of? (year : Int) (month day : Nat) : Option Date :=
  if h : Valid year month day then some ⟨year, month, day, h⟩ else none

/-! ### From day to day -/

/-- The day after. -/
def next (date : Date) : Date :=
  if h : date.day < daysInMonth date.year date.month then
    { year := date.year, month := date.month, day := date.day + 1,
      valid := ⟨date.valid.1, date.valid.2.1, Nat.le_add_left .., h⟩ }
  else if h : date.month < 12 then
    { year := date.year, month := date.month + 1, day := 1,
      valid := ⟨Nat.le_add_left .., h, Nat.le_refl 1, daysInMonth_pos _ (Nat.le_add_left ..) h⟩ }
  else
    { year := date.year + 1, month := 1, day := 1,
      valid :=
        have days := daysInMonth_pos (date.year + 1) (Nat.le_refl 1) (by decide)
        ⟨Nat.le_refl 1, by decide, Nat.le_refl 1, days⟩ }

/-- The day before. -/
def previous (date : Date) : Date :=
  if h : 1 < date.day then
    { year := date.year, month := date.month, day := date.day - 1,
      valid := ⟨date.valid.1, date.valid.2.1, Nat.le_sub_one_of_lt h,
        Nat.le_trans (Nat.sub_le ..) date.valid.2.2.2⟩ }
  else if h : 1 < date.month then
    { year := date.year, month := date.month - 1, day := daysInMonth date.year (date.month - 1),
      valid :=
        have first : 1 ≤ date.month - 1 := Nat.le_sub_one_of_lt h
        have last : date.month - 1 ≤ 12 := Nat.le_trans (Nat.sub_le ..) date.valid.2.1
        ⟨first, last, daysInMonth_pos _ first last, Nat.le_refl _⟩ }
  else
    { year := date.year - 1, month := 12, day := 31,
      valid := ⟨by decide, Nat.le_refl 12, by decide, Nat.le_of_eq (daysInMonth_twelve _).symm⟩ }

/-! ### Counting -/

/-- The number of days from the first of January of the year one up to the beginning of a year. -/
def daysBeforeYear (year : Int) : Int :=
  let past := year - 1
  365 * past + past / 4 - past / 100 + past / 400

/-- The number of the day, counted from the first of January 1970. -/
def dayNumber (date : Date) : Int :=
  daysBeforeYear date.year + daysBeforeMonth date.year date.month + (date.day - 1) - 719162

/-! ### Writing -/

/-- The English names of the months. -/
def monthNames : List String :=
  ["January", "February", "March", "April", "May", "June", "July", "August", "September",
   "October", "November", "December"]

/-- A number with zeros in front, at least `width` digits long. -/
def padded (width n : Nat) : String :=
  let digits := Nat.toDigits 10 n
  String.ofList (List.replicate (width - digits.length) '0' ++ digits)

/-- A year with at least four digits; one that needs more, or lies before the year zero, has a
sign. -/
def yearText (year : Int) : String :=
  match year with
  | .ofNat n => if n ≤ 9999 then padded 4 n else "+" ++ padded 4 n
  | .negSucc n => "-" ++ padded 4 (n + 1)

/-- The date in words: month, day and year. -/
def text (date : Date) : String :=
  monthNames.getD (date.month - 1) "" ++ " " ++ padded 2 date.day ++ ", " ++ yearText date.year

end Date

end Subscription
