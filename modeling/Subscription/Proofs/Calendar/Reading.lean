import Subscription.Calendar.Reader
import Subscription.Proofs.Calendar.Clock
import Subscription.Proofs.Entitlement.Decoding
import Subscription.Proofs.Json.Decimals

/-!
# What is read of a timestamp

A timestamp without an offset is written in digits at fixed places, `Timestamp.Written`, with a
fraction of any length behind them. Both forms read these digits in the same order and make the same
numbers of them; they differ in what may stand behind the fraction. So each is one equation on such
characters: the strict form goes on with the offset (`Strict.read_written`), the lenient form has
nothing left (`Lenient.read?_written`).

The strict form reads nothing else at the places of the date (`Strict.exists_digits_of_read`).
-/

namespace Subscription

theorem Except.ok_bind {ε α β : Type} (value : α) (next : α → Except ε β) :
    (Except.ok value >>= next) = next value := rfl

namespace Timestamp

/-! ### Digits -/

/-- So many characters, all of them digits. -/
structure HasDigits (count : Nat) (chars : List Char) : Prop where
  length : chars.length = count
  digits : ∀ c ∈ chars, c.isDigit = true

theorem bounds_of_isDigit {c : Char} (h : c.isDigit = true) : 48 ≤ c.toNat ∧ c.toNat ≤ 57 :=
  Char.isDigit_iff_toNat.1 h

/-- The number that characters stand for. -/
def numeral (chars : List Char) : Nat := Nat.ofDigitChars 10 chars 0

theorem HasDigits.numeral_lt_of_four {chars : List Char} (h : HasDigits 4 chars) :
    numeral chars < 10000 := by
  have value {c : Char} (mem : c ∈ chars) : c.toNat - '0'.toNat ≤ 9 := by
    have bounds := bounds_of_isDigit (h.digits c mem)
    have zero : '0'.toNat = 48 := by decide
    omega
  match chars, h.length with
  | [a, b, c, d], _ =>
    have thousands : a.toNat - '0'.toNat ≤ 9 := value (by simp)
    have hundreds : b.toNat - '0'.toNat ≤ 9 := value (by simp)
    have tens : c.toNat - '0'.toNat ≤ 9 := value (by simp)
    have ones : d.toNat - '0'.toNat ≤ 9 := value (by simp)
    simp only [numeral, Nat.ofDigitChars_cons, Nat.ofDigitChars_nil]
    omega

/-- The nanoseconds of a fraction with its point. -/
def fractionNanos (chars : List Char) : Nat :=
  nanosOfDigits ((chars.drop 1).map fun c => c.toNat - '0'.toNat)

/-- A digit counts for its distance from zero. -/
theorem digit?_of_isDigit {c : Char} (h : c.isDigit = true) :
    digit? c = some (c.toNat - '0'.toNat) := by
  have bounds : '0' ≤ c ∧ c ≤ '9' := by simpa [Char.isDigit, Char.le_def] using h
  simp [digit?, bounds]

theorem digit?_of_not_isDigit {c : Char} (h : c.isDigit = false) : digit? c = none := by
  have outside : ¬('0' ≤ c ∧ c ≤ '9') := by simpa [Char.isDigit, Char.le_def] using h
  simp only [digit?, Bool.and_eq_true, decide_eq_true_eq, if_neg outside]

/-- The digits of a numeral make up its value. -/
theorem number_map_digit (chars : List Char) :
    number (chars.map fun c => c.toNat - '0'.toNat) = numeral chars := by
  have step (value : Nat) :
      (chars.map fun c => c.toNat - '0'.toNat).foldl (fun v d => v * 10 + d) value =
        Nat.ofDigitChars 10 chars value := by
    induction chars generalizing value with
    | nil => rfl
    | cons c rest ih =>
      rw [List.map_cons, List.foldl_cons, ih, Nat.ofDigitChars_cons, Nat.mul_comm]
  exact step 0

/-- Digits are taken up to the limit, or up to the first character that is none. -/
theorem digitsUpTo_append {digits : List Char} (all : ∀ c ∈ digits, c.isDigit = true) {limit : Nat}
    (room : digits.length ≤ limit) (rest : List Char)
    (stop : digits.length < limit → ∀ c ∈ rest.head?, c.isDigit = false) :
    digitsUpTo limit (digits ++ rest) = (digits.map fun c => c.toNat - '0'.toNat, rest) := by
  induction digits generalizing limit with
  | nil =>
    cases limit with
    | zero => rfl
    | succ limit =>
      cases rest with
      | nil => rfl
      | cons c rest =>
        have none := digit?_of_not_isDigit (stop (Nat.zero_lt_succ _) c rfl)
        simp only [List.nil_append, digitsUpTo, none, List.map_nil]
  | cons c digits ih =>
    obtain ⟨first, others⟩ := List.forall_mem_cons.1 all
    cases limit with
    | zero => exact absurd room (Nat.not_succ_le_zero _)
    | succ limit =>
      have rest_eq := ih others (Nat.le_of_succ_le_succ room) fun less =>
        stop (Nat.succ_lt_succ less)
      simp only [List.cons_append, digitsUpTo, digit?_of_isDigit first, rest_eq, List.map_cons]

/-- All that is taken are digits. -/
theorem exists_digits_of_digitsUpTo (limit : Nat) (chars : List Char) :
    ∃ digits, (∀ c ∈ digits, c.isDigit = true) ∧ chars = digits ++ (digitsUpTo limit chars).2 ∧
      (digitsUpTo limit chars).1 = digits.map fun c => c.toNat - '0'.toNat := by
  induction limit generalizing chars with
  | zero => exact ⟨[], List.forall_mem_nil _, rfl, rfl⟩
  | succ limit ih =>
    cases chars with
    | nil => exact ⟨[], List.forall_mem_nil _, rfl, rfl⟩
    | cons c chars =>
      cases isDigit : c.isDigit with
      | false =>
        simp only [digitsUpTo, digit?_of_not_isDigit isDigit]
        exact ⟨[], List.forall_mem_nil _, rfl, rfl⟩
      | true =>
        obtain ⟨digits, all, whole, values⟩ := ih chars
        simp only [digitsUpTo, digit?_of_isDigit isDigit]
        exact ⟨c :: digits, List.forall_mem_cons.2 ⟨isDigit, all⟩, congrArg (c :: ·) whole,
          congrArg (_ :: ·) values⟩

/-! ### Steps of the strict form -/

namespace Strict

/-- Exactly so many digits are taken, with the value they make up. -/
theorem digits_eq_ok_iff {count n : Nat} {chars rest : List Char} :
    digits count chars = .ok (n, rest) ↔
      ∃ front, HasDigits count front ∧ chars = front ++ rest ∧ n = numeral front := by
  constructor
  · intro h
    obtain ⟨front, all, whole, values⟩ := exists_digits_of_digitsUpTo count chars
    simp only [digits] at h
    split at h
    · next enough =>
      obtain ⟨same, rfl⟩ := Prod.mk.inj (Except.ok.inj h)
      rw [values, List.length_map] at enough
      rw [values, number_map_digit] at same
      exact ⟨front, ⟨enough, all⟩, whole, same.symm⟩
    · cases h
  · rintro ⟨front, ⟨rfl, all⟩, rfl, rfl⟩
    have taken := digitsUpTo_append all (Nat.le_refl _) rest
      fun less => absurd less (Nat.lt_irrefl _)
    simp only [digits, taken, List.length_map, number_map_digit, if_true]

/-- One of the marks is taken, and nothing else. -/
theorem oneOf_eq_ok_iff {allowed chars rest : List Char} :
    oneOf allowed chars = .ok rest ↔ ∃ c ∈ allowed, chars = c :: rest := by
  cases chars with
  | nil => simp [oneOf]
  | cons c chars =>
    by_cases mem : c ∈ allowed
    · rw [oneOf, if_pos mem, Except.ok.injEq]
      exact ⟨fun same => ⟨c, mem, congrArg _ same⟩, fun ⟨_, _, same⟩ => (List.cons.inj same).2⟩
    · simp only [oneOf, if_neg mem, reduceCtorEq, List.cons.injEq, false_iff, not_exists, not_and]
      rintro _ other rfl
      exact absurd other mem

theorem inRange_eq_ok_iff {α : Type} {found : Option α} {value : α} :
    inRange found = .ok value ↔ found = some value := by
  cases found <;> simp [inRange]

/-- A written fraction is taken as a whole; a text without one has no nanoseconds. -/
theorem fraction_append {chars rest : List Char} (isFraction : Numeral.IsFraction chars)
    (stop : ∀ c ∈ rest.head?, c ≠ '.' ∧ c.isDigit = false) :
    fraction (chars ++ rest) = .ok (fractionNanos chars, rest) := by
  rcases isFraction with rfl | ⟨digits, ⟨some_digit, all⟩, rfl⟩
  · have zero : fractionNanos [] = 0 := rfl
    rw [List.nil_append, zero]
    unfold fraction
    split
    · exact absurd rfl (stop '.' rfl).1
    · exact absurd rfl (stop '.' rfl).1
    · rfl
  · obtain ⟨c, more, rfl⟩ := List.exists_cons_of_ne_nil some_digit
    have room : (c :: more).length ≤ (c :: more ++ rest).length := by
      rw [List.length_append]
      exact Nat.le_add_right _ _
    have taken := digitsUpTo_append all room rest fun _ d mem => (stop d mem).2
    simp only [List.cons_append] at taken ⊢
    simp only [fraction, allDigits, taken, List.map_cons]
    rfl

/-- The clock that shows a date and a time is read with the offset that comes next. -/
theorem withOffset_eq_ok {date : Date} {time : TimeOfDay} {chars : List Char}
    {timestamp : Timestamp} (h : withOffset date time chars = .ok timestamp) :
    timestamp.date = date := by
  simp only [withOffset, Except.bind_eq_ok_iff] at h
  obtain ⟨⟨offset, rest⟩, -, built⟩ := h
  split at built
  · cases built
  · split at built
    · next near =>
      obtain rfl := Except.ok.inj built
      exact date_ofClock date time near
    · cases built

/-- What is read begins with the digits of the date that the clock shows. -/
theorem exists_digits_of_read {chars : List Char} {timestamp : Timestamp}
    (h : read chars = .ok timestamp) :
    ∃ year month day rest, HasDigits 4 year ∧ HasDigits 2 month ∧ HasDigits 2 day ∧
      chars = year ++ '-' :: (month ++ '-' :: (day ++ rest)) ∧
      Date.of? (numeral year) (numeral month) (numeral day) = some timestamp.date := by
  rw [read] at h
  split at h
  · cases h
  simp only [Except.bind_eq_ok_iff] at h
  obtain ⟨⟨year, r₁⟩, isYear, r₂, dash, ⟨month, r₃⟩, isMonth, r₄, dash', ⟨day, r₅⟩, isDay, date,
    isDate, -, -, -, -, -, -, -, -, -, -, -, -, ⟨_, r₆⟩, -, time, -, isClock⟩ := h
  obtain ⟨year, hasYear, rfl, rfl⟩ := digits_eq_ok_iff.1 isYear
  obtain ⟨month, hasMonth, rfl, rfl⟩ := digits_eq_ok_iff.1 isMonth
  obtain ⟨day, hasDay, rfl, rfl⟩ := digits_eq_ok_iff.1 isDay
  obtain ⟨_, mem, rfl⟩ := oneOf_eq_ok_iff.1 dash
  obtain rfl := List.mem_singleton.1 mem
  obtain ⟨_, mem, rfl⟩ := oneOf_eq_ok_iff.1 dash'
  obtain rfl := List.mem_singleton.1 mem
  refine ⟨year, month, day, r₅, hasYear, hasMonth, hasDay, rfl, ?_⟩
  rw [withOffset_eq_ok isClock]
  exact inRange_eq_ok_iff.1 isDate

end Strict

/-! ### Timestamps without an offset -/

/-- The characters of a timestamp without its offset, part by part. The fraction has its point with
it, and is empty if there is none. -/
structure Written where
  year : List Char
  month : List Char
  day : List Char
  hour : List Char
  minute : List Char
  second : List Char
  fraction : List Char

namespace Written

/-- The parts in their order. -/
def chars (w : Written) : List Char :=
  w.year ++ '-' :: (w.month ++ '-' :: (w.day ++ 'T' :: (w.hour ++ ':' :: (w.minute ++ ':' ::
    (w.second ++ w.fraction)))))

/-- The parts are made of digits: four for the year and two for each of the others, and one or more
behind the point of a fraction. -/
structure Numeric (w : Written) : Prop where
  year : HasDigits 4 w.year
  month : HasDigits 2 w.month
  day : HasDigits 2 w.day
  hour : HasDigits 2 w.hour
  minute : HasDigits 2 w.minute
  second : HasDigits 2 w.second
  fraction : Numeral.IsFraction w.fraction

/-- The date that the digits stand for. -/
def date? (w : Written) : Option Date := Date.of? (numeral w.year) (numeral w.month) (numeral w.day)

/-- The time of day that the digits stand for. -/
def time? (w : Written) : Option TimeOfDay :=
  TimeOfDay.of? (numeral w.hour) (numeral w.minute) (numeral w.second) (fractionNanos w.fraction)

/-- The timestamp of a clock in universal time that shows the digits. -/
def universal? (w : Written) : Option Timestamp := do
  return .universal (← w.date?) (← w.time?)

end Written

variable {w : Written}

namespace Strict

/-- A text is no shorter in bytes than in characters. -/
theorem length_le_byteLength (chars : List Char) : chars.length ≤ byteLength chars := by
  induction chars with
  | nil => exact Nat.le_refl _
  | cons c rest ih =>
    have one := c.utf8Size_pos
    rw [List.length_cons, byteLength, List.foldr_cons]
    rw [byteLength] at ih
    omega

/-- The strict form takes the date, the time and the fraction, and leaves the offset. -/
theorem read_written (numeric : w.Numeric) {rest : List Char}
    (stop : ∀ c ∈ rest.head?, c ≠ '.' ∧ c.isDigit = false) :
    read (w.chars ++ rest) =
      inRange w.date? >>= fun date =>
        inRange w.time? >>= fun time => withOffset date time rest := by
  have number {count : Nat} {front : List Char} (h : HasDigits count front) (rest : List Char) :
      digits count (front ++ rest) = .ok (numeral front, rest) :=
    digits_eq_ok_iff.2 ⟨front, h, rfl, rfl⟩
  have separator {allowed : List Char} {c : Char} (mem : c ∈ allowed) (rest : List Char) :
      oneOf allowed (c :: rest) = .ok rest := oneOf_eq_ok_iff.2 ⟨c, mem, rfl⟩
  have long : ¬byteLength (w.chars ++ rest) < leastLength := by
    have places : (w.chars ++ rest).length = 19 + (w.fraction ++ rest).length := by
      simp only [Written.chars, List.length_append, List.length_cons, numeric.year.length,
        numeric.month.length, numeric.day.length, numeric.hour.length, numeric.minute.length,
        numeric.second.length]
      omega
    have bytes := length_le_byteLength (w.chars ++ rest)
    rw [leastLength]
    omega
  rw [read, if_neg long]
  simp only [Written.chars, List.append_assoc, List.cons_append, number numeric.year,
    number numeric.month, number numeric.day, number numeric.hour, number numeric.minute,
    number numeric.second, fraction_append numeric.fraction stop, List.mem_cons, true_or, separator,
    Except.ok_bind]
  rfl

end Strict

namespace Lenient

theorem isBlank_of_isDigit {c : Char} (h : c.isDigit = true) : isBlank c = false := by
  have bounds := bounds_of_isDigit h
  simp only [isBlank, blanks, CodeRanges.contains, List.any_cons, List.any_nil, Bool.or_false,
    Bool.or_eq_false_iff, Bool.and_eq_false_iff, decide_eq_false_iff_not]
  omega

/-- Digits are read where they begin, with no blanks in front. -/
theorem dropBlanks_append {count : Nat} {front : List Char} (h : HasDigits (count + 1) front)
    (rest : List Char) : dropBlanks (front ++ rest) = front ++ rest := by
  cases front with
  | nil => cases h.length
  | cons c more =>
    rw [List.cons_append, dropBlanks, List.dropWhile_cons_of_neg]
    simp [isBlank_of_isDigit (h.digits c List.mem_cons_self)]

/-- The lenient form takes exactly so many digits as well. -/
theorem digits?_append {count : Nat} {front : List Char} (h : HasDigits (count + 1) front)
    (rest : List Char) : digits? (count + 1) (front ++ rest) = some (numeral front, rest) := by
  have taken := digitsUpTo_append h.digits (Nat.le_of_eq h.length) rest
    fun less => absurd h.length (Nat.ne_of_lt less)
  rw [digits?, taken]
  cases front with
  | nil => cases h.length
  | cons c more => exact congrArg (fun n => some (n, rest)) (number_map_digit (c :: more))

theorem year?_append {front : List Char} (h : HasDigits 4 front) (rest : List Char) :
    year? (front ++ rest) = some ((numeral front : Int), rest) := by
  rw [year?, dropBlanks_append h]
  cases front with
  | nil => cases h.length
  | cons c more =>
    have isDigit := h.digits c List.mem_cons_self
    split
    · next minus =>
      obtain rfl : c = '-' := (List.cons.inj minus).1
      exact absurd isDigit (by decide)
    · next plus =>
      obtain rfl : c = '+' := (List.cons.inj plus).1
      exact absurd isDigit (by decide)
    · rw [digits?_append h]
      rfl

/-- A number of four digits is a year of the lenient form. -/
theorem hasYear_numeral {front : List Char} (h : HasDigits 4 front) :
    hasYear (numeral front) = true := by
  have small := h.numeral_lt_of_four
  simp only [hasYear, Bool.and_eq_true, decide_eq_true_eq]
  omega

/-- The lenient form reads a text of the shape if nothing follows: it knows no offset. -/
theorem read?_written (numeric : w.Numeric) {rest : List Char}
    (stop : ∀ c ∈ rest.head?, c ≠ '.' ∧ c.isDigit = false) :
    read? (w.chars ++ rest) = if rest = [] then w.universal? else none := by
  have number {front : List Char} (h : HasDigits 2 front) (rest : List Char) :
      shortNumber? (front ++ rest) = some (numeral front, rest) := by
    rw [shortNumber?, dropBlanks_append h, digits?_append h]
  have separator (c : Char) (rest : List Char) : only? c (c :: rest) = some rest := if_pos rfl
  have fraction := congrArg Except.toOption (Strict.fraction_append numeric.fraction stop)
  have parts : w.chars ++ rest = w.year ++ '-' :: (w.month ++ '-' :: (w.day ++ 'T' ::
      (w.hour ++ ':' :: (w.minute ++ ':' :: (w.second ++ (w.fraction ++ rest)))))) := by
    simp only [Written.chars, List.append_assoc, List.cons_append]
  -- A part that is read is passed on to what reads the next one.
  have passes {α β : Type} {part : Option α} {value : α} (h : part = some value)
      (next : α → Option β) : (part >>= next) = next value := by
    rw [h, Option.bind_eq_bind, Option.bind_some]
  rw [read?, parts]
  refine (passes (year?_append numeric.year _) _).trans ?_
  refine (passes (separator '-' _) _).trans ?_
  refine (passes (number numeric.month _) _).trans ?_
  refine (passes (separator '-' _) _).trans ?_
  refine (passes (number numeric.day _) _).trans ?_
  refine (passes (separator 'T' _) _).trans ?_
  refine (passes (number numeric.hour _) _).trans ?_
  refine (passes (separator ':' _) _).trans ?_
  refine (passes (number numeric.minute _) _).trans ?_
  refine (passes (separator ':' _) _).trans ?_
  refine (passes (number numeric.second _) _).trans ?_
  refine (passes fraction _).trans ?_
  rw [hasYear_numeral numeric.year]
  cases rest with
  | nil => rfl
  | cons c rest => rfl

end Lenient

end Timestamp

end Subscription
