import Subscription.Proofs.Calendar.MissingOffset
import Subscription.Proofs.Contract.Refusal

/-!
# The date that the operator is shown

Where the server dates the end or the beginning of a contract, the operator is shown the date that
the server wrote: the month by its name, and the day and the year in the very digits of the server
(`ApiError.shows_written_date`). That the timestamp is kept in universal time in between makes no
difference, for the clock goes on showing the date that it showed (`Timestamp.date_ofClock`).
-/

namespace Subscription

open Timestamp (HasDigits numeral Written)

/-! ### Numbers with zeros in front -/

/-- A digit is the character of its value. -/
theorem digitChar_of_isDigit {c : Char} (h : c.isDigit = true) :
    (c.toNat - '0'.toNat).digitChar = c := by
  have bounds := Timestamp.bounds_of_isDigit h
  have zero : '0'.toNat = 48 := by decide
  have same := Nat.toNat_digitChar_of_lt_ten (n := c.toNat - '0'.toNat) (by omega)
  exact Char.toNat_inj.1 (by omega)

theorem Timestamp.HasDigits.eq_concat {count : Nat} {digits : List Char}
    (h : HasDigits (count + 1) digits) :
    ∃ front c, HasDigits count front ∧ c.isDigit = true ∧ digits = front ++ [c] := by
  have some_digit : digits ≠ [] := by
    rintro rfl
    cases h.length
  obtain ⟨front, c, rfl⟩ : ∃ front c, digits = front ++ [c] :=
    ⟨_, _, (List.dropLast_concat_getLast some_digit).symm⟩
  obtain ⟨digits, last⟩ := List.forall_mem_append.1 h.digits
  have length := h.length
  rw [List.length_append, List.length_singleton] at length
  exact ⟨front, c, ⟨Nat.succ.inj length, digits⟩, last c List.mem_cons_self, rfl⟩

namespace Date

/-- A number that was read of so many digits is written as these digits. -/
theorem padded_numeral {count : Nat} {digits : List Char} (h : HasDigits (count + 1) digits) :
    padded (count + 1) (numeral digits) = String.ofList digits := by
  rw [padded, String.ofList_inj]
  induction count generalizing digits with
  | zero =>
    obtain ⟨front, c, none, isDigit, rfl⟩ := h.eq_concat
    obtain rfl := List.eq_nil_of_length_eq_zero none.length
    have bounds := Timestamp.bounds_of_isDigit isDigit
    have zero : '0'.toNat = 48 := by decide
    have value : numeral ([] ++ [c]) = c.toNat - '0'.toNat := by
      rw [numeral, List.nil_append, Nat.ofDigitChars_cons, Nat.ofDigitChars_nil]
      omega
    rw [value, Nat.toDigits_of_lt_base (by omega), digitChar_of_isDigit isDigit]
    rfl
  | succ count ih =>
    obtain ⟨front, c, hasDigits, isDigit, rfl⟩ := h.eq_concat
    have bounds := Timestamp.bounds_of_isDigit isDigit
    have zero : '0'.toNat = 48 := by decide
    have value : numeral (front ++ [c]) = 10 * numeral front + (c.toNat - '0'.toNat) := by
      rw [numeral, Nat.ofDigitChars_append, Nat.ofDigitChars_cons, Nat.ofDigitChars_nil, numeral]
    have last : Nat.toDigits 10 (c.toNat - '0'.toNat) = [c] := by
      rw [Nat.toDigits_of_lt_base (by omega), digitChar_of_isDigit isDigit]
    have before := ih hasDigits
    rcases Nat.eq_zero_or_pos (numeral front) with none | pos
    · -- All digits in front are zeros.
      rw [none, Nat.toDigits_of_lt_base (by decide)] at before
      rw [value, none, Nat.mul_zero, Nat.zero_add, last, ← before]
      simp [List.replicate_succ']
    · rw [value, ← Nat.toDigits_append_toDigits (by decide) pos (by omega), last,
        List.length_append, List.length_singleton, Nat.add_sub_add_right, ← List.append_assoc,
        before]

/-! ### Dates in words -/

/-- The English name of the month with these two digits. -/
def monthNamed : List Char → String
  | ['0', '1'] => "January"
  | ['0', '2'] => "February"
  | ['0', '3'] => "March"
  | ['0', '4'] => "April"
  | ['0', '5'] => "May"
  | ['0', '6'] => "June"
  | ['0', '7'] => "July"
  | ['0', '8'] => "August"
  | ['0', '9'] => "September"
  | ['1', '0'] => "October"
  | ['1', '1'] => "November"
  | ['1', '2'] => "December"
  | _ => ""

/-- The date in front of a text of the form `dddd-dd-dd`, with the month by its name and the digits
of the day and the year as they stand there. -/
def wordsOf (text : String) : String :=
  let chars := text.toList
  monthNamed ((chars.drop 5).take 2) ++ " " ++ String.ofList ((chars.drop 8).take 2) ++ ", " ++
    String.ofList (chars.take 4)

theorem of?_eq_some_iff {year : Int} {month day : Nat} {date : Date} :
    of? year month day = some date ↔ date.year = year ∧ date.month = month ∧ date.day = day := by
  constructor
  · intro h
    unfold of? at h
    split at h
    · obtain rfl := Option.some.inj h
      exact ⟨rfl, rfl, rfl⟩
    · cases h
  · rintro ⟨rfl, rfl, rfl⟩
    exact dif_pos date.valid

/-- Where the parts of a date stand. -/
theorem places_of_length {year month day : List Char} (rest : List Char) (ofYear : year.length = 4)
    (ofMonth : month.length = 2) (ofDay : day.length = 2) :
    let chars := year ++ '-' :: (month ++ '-' :: (day ++ rest))
    chars.take 4 = year ∧ (chars.drop 5).take 2 = month ∧ (chars.drop 8).take 2 = day :=
  match year, ofYear, month, ofMonth, day, ofDay with
  | [_, _, _, _], _, [_, _], _, [_, _], _ => ⟨rfl, rfl, rfl⟩

/-- A date that was read of digits is written with these digits. -/
theorem text_eq_wordsOf {year month day rest : List Char} (hasYear : HasDigits 4 year)
    (hasMonth : HasDigits 2 month) (hasDay : HasDigits 2 day) {text : String}
    (whole : text.toList = year ++ '-' :: (month ++ '-' :: (day ++ rest))) {date : Date}
    (h : of? (numeral year) (numeral month) (numeral day) = some date) :
    date.text = wordsOf text := by
  obtain ⟨sameYear, sameMonth, sameDay⟩ := of?_eq_some_iff.1 h
  have small := hasYear.numeral_lt_of_four
  have yearWords : yearText date.year = String.ofList year := by
    rw [sameYear, ← padded_numeral hasYear]
    exact if_pos (Nat.le_of_lt_succ small)
  have monthWords : monthNames.getD (date.month - 1) "" = monthNamed month := by
    have all : ∀ k < 12, monthNames.getD k "" = monthNamed (padded 2 (k + 1)).toList := by decide
    have first := date.valid.1
    have last := date.valid.2.1
    rw [all _ (by omega), Nat.sub_add_cancel first, sameMonth, padded_numeral hasMonth,
      String.toList_ofList]
  have dayWords : padded 2 date.day = String.ofList day := by
    rw [sameDay, padded_numeral hasDay]
  obtain ⟨yearPlace, monthPlace, dayPlace⟩ :=
    places_of_length rest hasYear.length hasMonth.length hasDay.length
  rw [← whole] at yearPlace monthPlace dayPlace
  rw [Date.text, wordsOf, yearWords, monthWords, dayWords, yearPlace, monthPlace, dayPlace]

end Date

namespace Timestamp

variable {text : String} {timestamp : Timestamp}

/-- The text is a timestamp in the strict form, or without an offset at the end of it. -/
def Accepted (text : String) : Prop :=
  (∃ timestamp, Strict.read text.toList = .ok timestamp) ∨
    ∃ w : Written, w.Numeric ∧ text.toList = w.chars ∧ ∃ timestamp, read text = .ok timestamp

/-- The clock of a timestamp shows the date that is written in front of it. -/
theorem Accepted.exists_parse? (h : Accepted text) :
    ∃ timestamp, parse? text = some timestamp ∧ timestamp.date.text = Date.wordsOf text := by
  rcases h with ⟨timestamp, isStrict⟩ | ⟨w, numeric, written, timestamp, isRead⟩
  · obtain ⟨year, month, day, rest, hasYear, hasMonth, hasDay, whole, isDate⟩ :=
      Strict.exists_digits_of_read isStrict
    refine ⟨timestamp, ?_, Date.text_eq_wordsOf hasYear hasMonth hasDay whole isDate⟩
    rw [parse?_eq, isStrict]
    rfl
  · have isPlain := parse?_eq_some_iff.2 isRead
    refine ⟨timestamp, isPlain, ?_⟩
    rw [parse?_written numeric written] at isPlain
    obtain ⟨date, time, isDate, -, rfl⟩ := Written.universal?_eq_some_iff.1 isPlain
    rw [universal, date_ofClock]
    exact Date.text_eq_wordsOf numeric.year numeric.month numeric.day written isDate

end Timestamp

namespace ApiError

/-- The request was refused with status 403, and the server named a contract, a reason and a
time. -/
structure Dates (failure : ApiError) (reason contractId time : String) : Prop where
  code : failure.network.code = some 403
  named : contractId ≠ ""
  info : failure.envelope.info = some ⟨some contractId, some reason, Timestamp.parse? time⟩

/-- So it is where the body says so. -/
theorem Refused.dates {network : NetworkError} {members : Keyed Json}
    (refused : Refused network members) {reason contractId time : String}
    (blames : Blames (.object members) reason contractId (some time)) :
    (ofNetwork network).Dates reason contractId time where
  code := refused.code
  named := blames.named
  info := by
    rw [ofNetwork, refused.body]
    exact blames.read_info refused.sorted refused.noArray

theorem Dates.notice_eq {failure : ApiError} {reason contractId time : String}
    (dates : failure.Dates reason contractId time) :
    failure.notice = forbiddenNotice ⟨some contractId, some reason, Timestamp.parse? time⟩ := by
  rw [notice, dates.code, dates.info]
  rfl

theorem filter_named {contractId : String} (named : contractId ≠ "") :
    (some contractId).filter (· ≠ "") = some contractId := by
  rw [Option.filter_some, if_pos (by simpa using named)]

/-- **The operator is shown the date that the server wrote.** -/
theorem shows_written_date {time : String} (accepted : Timestamp.Accepted time)
    (contractId : String) :
    (∀ failure : ApiError, failure.Dates "no-longer-effective" contractId time →
      failure.notice.text =
        "Cannot attach machine. " ++ ("Contract \"" ++ contractId ++ "\"" ++ " expired on " ++
          Date.wordsOf time)) ∧
    (∀ failure : ApiError, failure.Dates "not-effective-yet" contractId time →
      failure.notice.text =
        "Cannot attach machine. " ++ ("Contract \"" ++ contractId ++ "\"" ++
          " is not effective until " ++ Date.wordsOf time)) ∧
    ∀ network members reason, Refused network members →
      Blames (.object members) reason contractId (some time) →
        (ofNetwork network).Dates reason contractId time := by
  obtain ⟨timestamp, parsed, words⟩ := accepted.exists_parse?
  refine ⟨fun failure dates => ?_, fun failure dates => ?_, fun network members reason refused =>
    refused.dates⟩
  · have notice : failure.notice = .contractExpired contractId timestamp.date.text := by
      rw [dates.notice_eq, parsed]
      simp only [forbiddenNotice, filter_named dates.named]
    rw [notice, ← words]
    rfl
  · have notice : failure.notice = .contractNotYetEffective contractId timestamp.date.text := by
      rw [dates.notice_eq, parsed]
      simp only [forbiddenNotice, filter_named dates.named]
    rw [notice, ← words]
    rfl

/-- A time on the first of March that is still the leap day in universal time. -/
def aheadTime : String := "2024-03-01T00:30:00+05:45"

/-- A body that dates the end of a contract so. -/
def aheadBody : Keyed Json :=
  [("info", .object [("contractId", .string "c-1"), ("reason", .string "no-longer-effective"),
    ("time", .string aheadTime)])]

theorem shows_written_date_ahead :
    Timestamp.Accepted aheadTime ∧
    (∃ timestamp, Timestamp.parse? aheadTime = some timestamp ∧
      timestamp.utcDate.text = "February 29, 2024") ∧
    Refused (refusalWith aheadBody) aheadBody ∧
    Blames (.object aheadBody) "no-longer-effective" "c-1" (some aheadTime) ∧
    (ofNetwork (refusalWith aheadBody)).notice.text =
      "Cannot attach machine. Contract \"c-1\" expired on March 01, 2024" := by
  have refused : Refused (refusalWith aheadBody) aheadBody :=
    ⟨rfl, rfl, by decide, fun _ same => by cases same⟩
  have blames : Blames (.object aheadBody) "no-longer-effective" "c-1" (some aheadTime) :=
    ⟨⟨none, .missing⟩, ⟨none, .missing⟩, ⟨none, .missing⟩, rfl, by decide, rfl, .text _⟩
  have strict : Timestamp.Strict.read aheadTime.toList =
      .ok ⟨⟨2024, 2, 29, by decide⟩, ⟨67500, 0, by decide⟩, 20700, by decide⟩ := by
    rw [← Except.toOption_eq_some_iff]
    decide +kernel
  have parsed : Timestamp.parse? aheadTime =
      some ⟨⟨2024, 2, 29, by decide⟩, ⟨67500, 0, by decide⟩, 20700, by decide⟩ := by
    rw [Timestamp.parse?_eq, strict]
    rfl
  obtain ⟨expired, -, dated⟩ := shows_written_date (.inl ⟨_, strict⟩) "c-1"
  refine ⟨.inl ⟨_, strict⟩, ⟨_, parsed, by decide +kernel⟩, refused, blames, ?_⟩
  rw [expired _ (dated _ _ _ refused blames)]
  decide +kernel

end ApiError

end Subscription
