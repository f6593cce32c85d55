import Subscription.Proofs.Calendar.Reading

/-!
# A missing offset

A timestamp without an offset is read by the lenient form only, and the same characters with a `Z`
behind them by the strict form only. Both make the timestamp of a clock in universal time that shows
the digits, if there are such a date and such a time of day (`Timestamp.parse?_written`,
`Timestamp.parse?_written_z`). So a missing offset means universal time
(`Timestamp.missing_offset_is_universal_time`).
-/

namespace Subscription

theorem Except.toOption_eq_some_iff {ε α : Type} {result : Except ε α} {value : α} :
    result.toOption = some value ↔ result = .ok value := by
  cases result <;> simp [Except.toOption]

namespace Timestamp

variable {text : String} {timestamp : Timestamp} {w : Written}

theorem parse?_eq (text : String) :
    parse? text = (Strict.read text.toList).toOption.or (Lenient.read? text.toList) := by
  rw [parse?, read]
  cases Strict.read text.toList with
  | ok timestamp => rfl
  | error fault => cases Lenient.read? text.toList <;> rfl

theorem parse?_eq_some_iff : parse? text = some timestamp ↔ read text = .ok timestamp :=
  Except.toOption_eq_some_iff

/-- Without an offset, the lenient form takes the clock to be in universal time. -/
theorem parse?_written (numeric : w.Numeric) (written : text.toList = w.chars) :
    parse? text = w.universal? := by
  have stop : ∀ c ∈ ([] : List Char).head?, c ≠ '.' ∧ c.isDigit = false := by simp
  -- The strict form does not get past the missing offset.
  have strict : (Strict.read w.chars).toOption = none := by
    rw [← List.append_nil w.chars, Strict.read_written numeric stop]
    cases w.date? with
    | none => rfl
    | some date => cases w.time? <;> rfl
  have lenient := Lenient.read?_written numeric stop
  rw [List.append_nil, if_pos rfl] at lenient
  rw [parse?_eq, written, strict, lenient, Option.none_or]

/-- With a `Z` for its offset, the strict form does. -/
theorem parse?_written_z (numeric : w.Numeric) (written : text.toList = w.chars) :
    parse? (text ++ "Z") = w.universal? := by
  have stop : ∀ c ∈ ['Z'].head?, c ≠ '.' ∧ c.isDigit = false := by
    intro c mem
    obtain rfl := Option.some.inj mem
    decide
  have whole : (text ++ "Z").toList = w.chars ++ ['Z'] := by
    rw [String.toList_append, written]
    rfl
  have strict : (Strict.read (w.chars ++ ['Z'])).toOption = w.universal? := by
    rw [Strict.read_written numeric stop, Written.universal?]
    cases w.date? with
    | none => rfl
    | some date => cases w.time? <;> rfl
  have lenient := Lenient.read?_written numeric stop
  rw [if_neg (List.cons_ne_nil _ _)] at lenient
  rw [parse?_eq, whole, strict, lenient, Option.or_none]

theorem Written.universal?_eq_some_iff : w.universal? = some timestamp ↔
    ∃ date time, w.date? = some date ∧ w.time? = some time ∧
      timestamp = universal date time := by
  simp only [universal?, Option.bind_eq_bind, Option.bind_eq_some_iff, Option.pure_def,
    Option.some.injEq, exists_and_left, eq_comm (b := timestamp)]

/-- **A missing offset means universal time**: characters without an offset are a timestamp exactly
if they are one with a `Z` behind them, and then both are the same point in time, the one at which a
clock in universal time shows the digits. -/
theorem missing_offset_is_universal_time (numeric : w.Numeric) (written : text.toList = w.chars) :
    ((∃ timestamp, read text = .ok timestamp) ↔ ∃ timestamp, read (text ++ "Z") = .ok timestamp) ∧
    ∀ plain marked, read text = .ok plain → read (text ++ "Z") = .ok marked →
      plain.unixSeconds = marked.unixSeconds ∧ plain.nanos = marked.nanos ∧
      plain.offset = 0 ∧ marked.offset = 0 ∧
      ∃ date time, w.date? = some date ∧ w.time? = some time ∧
        plain.unixSeconds = date.dayNumber * secondsPerDay + time.second ∧
        plain.nanos = time.nanos := by
  have same : parse? (text ++ "Z") = parse? text := by
    rw [parse?_written_z numeric written, parse?_written numeric written]
  simp only [← parse?_eq_some_iff, same, true_and]
  intro plain marked isPlain isMarked
  obtain rfl : plain = marked := Option.some.inj (isPlain.symm.trans isMarked)
  rw [parse?_written numeric written] at isPlain
  obtain ⟨date, time, isDate, isTime, rfl⟩ := Written.universal?_eq_some_iff.1 isPlain
  refine ⟨rfl, rfl, rfl, rfl, date, time, isDate, isTime, ?_, rfl⟩
  rw [universal, unixSeconds_ofClock, Int.sub_zero]

/-- The leap second at the end of the year 2016, with more digits than count. -/
def leapSecond : Written where
  year := "2016".toList
  month := "12".toList
  day := "31".toList
  hour := "23".toList
  minute := "59".toList
  second := "60".toList
  fraction := ".1234567890123".toList

theorem missing_offset_is_universal_time_leapSecond :
    (leapSecond.Numeric ∧ "2016-12-31T23:59:60.1234567890123".toList = leapSecond.chars) ∧
    ∃ plain marked, read "2016-12-31T23:59:60.1234567890123" = .ok plain ∧
      read ("2016-12-31T23:59:60.1234567890123" ++ "Z") = .ok marked ∧
      plain.unixSeconds = 1483228799 ∧ marked.unixSeconds = 1483228799 ∧
      plain.nanos = 1123456789 ∧ marked.nanos = 1123456789 ∧
      plain.offset = 0 ∧ marked.offset = 0 := by
  have numeric : leapSecond.Numeric :=
    ⟨⟨rfl, by decide⟩, ⟨rfl, by decide⟩, ⟨rfl, by decide⟩, ⟨rfl, by decide⟩, ⟨rfl, by decide⟩,
      ⟨rfl, by decide⟩, .inr ⟨"1234567890123".toList, ⟨by decide, by decide⟩, by decide⟩⟩
  have written : "2016-12-31T23:59:60.1234567890123".toList = leapSecond.chars := by decide
  obtain ⟨both, same⟩ := missing_offset_is_universal_time numeric written
  have isPlain : parse? "2016-12-31T23:59:60.1234567890123" =
      some ⟨⟨2016, 12, 31, by decide⟩, ⟨86399, 1123456789, by decide⟩, 0, by decide⟩ := by
    decide +kernel
  rw [parse?_eq_some_iff] at isPlain
  obtain ⟨marked, isMarked⟩ := both.1 ⟨_, isPlain⟩
  obtain ⟨seconds, nanos, zero, zero', -⟩ := same _ _ isPlain isMarked
  have unix : (⟨⟨2016, 12, 31, by decide⟩, ⟨86399, 1123456789, by decide⟩, 0, by decide⟩ :
    Timestamp).unixSeconds = 1483228799 := by decide
  exact ⟨⟨numeric, written⟩, _, marked, isPlain, isMarked, unix, seconds.symm.trans unix, rfl,
    nanos.symm, zero, zero'⟩

end Timestamp

end Subscription
