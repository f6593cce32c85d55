import Subscription.Proofs.Json.Numerals

/-!
# Every number is written as a numeral

Whole numbers are written in digits, doubles as their shortest decimals in one of four arrangements
of point, zeros and exponent. All of them keep to the grammar of JSON: a minus sign, digits without
a leading zero, a fraction and an exponent, of which only the digits have to be there
(`Number.isGrammatical_text`).

A decimal without a digit other than zero would break the rule about leading zeros if zeros were
appended to it. The search for the shortest decimal gives one only if it finds nothing on any of its
grids, and then the finest of them is too fine for that: where its steps are at least one, a grid of
ten times those steps has a point among the numbers that round to the double
(`Shortest.digits_ne_zero_or_fine`).
-/

namespace Subscription

namespace Numeral

/-! ### The grammar -/

/-- One digit or more. -/
def IsDigits (chars : List Char) : Prop := chars ≠ [] ∧ ∀ c ∈ chars, c.isDigit = true

/-- Digits in front of the point: a single zero, or digits that do not begin with one. -/
def IsLeading (chars : List Char) : Prop :=
  chars = ['0'] ∨ IsDigits chars ∧ chars.head? ≠ some '0'

/-- A fraction, if there is one. -/
def IsFraction (chars : List Char) : Prop :=
  chars = [] ∨ ∃ digits, IsDigits digits ∧ chars = '.' :: digits

/-- An exponent with its sign, if there is one. -/
def IsExponent (chars : List Char) : Prop :=
  chars = [] ∨ ∃ sign digits, (sign = '+' ∨ sign = '-') ∧ IsDigits digits ∧
    chars = 'e' :: sign :: digits

/-- A numeral without its sign. -/
def IsMagnitude (chars : List Char) : Prop :=
  ∃ leading fraction exponent, IsLeading leading ∧ IsFraction fraction ∧ IsExponent exponent ∧
    chars = leading ++ fraction ++ exponent

/-- A numeral. -/
def IsGrammatical (chars : List Char) : Prop :=
  ∃ sign magnitude, (sign = [] ∨ sign = ['-']) ∧ IsMagnitude magnitude ∧ chars = sign ++ magnitude

theorem isDigits_toDigits (n : Nat) : IsDigits (Nat.toDigits 10 n) :=
  ⟨Nat.toDigits_ne_nil, fun _ mem => Nat.isDigit_of_mem_toDigits (by decide) (by decide) mem⟩

theorem IsDigits.append_zeros {chars : List Char} (h : IsDigits chars) (n : Nat) :
    IsDigits (chars ++ List.replicate n '0') := by
  refine ⟨List.append_ne_nil_of_left_ne_nil h.1 _, List.forall_mem_append.2 ⟨h.2, fun c mem => ?_⟩⟩
  rw [List.eq_of_mem_replicate mem]
  decide

theorem IsDigits.zeros_append {chars : List Char} (h : IsDigits chars) (n : Nat) :
    IsDigits (List.replicate n '0' ++ chars) := by
  refine ⟨List.append_ne_nil_of_right_ne_nil _ h.1, List.forall_mem_append.2 ⟨fun c mem => ?_, h.2⟩⟩
  rw [List.eq_of_mem_replicate mem]
  decide

theorem IsDigits.take {chars : List Char} (h : IsDigits chars) {n : Nat} (pos : 0 < n) :
    IsDigits (chars.take n) := by
  refine ⟨?_, fun c mem => h.2 c (List.mem_of_mem_take mem)⟩
  rw [Ne, List.take_eq_nil_iff, not_or]
  exact ⟨Nat.ne_of_gt pos, h.1⟩

theorem IsDigits.drop {chars : List Char} (h : IsDigits chars) {n : Nat}
    (short : n < chars.length) : IsDigits (chars.drop n) := by
  refine ⟨?_, fun c mem => h.2 c (List.mem_of_mem_drop mem)⟩
  rw [Ne, List.drop_eq_nil_iff, Nat.not_le]
  exact short

/-- The digits of a number have no leading zero, unless the number is zero. -/
theorem isLeading_toDigits (n : Nat) : IsLeading (Nat.toDigits 10 n) := by
  rcases Nat.eq_zero_or_pos n with rfl | pos
  · exact .inl rfl
  · exact .inr ⟨isDigits_toDigits n, head?_toDigits_ne pos⟩

theorem IsLeading.take {chars : List Char} (h : IsLeading chars) {n : Nat} (pos : 0 < n) :
    IsLeading (chars.take n) := by
  rcases h with rfl | ⟨digits, noZero⟩
  · exact .inl (List.take_of_length_le pos)
  · refine .inr ⟨digits.take pos, ?_⟩
    rwa [List.head?_take, if_neg (Nat.ne_of_gt pos)]

/-! ### First bytes -/

theorem IsDigits.ofChars_eq_cons {chars : List Char} (h : IsDigits chars) :
    ∃ byte more, Utf8.ofChars chars = byte :: more ∧ Ascii.isDigit byte = true := by
  obtain ⟨c, more, rfl⟩ := List.exists_cons_of_ne_nil h.1
  obtain ⟨encoded, isDigit, -⟩ := encode_digit (h.2 c List.mem_cons_self)
  rw [Utf8.ofChars_cons, encoded]
  exact ⟨_, _, rfl, isDigit⟩

theorem IsMagnitude.ofChars_eq_cons {chars : List Char} (h : IsMagnitude chars) :
    ∃ byte more, Utf8.ofChars chars = byte :: more ∧ Ascii.isDigit byte = true := by
  obtain ⟨leading, fraction, exponent, isLeading, -, -, rfl⟩ := h
  have digits : IsDigits leading := by
    rcases isLeading with rfl | ⟨digits, -⟩
    · exact isDigits_toDigits 0
    · exact digits
  obtain ⟨byte, more, written, isDigit⟩ := digits.ofChars_eq_cons
  rw [List.append_assoc, Utf8.ofChars_append, written]
  exact ⟨_, _, rfl, isDigit⟩

/-- A numeral begins with a minus sign or a digit. -/
theorem IsGrammatical.ofChars_eq_cons {chars : List Char} (h : IsGrammatical chars) :
    ∃ byte more, Utf8.ofChars chars = byte :: more ∧
      (byte = Ascii.minus || Ascii.isDigit byte) = true := by
  obtain ⟨sign, magnitude, rfl | rfl, isMagnitude, rfl⟩ := h
  · obtain ⟨byte, more, written, isDigit⟩ := isMagnitude.ofChars_eq_cons
    exact ⟨byte, more, written, by rw [isDigit, Bool.or_true]⟩
  · exact ⟨Ascii.minus, _, rfl, rfl⟩

/-! ### Arrangements of digits -/

section Arrangements

variable {digits : List Char}

/-- A whole number, with a zero behind its point. -/
theorem isMagnitude_whole (h : IsLeading digits) : IsMagnitude (digits ++ ".0".toList) := by
  have zero : IsDigits ['0'] := ⟨List.cons_ne_nil _ _, by simp⟩
  exact ⟨digits, ['.', '0'], [], h, .inr ⟨['0'], zero, rfl⟩, .inl rfl, (List.append_nil _).symm⟩

/-- A number with its point among its digits. -/
theorem isMagnitude_point (h : IsDigits digits) (leading : IsLeading digits) {n : Nat}
    (pos : 0 < n) (short : n < digits.length) :
    IsMagnitude (digits.take n ++ '.' :: digits.drop n) :=
  ⟨digits.take n, '.' :: digits.drop n, [], leading.take pos, .inr ⟨_, h.drop short, rfl⟩, .inl rfl,
    (List.append_nil _).symm⟩

/-- A number with its point in front of its digits. -/
theorem isMagnitude_fraction (h : IsDigits digits) : IsMagnitude ("0.".toList ++ digits) :=
  ⟨['0'], '.' :: digits, [], .inl rfl, .inr ⟨digits, h, rfl⟩, .inl rfl, (List.append_nil _).symm⟩

/-- A number with an exponent: its point stands behind the first digit, if there are more. -/
theorem isMagnitude_exponent (h : IsDigits digits) (leading : IsLeading digits) {sign : Char}
    (isSign : sign = '+' ∨ sign = '-') (n : Nat) :
    IsMagnitude (digits.take 1 ++ (if digits.length ≤ 1 then [] else '.' :: digits.drop 1) ++
      'e' :: sign :: Nat.toDigits 10 n) := by
  refine ⟨_, _, _, leading.take Nat.one_pos, ?_, .inr ⟨sign, _, isSign, isDigits_toDigits n, rfl⟩,
    rfl⟩
  split
  · exact .inl rfl
  · next long => exact .inr ⟨_, h.drop (Nat.not_le.1 long), rfl⟩

end Arrangements

end Numeral

/-! ### The search for the shortest decimal -/

namespace Shortest

open Numeral

/-- A grid whose steps fit between the value and the lower end of the interval has a point in
it. -/
theorem onGrid?_ne_none {i : Interval} {e : Nat} (pos : 0 < i.denominator)
    (below : i.low + i.denominator * Nat.pow 10 e < i.value) (above : i.value < i.high) :
    onGrid? i (.ofNat e) ≠ none := by
  have pow : Nat.pow 10 e = 10 ^ e := rfl
  rw [pow] at below
  have step_pos : 0 < i.denominator * 10 ^ e := Nat.mul_pos pos (Nat.pow_pos (by decide))
  have under := Nat.div_mul_le_self i.value (i.denominator * 10 ^ e)
  have beyond := Nat.lt_div_mul_add (a := i.value) step_pos
  have some_step : i.value / (i.denominator * 10 ^ e) ≠ 0 := by
    rw [Nat.div_ne_zero_iff]
    omega
  have low : i.low < i.value / (i.denominator * 10 ^ e) * (i.denominator * 10 ^ e) := by omega
  have high := Nat.lt_of_le_of_lt under above
  simp only [onGrid?, grid, pow, Nat.mul_one]
  split
  · next outside _ =>
    exact absurd outside (by simp [some_step, low, high, Nat.le_of_lt low, Nat.le_of_lt high])
  · exact Option.some_ne_none _
  · exact Option.some_ne_none _
  · split <;> exact Option.some_ne_none _

/-- Zero is no point of a grid that the search takes. -/
theorem digits_ne_zero_of_onGrid? {i : Interval} {exponent : Int} {d : Decimal}
    (h : onGrid? i exponent = some d) : d.digits ≠ 0 := by
  simp only [onGrid?] at h
  split at h
  · cases h
  · next inside _ =>
    obtain rfl := Option.some.inj h
    simp only [Bool.and_eq_true, decide_eq_true_eq] at inside
    exact inside.1
  · obtain rfl := Option.some.inj h
    exact Nat.succ_ne_zero _
  · next inside _ =>
    simp only [Bool.and_eq_true, decide_eq_true_eq] at inside
    split at h
    · obtain rfl := Option.some.inj h
      exact inside.1
    · obtain rfl := Option.some.inj h
      exact Nat.succ_ne_zero _

/-- If the search finds no point, it has been down all its grids. -/
theorem search_digits_ne_or (i : Interval) (fuel : Nat) (exponent : Int) :
    (search i fuel exponent).digits ≠ 0 ∨
      (search i fuel exponent).exponent = exponent - fuel ∧
        ∀ k < fuel, onGrid? i (exponent - k) = none := by
  induction fuel generalizing exponent with
  | zero => exact .inr ⟨by simp [search], fun k h => absurd h (Nat.not_lt_zero k)⟩
  | succ fuel ih =>
    rw [search]
    split
    · next d found => exact .inl (digits_ne_zero_of_onGrid? found)
    · next found =>
      refine (ih (exponent - 1)).imp_right fun ⟨last, nothing⟩ => ⟨by omega, fun k below => ?_⟩
      cases k with
      | zero => simpa using found
      | succ k =>
        have step : exponent - ((k + 1 : Nat) : Int) = exponent - 1 - k := by omega
        rw [step]
        exact nothing k (by omega)

/-- A grid finds a double if its steps are less than a quarter of the last place. -/
theorem onGrid?_interval_ne_none {x : Binary64} (some_digit : x.significand ≠ 0) {e places : Nat}
    (exponent : x.exponent = places) (fine : 4 * Nat.pow 10 e < 1 <<< places) :
    onGrid? (interval x) (.ofNat e) ≠ none := by
  have pow : Nat.pow 10 e = 10 ^ e := rfl
  have unit : 1 <<< places = 2 ^ places := by rw [Nat.shiftLeft_eq, Nat.one_mul]
  rw [pow, unit] at fine
  -- Counted in quarters of a unit, the value and the ends of its interval are whole numbers.
  have parts : (interval x).denominator = 4 ∧ (interval x).value = 4 * x.significand * 2 ^ places ∧
      (interval x).high = (4 * x.significand + 2) * 2 ^ places ∧
      (interval x).low ≤ (4 * x.significand - 1) * 2 ^ places := by
    have exponent : x.exponent = .ofNat places := exponent
    simp only [interval, exponent, unit, true_and]
    refine Nat.mul_le_mul_right _ ?_
    split <;> omega
  obtain ⟨denominator, value, high, low⟩ := parts
  have split : 4 * x.significand * 2 ^ places =
      (4 * x.significand - 1) * 2 ^ places + 2 ^ places := by
    rw [← Nat.succ_mul]
    congr 1
    omega
  refine onGrid?_ne_none ?_ ?_ ?_
  · omega
  · rw [denominator, value, pow]
    omega
  · rw [value, high, Nat.add_mul]
    omega

/-- Where no digit is found, the finest grid has steps of less than one, or the double is too large
to be written without an exponent. -/
theorem digits_ne_zero_or_fine {x : Binary64} (some_digit : x.significand ≠ 0) :
    (decimal x).digits ≠ 0 ∨ (decimal x).exponent ≤ 0 ∨ 16 ≤ (decimal x).exponent := by
  refine (search_digits_ne_or (interval x) 24 (coarse x)).imp_right fun ⟨last, nothing⟩ => ?_
  change (decimal x).exponent = _ at last
  -- In between, the finest of the grids looked at would have had a point, which it had not.
  refine Decidable.byContradiction fun between => ?_
  rw [not_or, Int.not_le, Int.not_le] at between
  obtain ⟨pos, small⟩ := between
  have bits : Nat.log2 x.significand ≤ 52 := by
    have below := x.canonical.1
    rw [Binary64.leastFull] at below
    have := (Nat.log2_lt some_digit (k := 53)).2 (by omega)
    omega
  -- This grid has the steps `10 ^ e`.
  obtain ⟨e, same⟩ := Int.eq_ofNat_of_zero_le (a := (decimal x).exponent + 1) (by omega)
  have large : (4 * e + 3 : Int) ≤ x.exponent := by
    rw [coarse] at last
    omega
  obtain ⟨places, exponent⟩ := Int.eq_ofNat_of_zero_le (a := x.exponent) (by omega)
  have fine : 4 * Nat.pow 10 e < 1 <<< places := by
    rw [Nat.shiftLeft_eq, Nat.one_mul]
    calc 4 * 10 ^ e ≤ 4 * 16 ^ e := Nat.mul_le_mul_left 4 (Nat.pow_le_pow_left (by decide) e)
      _ = 2 ^ (4 * e + 2) := by
        rw [Nat.pow_add, Nat.pow_mul, Nat.mul_comm]
      _ < 2 ^ places := Nat.pow_lt_pow_right (by decide) (by omega)
  have hit := nothing 23 (by decide)
  have grid : coarse x - (23 : Nat) = .ofNat e := by
    change coarse x - 23 = e
    omega
  rw [grid] at hit
  exact onGrid?_interval_ne_none some_digit exponent fine hit

/-- The whole number of a double is written with its zeros only if it has other digits. -/
theorem isLeading_zeros {x : Binary64} (some_digit : x.significand ≠ 0)
    (whole : 0 ≤ (decimal x).exponent)
    (short : (Nat.toDigits 10 (decimal x).digits).length + (decimal x).exponent ≤ 16) :
    IsLeading (Nat.toDigits 10 (decimal x).digits ++
      List.replicate (decimal x).exponent.toNat '0') := by
  have digits := isDigits_toDigits (decimal x).digits
  rcases digits_ne_zero_or_fine some_digit with some_digit | fine | coarse
  · refine .inr ⟨digits.append_zeros _, ?_⟩
    rw [List.head?_append, List.head?_eq_some_head digits.1, Option.some_or,
      ← List.head?_eq_some_head digits.1]
    exact head?_toDigits_ne (Nat.pos_of_ne_zero some_digit)
  · have none : (decimal x).exponent = 0 := Int.le_antisymm fine whole
    rw [none]
    simpa using isLeading_toDigits _
  · have some_digit := List.length_pos_iff.2 digits.1
    omega

/-- However the digits of a double are arranged, they make up a numeral. -/
theorem isMagnitude_text {x : Binary64} (some_digit : x.significand ≠ 0) :
    IsMagnitude (decimal x).text.toList := by
  have digits := isDigits_toDigits (decimal x).digits
  have leading := isLeading_toDigits (decimal x).digits
  simp only [Decimal.text, Bool.and_eq_true, decide_eq_true_eq]
  -- There are four places for the point: behind the digits, among them, in front of them, and with
  -- an exponent.
  split
  · next whole =>
    simp only [String.toList_append, String.toList_ofList]
    exact isMagnitude_whole (isLeading_zeros some_digit whole.1 whole.2)
  · next whole =>
    split
    · next within =>
      rw [String.toList_ofList]
      exact isMagnitude_point digits leading (by omega) (by omega)
    · split
      · simp only [String.toList_append, String.toList_ofList]
        exact isMagnitude_fraction (digits.zeros_append _)
      · have number (n : Nat) : (toString n).toList = Nat.toDigits 10 n := by
          rw [Nat.toString_eq_ofList_toDigits, String.toList_ofList]
        have signed (p : Prop) [Decidable p] : ∃ sign, (sign = '+' ∨ sign = '-') ∧
            (if p then "-" else "+").toList = [sign] := by
          split
          · exact ⟨'-', .inr rfl, rfl⟩
          · exact ⟨'+', .inl rfl, rfl⟩
        obtain ⟨sign, isSign, same⟩ := signed
          ((Nat.toDigits 10 (decimal x).digits).length + (decimal x).exponent - 1 < 0)
        simp only [String.toList_append, String.toList_ofList, number, same]
        simpa using isMagnitude_exponent digits leading isSign _

end Shortest

/-- **Every number is written as a numeral.** -/
theorem Number.isGrammatical_text (value : Number) :
    Numeral.IsGrammatical value.text.toList := by
  have whole (n : Nat) : Numeral.IsMagnitude (toString n).toList := by
    rw [Nat.toString_eq_ofList_toDigits, String.toList_ofList]
    exact ⟨_, [], [], Numeral.isLeading_toDigits n, .inl rfl, .inl rfl, by simp⟩
  cases value with
  | unsigned value => exact ⟨[], _, .inl rfl, whole _, rfl⟩
  | negative predecessor =>
    refine ⟨['-'], _, .inr rfl, whole (predecessor.val + 1), ?_⟩
    rw [Number.text, String.toList_append]
    rfl
  | float value =>
    have magnitude : Numeral.IsMagnitude
        (if value.isZero then "0.0" else (Shortest.decimal value).text).toList := by
      split
      · exact Numeral.isMagnitude_whole (.inl rfl)
      · next zero => exact Shortest.isMagnitude_text (by simpa [Binary64.isZero] using zero)
    rw [Number.text, Shortest.text]
    split
    · refine ⟨['-'], _, .inr rfl, magnitude, ?_⟩
      rw [String.toList_append]
      rfl
    · exact ⟨[], _, .inl rfl, magnitude, rfl⟩

/-- A written number begins with a minus sign or a digit. -/
theorem Number.encode_text_eq_cons (value : Number) :
    ∃ byte more, Utf8.encode value.text = byte :: more ∧
      (byte = Ascii.minus || Ascii.isDigit byte) = true :=
  value.isGrammatical_text.ofChars_eq_cons

end Subscription
