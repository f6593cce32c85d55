import Subscription.Json.Numeral
import Subscription.Json.Printer
import Subscription.Proofs.Text.CharBytes

/-!
# Whole numbers are read as written

A written whole number is a numeral of digits alone, behind a minus sign if it is negative. Its
digits fit 64 bits and have no leading zero, so `Numeral.read` takes all of them and stops behind
them, unless what follows goes on with the numeral (`Numeral.read_encode_text`).
-/

namespace Subscription

/-- A number of the classes that hold whole numbers. -/
def Number.IsWhole : Number → Prop
  | .float _ => False
  | _ => True

namespace Numeral

/-- Whether a numeral of digits alone ends in front of these bytes. -/
def endsBefore : List UInt8 → Bool
  | [] => true
  | byte :: _ => !(Ascii.isDigit byte || byte == Ascii.point || isExponentMark byte)

theorem startsWithDigit_of_endsBefore {rest : List UInt8} (h : endsBefore rest = true) :
    startsWithDigit rest = false := by
  cases rest with
  | nil => rfl
  | cons byte rest =>
    simp only [endsBefore, Bool.not_eq_true', Bool.or_eq_false_iff] at h
    exact h.1.1

/-! ### Digits -/

theorem toNat_of_isDigit {c : Char} (h : c.isDigit = true) : 0x30 ≤ c.toNat ∧ c.toNat ≤ 0x39 := by
  simpa [Char.isDigit, UInt32.le_iff_toNat_le] using h

/-- A digit is one byte, which is that digit. -/
theorem encode_digit {c : Char} (h : c.isDigit = true) :
    String.utf8EncodeChar c = [UInt8.ofNat c.toNat] ∧
      Ascii.isDigit (UInt8.ofNat c.toNat) = true ∧
      Ascii.digit (UInt8.ofNat c.toNat) = c.toNat - '0'.toNat := by
  obtain ⟨low, high⟩ := toNat_of_isDigit h
  have byte : (UInt8.ofNat c.toNat).toNat = c.toNat := by
    rw [UInt8.toNat_ofNat', Nat.mod_eq_of_lt (by omega)]
  refine ⟨Utf8.encodeChar_of_ascii (by omega), ?_, ?_⟩
  · simp only [Ascii.isDigit, Bool.and_eq_true, decide_eq_true_eq, UInt8.le_iff_toNat_le, byte]
    exact ⟨low, high⟩
  · rw [Ascii.digit, byte]
    rfl

/-- No other digit has the byte of a zero. -/
theorem encode_digit_ne_zero {c : Char} (h : c.isDigit = true) (other : c ≠ '0') :
    UInt8.ofNat c.toNat ≠ Ascii.zero := by
  intro same
  have inside : UInt8.ofNat '0'.toNat ∈ String.utf8EncodeChar c := by
    rw [(encode_digit h).1, same]
    decide
  exact other (Utf8.eq_of_ofNat_mem_encodeChar (by decide) inside)

/-- Further digits do not make a number less. -/
theorem le_ofDigitChars (digits : List Char) (value : Nat) :
    value ≤ Nat.ofDigitChars 10 digits value := by
  induction digits generalizing value with
  | nil => exact Nat.le_refl _
  | cons c digits ih =>
    rw [Nat.ofDigitChars_cons]
    exact Nat.le_trans (by omega) (ih _)

/-- Digits of a number that fits are all appended. -/
theorem significand_digits {digits : List Char} (h : ∀ c ∈ digits, c.isDigit = true) {value : Nat}
    (fits : Nat.ofDigitChars 10 digits value < UInt64.size) {rest : List UInt8}
    (stop : startsWithDigit rest = false) :
    significand value (Utf8.ofChars digits ++ rest) =
      (Nat.ofDigitChars 10 digits value, digits.length, rest) := by
  induction digits generalizing value with
  | nil =>
    cases rest with
    | nil => rfl
    | cons byte rest =>
      rw [startsWithDigit] at stop
      simp [Utf8.ofChars, significand, stop]
  | cons c digits ih =>
    obtain ⟨first, others⟩ := List.forall_mem_cons.1 h
    obtain ⟨encoded, isDigit, digit⟩ := encode_digit first
    rw [Nat.ofDigitChars_cons, Nat.mul_comm] at fits
    have below := Nat.lt_of_le_of_lt (le_ofDigitChars digits _) fits
    rw [Utf8.ofChars_cons, encoded, List.append_assoc, List.singleton_append, significand, isDigit,
      digit, if_pos ⟨rfl, below⟩, ih others fits, Nat.ofDigitChars_cons, Nat.mul_comm 10 value,
      List.length_cons]

/-- Only zero begins with a zero. -/
theorem head?_toDigits_ne {n : Nat} (h : 0 < n) : (Nat.toDigits 10 n).head? ≠ some '0' := by
  induction n using Nat.strongRecOn with
  | ind n ih =>
    rcases Nat.lt_or_ge n 10 with small | large
    · have all : ∀ n < 10, 0 < n → (Nat.toDigits 10 n).head? ≠ some '0' := by decide
      exact all n small h
    · have front := ih (n / 10) (by omega) (by omega)
      rw [Nat.toDigits_of_base_le (by decide) large]
      cases digits : Nat.toDigits 10 (n / 10) with
      | nil => exact absurd digits Nat.toDigits_ne_nil
      | cons c more => rwa [digits] at front

/-- The digits of a number are read as that number. -/
theorem unsigned_toDigits (negative : Bool) {n : Nat} (fits : n < UInt64.size) {rest : List UInt8}
    (stop : endsBefore rest = true) :
    unsigned negative (Utf8.ofChars (Nat.toDigits 10 n) ++ rest) = whole negative n rest := by
  have noDigit := startsWithDigit_of_endsBefore stop
  have ends : afterWhole negative n rest = whole negative n rest := by
    cases rest with
    | nil => rfl
    | cons byte rest =>
      simp only [endsBefore, Bool.not_eq_true', Bool.or_eq_false_iff, beq_eq_false_iff_ne] at stop
      simp [afterWhole, stop.1.2, stop.2]
  -- A zero stands alone; any other number has no zero in front, so its digits are all taken.
  rcases Nat.eq_zero_or_pos n with rfl | pos
  · have zero : Utf8.ofChars (Nat.toDigits 10 0) = [Ascii.zero] := by decide
    rw [zero, List.singleton_append, unsigned, if_pos rfl, noDigit]
    exact ends
  · have value := Nat.ofDigitChars_ten_toDigits (n := n)
    have digits : ∀ c ∈ Nat.toDigits 10 n, c.isDigit = true :=
      fun c => Nat.isDigit_of_mem_toDigits (by decide) (by decide)
    have noZero := head?_toDigits_ne pos
    cases written : Nat.toDigits 10 n with
    | nil => exact absurd written Nat.toDigits_ne_nil
    | cons c more =>
      rw [written] at value digits noZero
      obtain ⟨first, others⟩ := List.forall_mem_cons.1 digits
      obtain ⟨encoded, isDigit, digit⟩ := encode_digit first
      have other := encode_digit_ne_zero first fun same => noZero (congrArg some same)
      rw [Nat.ofDigitChars_cons, Nat.mul_zero, Nat.zero_add] at value
      have read := significand_digits others (value ▸ fits) noDigit
      rw [Utf8.ofChars_cons, encoded, List.append_assoc, List.singleton_append, unsigned,
        if_neg other, if_pos isDigit, digit, read, value]
      simp only [noDigit]
      exact ends

/-! ### Whole numbers -/

theorem encode_unsigned (value : UInt64) :
    Utf8.encode (Number.unsigned value).text = Utf8.ofChars (Nat.toDigits 10 value.toNat) := by
  rw [Number.text, Nat.toString_eq_ofList_toDigits, Utf8.encode_ofList]

theorem encode_negative (predecessor : Fin Number.negativeCount) :
    Utf8.encode (Number.negative predecessor).text =
      Ascii.minus :: Utf8.ofChars (Nat.toDigits 10 (predecessor.val + 1)) := by
  have sign : Utf8.ofChars "-".toList = [Ascii.minus] := by decide
  rw [Number.text, Utf8.encode_eq, String.toList_append, Utf8.ofChars_append, sign,
    Nat.toString_eq_ofList_toDigits, String.toList_ofList, List.singleton_append]

/-- A written whole number is read back, and nothing behind it. -/
theorem read_encode_text {value : Number} (isWhole : value.IsWhole) {rest : List UInt8}
    (stop : endsBefore rest = true) :
    read (Utf8.encode value.text ++ rest) = .ok (value, rest) := by
  cases value with
  | float => exact isWhole.elim
  | unsigned value =>
    have digits := unsigned_toDigits false value.toNat_lt_size stop
    have noMinus (more : List UInt8) :
        Utf8.ofChars (Nat.toDigits 10 value.toNat) ++ rest ≠ Ascii.minus :: more := by
      intro same
      rw [same] at digits
      cases digits
    rw [encode_unsigned, read.eq_2 _ noMinus, digits]
    simp [whole]
  | negative predecessor =>
    have fits : predecessor.val + 1 < UInt64.size := by
      have := predecessor.isLt
      simp only [Number.negativeCount] at this
      rw [UInt64.size]
      omega
    have minus (more : List UInt8) : read (Ascii.minus :: more) = unsigned true more := rfl
    rw [encode_negative, List.cons_append, minus, unsigned_toDigits true fits stop]
    simp [whole, predecessor.isLt]

end Numeral

end Subscription
