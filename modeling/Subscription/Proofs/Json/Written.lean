import Subscription.Json.Printer
import Subscription.Proofs.Text.Characters

/-!
# The characters of written values

Outside its strings a written value has few kinds of characters: numbers consist of digits, signs, a
point and the mark of an exponent (`Number.isNumeral_text`). Inside a string each character
stands for itself, or is escaped by a letter or by its code point (`Json.escape_cases`), so a quote
stands only where the text has one.
-/

namespace Subscription

/-! ### Numbers -/

/-- Whether a character may be part of a written number. -/
def isNumeral (c : Char) : Bool := c.isDigit || c ∈ ['-', '+', '.', 'e']

section Numerals

private theorem isNumeral_digits (n : Nat) : ∀ c ∈ Nat.toDigits 10 n, isNumeral c = true := by
  intro c mem
  rw [isNumeral, Nat.isDigit_of_mem_toDigits (by decide) (by decide) mem]
  rfl

private theorem isNumeral_toString (n : Nat) : ∀ c ∈ (toString n).toList, isNumeral c = true := by
  rw [show toString n = String.ofList (Nat.toDigits 10 n) from rfl, String.toList_ofList]
  exact isNumeral_digits n

private theorem isNumeral_zeros (n : Nat) : ∀ c ∈ List.replicate n '0', isNumeral c = true := by
  intro c mem
  rw [List.eq_of_mem_replicate mem]
  decide

theorem Shortest.Decimal.isNumeral_text (d : Decimal) :
    ∀ c ∈ d.text.toList, isNumeral c = true := by
  have digits := isNumeral_digits d.digits
  have front (n : Nat) : ∀ c ∈ (Nat.toDigits 10 d.digits).take n, isNumeral c = true :=
    fun c mem => digits c (List.mem_of_mem_take mem)
  have back (n : Nat) : ∀ c ∈ (Nat.toDigits 10 d.digits).drop n, isNumeral c = true :=
    fun c mem => digits c (List.mem_of_mem_drop mem)
  simp only [text]
  split
  · simp only [String.toList_append, String.toList_ofList, List.forall_mem_append]
    exact ⟨⟨digits, isNumeral_zeros _⟩, by decide⟩
  split
  · simp only [String.toList_ofList, List.forall_mem_append, List.forall_mem_cons]
    exact ⟨front _, by decide, back _⟩
  split
  · simp only [String.toList_append, String.toList_ofList, List.forall_mem_append]
    exact ⟨by decide, isNumeral_zeros _, digits⟩
  · simp only [String.toList_append, String.toList_ofList, List.forall_mem_append]
    refine ⟨⟨⟨⟨front 1, ?fraction⟩, by decide⟩, ?sign⟩, isNumeral_toString _⟩
    case fraction =>
      split
      · exact List.forall_mem_nil _
      · exact List.forall_mem_cons.2 ⟨by decide, back 1⟩
    case sign => split <;> decide

theorem Shortest.isNumeral_text (x : Binary64) :
    ∀ c ∈ (Shortest.text x).toList, isNumeral c = true := by
  have magnitude : ∀ c ∈ (if x.isZero then "0.0" else (decimal x).text).toList,
      isNumeral c = true := by
    split
    · decide
    · exact Decimal.isNumeral_text _
  rw [Shortest.text]
  split
  · rw [String.toList_append, List.forall_mem_append]
    exact ⟨by decide, magnitude⟩
  · exact magnitude

/-- Numbers are written in characters of their own. -/
theorem Number.isNumeral_text (value : Number) :
    ∀ c ∈ value.text.toList, isNumeral c = true := by
  intro c mem
  cases value with
  | unsigned value => exact isNumeral_toString _ c mem
  | negative predecessor =>
    rw [Number.text, String.toList_append, List.mem_append] at mem
    rcases mem with sign | digits
    · obtain rfl : c = '-' := by simpa using sign
      decide
    · exact isNumeral_toString _ c digits
  | float value => exact Shortest.isNumeral_text value c mem

end Numerals

/-! ### Strings -/

namespace Json

/-- The letters that escape a character, and what they stand for. -/
def escapeLetters : List (Char × Char) :=
  [('"', '"'), ('\\', '\\'), ('b', '\x08'), ('t', '\t'), ('n', '\n'), ('f', '\x0c'), ('r', '\r')]

/-- A character stands for itself, is escaped by a letter, or is written by its code point. -/
theorem escape_cases (c : Char) :
    (escape c = [c] ∧ c ≠ '"' ∧ c ≠ '\\' ∧ 0x20 ≤ c.toNat) ∨
    (∃ letter, escape c = ['\\', letter] ∧ (letter, c) ∈ escapeLetters) ∨
    (c.toNat < 0x20 ∧ c ≠ '"' ∧
      escape c = ['\\', 'u', '0', '0', hexDigit (c.toNat / 16), hexDigit (c.toNat % 16)]) := by
  by_cases lettered : c ∈ escapeLetters.map Prod.snd
  · obtain ⟨entry, mem, rfl⟩ := List.mem_map.1 lettered
    have all : ∀ entry ∈ escapeLetters, escape entry.2 = ['\\', entry.1] := by decide
    exact .inr (.inl ⟨entry.1, all entry mem, mem⟩)
  · simp only [escapeLetters, List.map_cons, List.map_nil, List.mem_cons, List.not_mem_nil,
      or_false, not_or] at lettered
    obtain ⟨quote, backslash, backspace, tab, newLine, formFeed, back⟩ := lettered
    simp only [escape, quote, backslash, backspace, tab, newLine, formFeed, back, if_false]
    by_cases control : c.toNat < 0x20
    · exact .inr (.inr ⟨control, quote, if_pos control⟩)
    · exact .inl ⟨if_neg control, quote, backslash, Nat.le_of_not_lt control⟩

theorem hexDigit_ne_quote {n : Nat} (h : n < 16) : hexDigit n ≠ '"' := by
  have all : ∀ n < 16, hexDigit n ≠ '"' := by decide
  exact all n h

/-- Only a quote is written with a quote. -/
theorem quote_notMem_escape {c : Char} (h : c ≠ '"') : '"' ∉ escape c := by
  rcases escape_cases c with ⟨same, -⟩ | ⟨letter, same, mem⟩ | ⟨control, -, same⟩
  · simp [same, Ne.symm h]
  · have all : ∀ entry ∈ escapeLetters, entry.2 ≠ '"' → entry.1 ≠ '"' := by decide
    simp [same, (all _ mem h).symm]
  · have high := hexDigit_ne_quote (n := c.toNat / 16) (by omega)
    have low := hexDigit_ne_quote (n := c.toNat % 16) (by omega)
    simp [same, high.symm, low.symm]

theorem escape_ne_nil (c : Char) : escape c ≠ [] := by
  rcases escape_cases c with ⟨same, -⟩ | ⟨letter, same, -⟩ | ⟨-, -, same⟩ <;> simp [same]

end Json

end Subscription
