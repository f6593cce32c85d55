import Mathlib.Tactic.SplitIfs
import Subscription.Text.Blank
import Subscription.Text.Quoted

/-!
# What stands for itself between quotes

The tables of characters that are escaped begin beyond ASCII, but for its controls; so the visible
characters of ASCII stand for themselves between quotes, the quote and the backslash excepted. A
blank stands for itself only if it is the space.
-/

namespace Subscription

/-- A blank other than the space does not show as itself. -/
theorem isPrintable_of_isBlank {c : Char} (blank : isBlank c = true) (other : c ≠ ' ') :
    isPrintable c = false := by
  have covered : ∀ range ∈ blanks, range = (0x20, 0x20) ∨
      ∃ wider ∈ unprintables, wider.1 ≤ range.1 ∧ range.2 ≤ wider.2 := by decide +kernel
  simp only [isBlank, CodeRanges.contains, List.any_eq_true, Bool.and_eq_true,
    decide_eq_true_eq] at blank
  obtain ⟨range, mem, low, high⟩ := blank
  obtain rfl | ⟨wider, mem, low', high'⟩ := covered range mem
  · exact absurd (Char.toNat_inj.1 (Nat.le_antisymm high low : c.toNat = ' '.toNat)) other
  · have inside : unprintables.contains c = true := by
      simp only [CodeRanges.contains, List.any_eq_true, Bool.and_eq_true, decide_eq_true_eq]
      exact ⟨wider, mem, Nat.le_trans low' low, Nat.le_trans high high'⟩
    simp [isPrintable, inside]

/-- The visible characters of ASCII but the quote and the backslash stand for themselves. -/
def Quoted.isPlain (c : Char) : Bool :=
  0x20 ≤ c.toNat && c.toNat < 0x7F && c != '"' && c != '\\'

theorem CodeRanges.contains_of_isPlain {ranges : CodeRanges}
    (h : ∀ range ∈ ranges, range.2 < 0x20 ∨ 0x7F ≤ range.1) {c : Char}
    (plain : Quoted.isPlain c = true) : ranges.contains c = false := by
  simp only [Quoted.isPlain, Bool.and_eq_true, decide_eq_true_eq] at plain
  rw [← Bool.not_eq_true, contains, List.any_eq_true]
  rintro ⟨range, mem, inside⟩
  simp only [Bool.and_eq_true, decide_eq_true_eq] at inside
  have outside := h range mem
  omega

theorem Quoted.escape_of_isPlain {c : Char} (h : isPlain c = true) : escape c = [c] := by
  have shown : isPrintable c = true := by
    rw [isPrintable, CodeRanges.contains_of_isPlain (by decide +kernel) h,
      CodeRanges.contains_of_isPlain (by decide +kernel) h]
    rfl
  have single : isCombining c = false := by
    rw [isCombining, isNonspacingMark, CodeRanges.contains_of_isPlain (by decide +kernel) h,
      CodeRanges.contains_of_isPlain (by decide +kernel) h]
    rfl
  have visible (other : Char) (control : isPlain other = false) : c ≠ other := by
    rintro rfl
    exact Bool.false_ne_true (control.symm.trans h)
  simp only [escape, visible '\x00' (by decide), visible '\t' (by decide), visible '\n' (by decide),
    visible '\r' (by decide), visible '"' (by decide), visible '\\' (by decide), shown, single]
  rfl

/-- A text of plain characters stands between quotes as it is. -/
theorem Quoted.flatMap_escape_of_isPlain {text : List Char} (h : ∀ c ∈ text, isPlain c = true) :
    text.flatMap escape = text := by
  induction text with
  | nil => rfl
  | cons c rest ih =>
    obtain ⟨first, others⟩ := List.forall_mem_cons.1 h
    rw [List.flatMap_cons, escape_of_isPlain first, ih others, List.singleton_append]

theorem toList_quote_of_isPlain {text : String}
    (h : ∀ c ∈ text.toList, Quoted.isPlain c = true) :
    (quote text).toList = '"' :: (text.toList ++ ['"']) := by
  rw [quote, String.toList_ofList, Quoted.chars, Quoted.flatMap_escape_of_isPlain h,
    List.cons_append]

/-- No character gets lost between quotes. -/
theorem Quoted.escape_ne_nil (c : Char) : escape c ≠ [] := by
  unfold escape codePoint
  split_ifs <;> simp

end Subscription
