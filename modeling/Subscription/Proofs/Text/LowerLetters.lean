import Subscription.Text.LowerCase

/-!
# Letters in lower case

The lower-case form of Latin letters is the form letter by letter (`lowerCase_of_letters`), and no
text but the empty one has an empty lower-case form (`lowerCase_eq_empty_iff`).
-/

namespace Subscription

namespace LowerCase

theorem ofChar_ne_nil (c : Char) : ofChar c ≠ [] := by
  simp only [ofChar]
  split
  · exact List.cons_ne_nil _ _
  · split <;> exact List.cons_ne_nil _ _

theorem toNat_lt_of_isAlpha {c : Char} (h : c.isAlpha) : c.toNat < 128 := by
  rcases Bool.or_eq_true_iff.1 h with upper | lower
  · have last : c.val ≤ 'Z'.val := (of_decide_eq_true upper).2
    exact Nat.lt_of_le_of_lt (UInt32.le_iff_toNat_le.1 last) (by decide)
  · have last : c.val ≤ 'z'.val := of_decide_eq_true (Bool.and_eq_true_iff.1 lower).2
    exact Nat.lt_of_le_of_lt (UInt32.le_iff_toNat_le.1 last) (by decide)

theorem ofChar_of_isAlpha {c : Char} (h : c.isAlpha) : ofChar c = [c.toLower] := by
  have table : ∀ n < 128, (Char.ofNat n).isAlpha →
      ofChar (Char.ofNat n) = [(Char.ofNat n).toLower] := by decide +kernel
  have entry := table c.toNat (toNat_lt_of_isAlpha h)
  rw [Char.ofNat_toNat] at entry
  exact entry h

theorem chars_eq_nil_iff {front rest : List Char} : chars front rest = [] ↔ rest = [] := by
  cases rest with
  | nil => exact iff_of_true rfl rfl
  | cons c rest =>
    refine iff_of_false ?_ (List.cons_ne_nil _ _)
    rw [chars, List.append_eq_nil_iff]
    refine mt And.left ?_
    split
    · exact List.cons_ne_nil _ _
    · exact ofChar_ne_nil c

theorem chars_of_letters {letters : List Char} (h : ∀ c ∈ letters, c.isAlpha) (front : List Char) :
    chars front letters = letters.map Char.toLower := by
  induction letters generalizing front with
  | nil => rfl
  | cons c rest ih =>
    obtain ⟨letter, others⟩ := List.forall_mem_cons.1 h
    have latin : c ≠ sigma := by
      rintro rfl
      exact absurd letter (by decide)
    simp [chars, latin, ofChar_of_isAlpha letter, ih others]

end LowerCase

theorem lowerCase_of_letters {letters : List Char} (h : ∀ c ∈ letters, c.isAlpha) :
    lowerCase (String.ofList letters) = String.ofList (letters.map Char.toLower) := by
  rw [lowerCase, String.toList_ofList, LowerCase.chars_of_letters h]

theorem lowerCase_eq_empty_iff {text : String} : lowerCase text = "" ↔ text = "" := by
  rw [lowerCase, String.ofList_eq_empty_iff, LowerCase.chars_eq_nil_iff, String.toList_eq_nil_iff]

end Subscription
