import Mathlib.Tactic.SplitIfs
import Subscription.Text.Utf8

/-!
# The order of texts and the order of their bytes

Texts are compared character by character, and their UTF-8 bytes byte by byte. Both orders are the
same (`Utf8.encode_le_encode_iff`): of two different characters the lesser has the lesser byte in
the first place where their bytes differ, and no character's bytes begin those of another.
-/

namespace Subscription

namespace Utf8

/-- What follows two characters does not matter for the order of their bytes. -/
theorem utf8EncodeChar_append_lt {c d : Char} (h : c < d) (rest rest' : List UInt8) :
    String.utf8EncodeChar c ++ rest < String.utf8EncodeChar d ++ rest' := by
  have below : c.val.toNat < d.val.toNat := h
  have bound : d.val.toNat < 0x110000 := by
    have valid := d.valid
    simp only [UInt32.isValidChar, Nat.isValidChar] at valid
    omega
  simp only [String.utf8EncodeChar]
  generalize c.val.toNat = m at below
  generalize d.val.toNat = n at below bound
  have byte {k : Nat} (hk : k < 256) : (UInt8.ofNat k).toNat = k := by
    rw [UInt8.toNat_ofNat', Nat.mod_eq_of_lt hk]
  -- Each byte but the first holds one digit to the base 64.
  have second (k : Nat) : k / 4096 = k / 64 / 64 := by omega
  have third (k : Nat) : k / 262144 = k / 64 / 64 / 64 := by omega
  split_ifs <;>
    simp (disch := omega) only [List.cons_append, List.nil_append, List.cons_lt_cons_iff,
      UInt8.lt_iff_toNat_lt, ← UInt8.toNat_inj, byte, second, third] <;>
    omega

theorem encode_lt_encode {a b : List Char} (h : a < b) :
    a.flatMap String.utf8EncodeChar < b.flatMap String.utf8EncodeChar := by
  induction h with
  | @nil d rest =>
    rw [List.flatMap_cons]
    have something : String.utf8EncodeChar d ≠ [] := String.utf8EncodeChar_ne_nil
    obtain ⟨byte, others, same⟩ := List.exists_cons_of_ne_nil something
    rw [same]
    exact .nil
  | cons _ ih =>
    rw [List.flatMap_cons, List.flatMap_cons]
    exact List.append_left_lt ih
  | rel first =>
    rw [List.flatMap_cons, List.flatMap_cons]
    exact utf8EncodeChar_append_lt first _ _

/-- Texts are in the order of their bytes. -/
theorem encode_le_encode_iff (a b : String) : encode a ≤ encode b ↔ a ≤ b := by
  have strict {a b : String} (h : a < b) : encode a < encode b :=
    encode_lt_encode h
  constructor
  · intro le
    exact String.not_lt.1 fun lt => absurd le (List.not_le.2 (strict lt))
  · intro le
    by_cases same : a = b
    · rw [same]
      exact List.le_refl _
    · exact List.le_of_lt (strict (Std.lt_of_le_of_ne le same))

end Utf8

end Subscription
