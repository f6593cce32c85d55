import Mathlib.Tactic.SplitIfs
import Subscription.Text.Utf8

/-!
# The bytes of characters

A character of ASCII is one byte, its code point; every other character has bytes beyond ASCII only.
-/

namespace Subscription

namespace Utf8

/-- The UTF-8 bytes of characters. -/
def ofChars (chars : List Char) : List UInt8 := chars.flatMap String.utf8EncodeChar

theorem encode_eq (text : String) : encode text = ofChars text.toList := rfl

@[simp] theorem encode_ofList (chars : List Char) :
    encode (String.ofList chars) = ofChars chars := by
  rw [encode_eq, String.toList_ofList]

@[simp] theorem ofChars_nil : ofChars [] = [] := rfl

theorem ofChars_cons (c : Char) (chars : List Char) :
    ofChars (c :: chars) = String.utf8EncodeChar c ++ ofChars chars := rfl

theorem ofChars_append (front rest : List Char) :
    ofChars (front ++ rest) = ofChars front ++ ofChars rest := List.flatMap_append

theorem length_le_ofChars (chars : List Char) : chars.length ≤ (ofChars chars).length := by
  induction chars with
  | nil => exact Nat.le_refl _
  | cons c chars ih =>
    have some_byte := List.length_pos_iff.2 (String.utf8EncodeChar_ne_nil (c := c))
    rw [ofChars_cons, List.length_append, List.length_cons]
    omega

theorem encodeChar_of_ascii {c : Char} (h : c.toNat < 0x80) :
    String.utf8EncodeChar c = [UInt8.ofNat c.toNat] := by
  have low : c.val.toNat ≤ 127 := Nat.le_of_lt_succ h
  simp only [String.utf8EncodeChar, low, if_true]
  rfl

/-- A byte of ASCII among the bytes of a character is all there is of it. -/
theorem eq_of_mem_encodeChar {c : Char} {byte : UInt8} (mem : byte ∈ String.utf8EncodeChar c)
    (ascii : byte < 0x80) : c.toNat < 0x80 ∧ byte = UInt8.ofNat c.toNat := by
  by_cases one : c.toNat < 0x80
  · rw [encodeChar_of_ascii one, List.mem_singleton] at mem
    exact ⟨one, mem⟩
  · -- The bytes of a longer character are at least 128.
    have long : ¬c.val.toNat ≤ 127 := fun low => one (Nat.lt_succ_of_le low)
    have beyond {k : Nat} (low : 128 ≤ k) (high : k < 256) : ¬UInt8.ofNat k < 0x80 := by
      rw [UInt8.lt_iff_toNat_lt, UInt8.toNat_ofNat', Nat.mod_eq_of_lt high]
      exact Nat.not_lt.2 low
    simp only [String.utf8EncodeChar, long, if_false] at mem
    split_ifs at mem <;>
      (simp only [List.mem_cons, List.not_mem_nil, or_false] at mem
       rcases mem with rfl | rfl | rfl | rfl) <;>
      exact absurd ascii (beyond (by omega) (by omega))

/-- A character of ASCII is only found among its own bytes. -/
theorem eq_of_ofNat_mem_encodeChar {c d : Char} (ascii : d.toNat < 0x80)
    (mem : UInt8.ofNat d.toNat ∈ String.utf8EncodeChar c) : c = d := by
  have value {n : Nat} (small : n < 0x80) : (UInt8.ofNat n).toNat = n := by
    rw [UInt8.toNat_ofNat', Nat.mod_eq_of_lt (by omega)]
  have low : UInt8.ofNat d.toNat < 0x80 := by
    rw [UInt8.lt_iff_toNat_lt, value ascii]
    exact ascii
  obtain ⟨small, same⟩ := eq_of_mem_encodeChar mem low
  have numbers := congrArg UInt8.toNat same
  rw [value ascii, value small] at numbers
  exact (Char.toNat_inj.1 numbers).symm

end Utf8

end Subscription
