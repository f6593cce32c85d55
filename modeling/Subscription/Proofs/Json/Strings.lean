import Subscription.Json.Reader
import Subscription.Proofs.Json.Written
import Subscription.Proofs.Text.CharBytes

/-!
# Strings are read as written

A written string has a closing quote behind its characters, and each of them is read back in one
step: it stands for itself, as bytes that are neither quote nor backslash nor control, or it is
escaped by a letter or by its code point. So reading stops at the closing quote, whatever stands
behind it (`Reader.string_quoted`).
-/

namespace Subscription

namespace Reader

/-! ### One character at a time -/

/-- Bytes that stand for themselves within a string. -/
def isLiteral (byte : UInt8) : Bool :=
  byte != Ascii.quote && byte != Ascii.backslash && !(byte < 0x20)

variable {bytes content rest : List UInt8}

theorem stringBytes_literal {byte : UInt8} (literal : isLiteral byte = true)
    (h : stringBytes bytes = .ok (content, rest)) :
    stringBytes (byte :: bytes) = .ok (byte :: content, rest) := by
  simp only [isLiteral, Bool.and_eq_true, bne_iff_ne, Bool.not_eq_true', decide_eq_false_iff_not]
    at literal
  obtain ⟨⟨quote, backslash⟩, control⟩ := literal
  refine (stringBytes.eq_7 byte bytes quote (fun same _ => backslash same)
    (fun _ _ _ _ _ same _ => backslash same) (fun _ same _ => backslash same)
    (fun _ _ same _ => backslash same)).trans ?_
  rw [if_neg control, h]
  rfl

theorem stringBytes_literals {literals : List UInt8}
    (all : ∀ byte ∈ literals, isLiteral byte = true)
    (h : stringBytes bytes = .ok (content, rest)) :
    stringBytes (literals ++ bytes) = .ok (literals ++ content, rest) := by
  induction literals with
  | nil => exact h
  | cons byte literals ih =>
    obtain ⟨first, others⟩ := List.forall_mem_cons.1 all
    exact stringBytes_literal first (ih others)

/-- A character escaped by a letter. -/
theorem stringBytes_short {letter meant : UInt8} (other : letter ≠ Ascii.letterU)
    (short : shortEscape? letter = some meant) (h : stringBytes bytes = .ok (content, rest)) :
    stringBytes (Ascii.backslash :: letter :: bytes) = .ok (meant :: content, rest) := by
  refine (stringBytes.eq_6 letter bytes (fun _ _ _ _ _ same _ => other same) other).trans ?_
  rw [short, h]
  rfl

/-- A character written by its code point. -/
theorem stringBytes_unit {a b c d : UInt8} {unit : Nat} (read : unit? a b c d = some unit)
    (small : unit < 0xD800) (h : stringBytes bytes = .ok (content, rest)) :
    stringBytes (Ascii.backslash :: Ascii.letterU :: a :: b :: c :: d :: bytes) =
      .ok (String.utf8EncodeChar (Char.ofNat unit) ++ content, rest) := by
  have low : isLowSurrogate unit = false := by
    simp [isLowSurrogate]
    omega
  have high : isHighSurrogate unit = false := by
    simp [isHighSurrogate]
    omega
  refine (stringBytes.eq_4 a b c d bytes).trans ?_
  simp only [read, low, high, h]
  rfl

/-! ### A whole string -/

/-- The bytes of a character that is not escaped stand for themselves. -/
theorem isLiteral_of_mem_encodeChar {c : Char} (quote : c ≠ '"') (backslash : c ≠ '\\')
    (visible : 0x20 ≤ c.toNat) : ∀ byte ∈ String.utf8EncodeChar c, isLiteral byte = true := by
  intro byte mem
  simp only [isLiteral, Bool.and_eq_true, bne_iff_ne, Bool.not_eq_true', decide_eq_false_iff_not]
  refine ⟨⟨?_, ?_⟩, fun control => ?_⟩
  · rintro rfl
    exact quote (Utf8.eq_of_ofNat_mem_encodeChar (d := '"') (by decide) mem)
  · rintro rfl
    exact backslash (Utf8.eq_of_ofNat_mem_encodeChar (d := '\\') (by decide) mem)
  · have ascii : byte < 0x80 := Nat.lt_trans control (by decide)
    obtain ⟨small, rfl⟩ := Utf8.eq_of_mem_encodeChar mem ascii
    rw [UInt8.lt_iff_toNat_lt, UInt8.toNat_ofNat', Nat.mod_eq_of_lt (by omega)] at control
    exact absurd control (Nat.not_lt.2 visible)

/-- The bytes of a written character: its own, an escape by a letter, or one by its code point. -/
theorem ofChars_escape_cases (c : Char) :
    (Utf8.ofChars (Json.escape c) = String.utf8EncodeChar c ∧
      ∀ byte ∈ String.utf8EncodeChar c, isLiteral byte = true) ∨
    (∃ letter meant, Utf8.ofChars (Json.escape c) = [Ascii.backslash, letter] ∧
      letter ≠ Ascii.letterU ∧ shortEscape? letter = some meant ∧
      String.utf8EncodeChar c = [meant]) ∨
    ∃ high low, Utf8.ofChars (Json.escape c) =
        [Ascii.backslash, Ascii.letterU, Ascii.zero, Ascii.zero, high, low] ∧
      unit? Ascii.zero Ascii.zero high low = some c.toNat ∧ c.toNat < 0xD800 := by
  rcases Json.escape_cases c with ⟨same, quote, backslash, visible⟩ | ⟨letter, same, mem⟩ |
      ⟨control, -, same⟩
  · rw [same, Utf8.ofChars_cons, Utf8.ofChars_nil, List.append_nil]
    exact .inl ⟨rfl, isLiteral_of_mem_encodeChar quote backslash visible⟩
  · -- There are few letters of escapes, and few control characters: they are gone through.
    have all : ∀ entry ∈ Json.escapeLetters,
        Utf8.ofChars ['\\', entry.1] = [Ascii.backslash, UInt8.ofNat entry.1.toNat] ∧
        UInt8.ofNat entry.1.toNat ≠ Ascii.letterU ∧
        shortEscape? (UInt8.ofNat entry.1.toNat) = some (UInt8.ofNat entry.2.toNat) ∧
        String.utf8EncodeChar entry.2 = [UInt8.ofNat entry.2.toNat] := by decide
    rw [same]
    exact .inr (.inl ⟨_, _, all _ mem⟩)
  · have all : ∀ n < 0x20,
        Utf8.ofChars ['\\', 'u', '0', '0', Json.hexDigit (n / 16), Json.hexDigit (n % 16)] =
          [Ascii.backslash, Ascii.letterU, Ascii.zero, Ascii.zero,
            UInt8.ofNat (Json.hexDigit (n / 16)).toNat,
            UInt8.ofNat (Json.hexDigit (n % 16)).toNat] ∧
        unit? Ascii.zero Ascii.zero (UInt8.ofNat (Json.hexDigit (n / 16)).toNat)
          (UInt8.ofNat (Json.hexDigit (n % 16)).toNat) = some n := by decide
    obtain ⟨written, read⟩ := all c.toNat control
    rw [same]
    exact .inr (.inr ⟨_, _, written, read, Nat.lt_trans control (by decide)⟩)

/-- A written character is read as the character that it stands for. -/
theorem stringBytes_escape {c : Char} (h : stringBytes bytes = .ok (content, rest)) :
    stringBytes (Utf8.ofChars (Json.escape c) ++ bytes) =
      .ok (String.utf8EncodeChar c ++ content, rest) := by
  rcases ofChars_escape_cases c with ⟨written, literal⟩ |
      ⟨letter, meant, written, other, short, means⟩ | ⟨high, low, written, read, small⟩
  · rw [written]
    exact stringBytes_literals literal h
  · rw [written, means]
    exact stringBytes_short other short h
  · have meant := stringBytes_unit read small h
    rw [Char.ofNat_toNat] at meant
    rw [written]
    exact meant

/-- The characters of a written string are read up to the closing quote. -/
theorem stringBytes_quoted (chars : List Char) (rest : List UInt8) :
    stringBytes (Utf8.ofChars (chars.flatMap Json.escape) ++ Ascii.quote :: rest) =
      .ok (Utf8.ofChars chars, rest) := by
  induction chars with
  | nil => rfl
  | cons c chars ih =>
    rw [List.flatMap_cons, Utf8.ofChars_append, List.append_assoc, stringBytes_escape ih,
      Utf8.ofChars_cons]

/-- A written string is read back behind its opening quote, and nothing behind it. -/
theorem string_quoted (text : String) (rest : List UInt8) :
    string (Utf8.ofChars (text.toList.flatMap Json.escape) ++ Ascii.quote :: rest) =
      .ok (text, rest) := by
  have decoded : Utf8.decode? (Utf8.ofChars text.toList) = some text := Utf8.decode?_encode text
  simp only [string, stringBytes_quoted, bind, Except.bind, decoded]

end Reader

end Subscription
