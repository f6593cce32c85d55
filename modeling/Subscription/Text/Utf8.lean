/-!
# Text and its UTF-8 bytes

`encode` gives the bytes of a text and `decode?` reads them back, refusing byte sequences that are
not UTF-8. `decodeLossy` never refuses: each maximal part that cannot be read stands for one
replacement character, the rule that browsers follow too.
-/

namespace Subscription

namespace Utf8

/-- The UTF-8 bytes of a text. -/
def encode (text : String) : List UInt8 := text.toList.flatMap String.utf8EncodeChar

/-- The text with these UTF-8 bytes, if they are well formed. -/
def decode? (bytes : List UInt8) : Option String := String.fromUTF8? bytes.toByteArray

/-- Reading the bytes of a text gives the text back. -/
theorem decode?_encode (text : String) : decode? (encode text) = some text := by
  have bytes : (encode text).toByteArray = text.toByteArray := by
    conv => rhs; rw [← String.ofList_toList (s := text)]
    rfl
  simp only [decode?, bytes, String.fromUTF8?]
  rw [dif_pos text.isValidUTF8]
  rfl

/-! ### Reading with replacement -/

/-- The bytes that may follow a leading byte directly, and how many continuation bytes the whole
character has; `none` when no character starts with this byte. -/
def leading? (byte : UInt8) : Option (UInt8 × UInt8 × Nat) :=
  if 0xC2 ≤ byte && byte ≤ 0xDF then some (0x80, 0xBF, 1)
  else if byte = 0xE0 then some (0xA0, 0xBF, 2)
  else if byte = 0xED then some (0x80, 0x9F, 2)
  else if 0xE1 ≤ byte && byte ≤ 0xEF then some (0x80, 0xBF, 2)
  else if byte = 0xF0 then some (0x90, 0xBF, 3)
  else if 0xF1 ≤ byte && byte ≤ 0xF3 then some (0x80, 0xBF, 3)
  else if byte = 0xF4 then some (0x80, 0x8F, 3)
  else none

/-- The bytes of the longest start of a character after its leading byte: at most `count`, the
first of them between `low` and `high`, the others continuation bytes. -/
def tail (low high : UInt8) : Nat → List UInt8 → List UInt8
  | 0, _ => []
  | _, [] => []
  | count + 1, byte :: rest =>
    if low ≤ byte && byte ≤ high then byte :: tail 0x80 0xBF count rest else []

/-- The code point of a leading byte and its continuation bytes. -/
def codePoint (lead : UInt8) (continuation : List UInt8) : Nat :=
  let payload := lead.toNat % (1 <<< (6 - continuation.length))
  continuation.foldl (fun value byte => value * 64 + byte.toNat % 64) payload

/-- The characters of a byte sequence, each part that is no character replaced by U+FFFD. The fuel
is a bound on the number of bytes. -/
def readLossy : Nat → List UInt8 → List Char
  | 0, _ => []
  | _, [] => []
  | fuel + 1, byte :: rest =>
    if byte < 0x80 then Char.ofNat byte.toNat :: readLossy fuel rest
    else
      match leading? byte with
      | none => '\uFFFD' :: readLossy fuel rest
      | some (low, high, count) =>
        let continuation := tail low high count rest
        let char :=
          if continuation.length = count then Char.ofNat (codePoint byte continuation)
          else '\uFFFD'
        char :: readLossy fuel (rest.drop continuation.length)

/-- The text of a byte sequence, each part that is no character replaced by U+FFFD. -/
def decodeLossy (bytes : List UInt8) : String := String.ofList (readLossy bytes.length bytes)

/-! ### Finding what cannot be read -/

/-- The bytes from the first one on that is no part of a character. The fuel is a bound on their
number. -/
def fromFault : Nat → List UInt8 → List UInt8
  | 0, bytes => bytes
  | _, [] => []
  | fuel + 1, byte :: rest =>
    if byte < 0x80 then fromFault fuel rest
    else
      match leading? byte with
      | none => byte :: rest
      | some (low, high, count) =>
        if (tail low high count rest).length = count then fromFault fuel (rest.drop count)
        else byte :: rest

end Utf8

end Subscription
