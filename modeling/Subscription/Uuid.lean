/-!
# Random identifiers

A `Uuid` is an identifier of 128 bits, all but six of them free. It is written as 32 hexadecimal
digits in five groups.
-/

namespace Subscription

/-- An identifier of 16 bytes. -/
abbrev Uuid := List UInt8

namespace Uuid

/-- The identifier made of 16 random bytes. Six bits say that it is random. -/
def ofRandom (bytes : List UInt8) : Uuid :=
  (bytes.modify 6 fun byte => byte &&& 0x0F ||| 0x40).modify 8 fun byte => byte &&& 0x3F ||| 0x80

/-- A byte in two hexadecimal digits. -/
def byteText (byte : UInt8) : List Char :=
  [Nat.digitChar (byte.toNat / 16), Nat.digitChar (byte.toNat % 16)]

/-- The identifier in digits. -/
def text (id : Uuid) : String :=
  let digits := id.flatMap byteText
  let group (start length : Nat) : List Char := (digits.drop start).take length
  String.ofList (['-'].intercalate [group 0 8, group 8 4, group 12 4, group 16 4, group 20 12])

end Uuid

end Subscription
