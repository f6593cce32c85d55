/-!
# Bytes in sixty-four characters

Three bytes are 24 bits, and 24 bits are four digits of six bits each. `Base64.encode` writes bytes
in such digits. Where one or two bytes are left at the end, equals signs take the place of the
digits that no bit belongs to.
-/

namespace Subscription

namespace Base64

/-- The digit with a value. -/
def digitChar (value : Nat) : Char :=
  if value < 26 then Char.ofNat ('A'.toNat + value)
  else if value < 52 then Char.ofNat ('a'.toNat + (value - 26))
  else if value < 62 then Char.ofNat ('0'.toNat + (value - 52))
  else if value = 62 then '+'
  else '/'

/-- The first digits of a number of 24 bits. -/
def digits (count value : Nat) : List Char :=
  ([value / 0x40000, value / 0x1000 % 64, value / 0x40 % 64, value % 64].take count).map digitChar

/-- Bytes in digits. -/
def encode : List UInt8 → List Char
  | a :: b :: c :: rest =>
    digits 4 (a.toNat * 0x10000 + b.toNat * 0x100 + c.toNat) ++ encode rest
  | [a, b] => digits 3 (a.toNat * 0x10000 + b.toNat * 0x100) ++ ['=']
  | [a] => digits 2 (a.toNat * 0x10000) ++ ['=', '=']
  | [] => []

end Base64

end Subscription
