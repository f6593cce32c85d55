import Subscription.Text.Ascii

/-!
# Bytes written out

In an address, a percent sign and two hexadecimal digits stand for a byte. `Percent.encode` writes
the characters that may not stand for themselves in this way, and `Percent.decode` reads the bytes
back.
-/

namespace Subscription

namespace Percent

/-- A byte as a percent sign and two hexadecimal digits. -/
def byte (byte : UInt8) : List Char :=
  ['%', (Nat.digitChar (byte.toNat / 16)).toUpper, (Nat.digitChar (byte.toNat % 16)).toUpper]

/-- The characters, with those that are special, or are no visible ASCII characters, written as
their bytes. -/
def encode (special : List Char) (chars : List Char) : String :=
  String.ofList <| chars.flatMap fun c =>
    if c.toNat < 0x20 || 0x7F ≤ c.toNat || c ∈ special then
      (String.utf8EncodeChar c).flatMap byte
    else [c]

/-- The bytes of a text in which a percent sign and two hexadecimal digits stand for a byte. -/
def decode : List UInt8 → List UInt8
  | 0x25 :: a :: b :: rest =>
    match Ascii.hexDigit? a, Ascii.hexDigit? b with
    | some high, some low => (high * 16 + low).toUInt8 :: decode rest
    | _, _ => 0x25 :: decode (a :: b :: rest)
  | byte :: rest => byte :: decode rest
  | [] => []

/-! ### Characters that do not stand for themselves -/

/-- What does not stand for itself behind a number sign. -/
def fragmentSpecial : List Char := [' ', '"', '<', '>', '\x60']

/-- What does not stand for itself in a path. -/
def pathSpecial : List Char := fragmentSpecial ++ ['#', '?', '{', '}']

/-- What does not stand for itself in credentials. -/
def credentialSpecial : List Char := pathSpecial ++ "/:;=@[\\]^|".toList

/-- What does not stand for itself in the query of any address. -/
def anyQuerySpecial : List Char := [' ', '"', '#', '<', '>']

/-- What does not stand for itself in the query of an address of a web scheme. -/
def querySpecial : List Char := anyQuerySpecial ++ ['\'']

end Percent

end Subscription
