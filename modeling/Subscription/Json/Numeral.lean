import Subscription.Json.Basic
import Subscription.Json.Fault
import Subscription.Text.Ascii

/-!
# Numbers in JSON text

A numeral is an optional minus sign, digits without a leading zero, an optional fraction and an
optional exponent. `Numeral.read` turns it into a `Number`: a numeral of digits alone is a whole
number when 64 bits hold it, and every other numeral is a double.

A double is found in two rounded steps: the digits, as many of them as fit 64 bits, are rounded to
a double, which is then multiplied or divided by the double nearest to the power of ten. The result
is within an ulp or so of the written number, and not always the double nearest to it.

This module also holds `Stop`, in which all readers of JSON text report a fault.
-/

namespace Subscription

/-- A fault of a reader: the reason, and how many bytes stand behind its place. -/
structure Stop where
  reason : Fault.Reason
  remaining : Nat
  deriving DecidableEq, Repr

/-- A way to read a part of a text: from the bytes ahead to what was read and the bytes behind. -/
abbrev Reading (α : Type) := List UInt8 → Except Stop (α × List UInt8)

namespace Stop

variable {α : Type}

/-- Stops in front of the remaining bytes. -/
def before (reason : Fault.Reason) (rest : List UInt8) : Except Stop α :=
  .error ⟨reason, rest.length⟩

/-- Stops on the next byte: the place is behind it, or at the end of the text if there is none. -/
def on (reason : Fault.Reason) (rest : List UInt8) : Except Stop α :=
  .error ⟨reason, rest.length - 1⟩

end Stop

namespace Numeral

/-! ### Digits -/

/-- Whether the next byte is a digit. -/
def startsWithDigit : List UInt8 → Bool
  | [] => false
  | byte :: _ => Ascii.isDigit byte

/-- Appends digits to a significand as long as the result fits 64 bits. Gives the significand, the
number of digits appended, and the rest, which starts with a digit only if that one did not fit. -/
def significand : Nat → List UInt8 → Nat × Nat × List UInt8
  | value, [] => (value, 0, [])
  | value, byte :: rest =>
    if Ascii.isDigit byte ∧ value * 10 + Ascii.digit byte < UInt64.size then
      let (value, count, rest) := significand (value * 10 + Ascii.digit byte) rest
      (value, count + 1, rest)
    else (value, 0, byte :: rest)

/-- The number of digits ahead, and the bytes behind them. -/
def skipDigits (bytes : List UInt8) : Nat × List UInt8 :=
  ((bytes.takeWhile Ascii.isDigit).length, bytes.dropWhile Ascii.isDigit)

/-- Appends digits to an exponent as long as the result fits 31 bits. Gives the exponent, whether
a digit did not fit, and the rest behind the last digit looked at. -/
def exponentDigits : Nat → List UInt8 → Nat × Bool × List UInt8
  | value, [] => (value, false, [])
  | value, byte :: rest =>
    if Ascii.isDigit byte then
      if value * 10 + Ascii.digit byte < 0x80000000 then
        exponentDigits (value * 10 + Ascii.digit byte) rest
      else (value, true, rest)
    else (value, false, byte :: rest)

/-! ### From digits to numbers -/

/-- The largest power of ten that a double comes near to. -/
def largestPower : Nat := 308

/-- The double nearest to a power of ten. -/
def powerOfTen? (power : Nat) : Option Binary64 := Binary64.ofNat? (Nat.pow 10 power)

/-- Divides by the largest power of ten as often as told, or until nothing is left to divide. -/
def shrink : Nat → Binary64 → Option Binary64
  | 0, x => some x
  | rounds + 1, x =>
    if x.isZero then some x
    else ((powerOfTen? largestPower).bind x.div?).bind (shrink rounds)

/-- The double for a significand times a power of ten; none beyond the largest double. A power too
small for one division is divided by in several. -/
def double? (negative : Bool) (digits : Nat) (exponent : Int) : Option Binary64 := do
  let x ← Binary64.ofNat? digits
  let magnitude ←
    match exponent with
    | .ofNat power =>
      if x.isZero then some x
      else if largestPower < power then none
      else (powerOfTen? power).bind x.mul?
    | .negSucc power => do
      let rounds := power / largestPower
      let x ← shrink rounds x
      (powerOfTen? (power + 1 - largestPower * rounds)).bind x.div?
  some { magnitude with negative }

/-- A numeral with a fraction, an exponent or too many digits. -/
def float (negative : Bool) (digits : Nat) (exponent : Int) : Reading Number := fun rest =>
  match double? negative digits exponent with
  | some x => .ok (.float x, rest)
  | none => Stop.before .numberOutOfRange rest

/-- A numeral of digits that fit 64 bits. Zero with a minus sign is a double, and so is a negative
number beyond 64 bits. -/
def whole (negative : Bool) (digits : Nat) : Reading Number := fun rest =>
  if negative then
    match digits with
    | 0 => .ok (.float (Binary64.zero true), rest)
    | predecessor + 1 =>
      if h : predecessor < Number.negativeCount then .ok (.negative ⟨predecessor, h⟩, rest)
      else float true digits 0 rest
  else .ok (.unsigned digits.toUInt64, rest)

/-! ### The parts of a numeral -/

/-- Whether the byte announces an exponent. -/
def isExponentMark (byte : UInt8) : Bool := byte == 0x65 || byte == 0x45

/-- The part behind the exponent mark; `exponent` is what the digits read so far imply. An exponent
that does not fit 31 bits is out of range if it enlarges a number other than zero; otherwise the
number is zero. -/
def exponentPart (negative : Bool) (digits : Nat) (exponent : Int) :
    Reading Number := fun bytes =>
  let (enlarges, bytes) : Bool × List UInt8 :=
    match bytes with
    | Ascii.plus :: rest => (true, rest)
    | Ascii.minus :: rest => (false, rest)
    | _ => (true, bytes)
  match bytes with
  | [] => Stop.before .endInValue []
  | byte :: rest =>
    if Ascii.isDigit byte then
      match exponentDigits (Ascii.digit byte) rest with
      | (value, false, rest) =>
        float negative digits (if enlarges then exponent + value else exponent - value) rest
      | (_, true, rest) =>
        if digits ≠ 0 ∧ enlarges then Stop.before .numberOutOfRange rest
        else .ok (.float (Binary64.zero negative), (skipDigits rest).2)
    else Stop.before .invalidNumber rest

/-- What follows the digits of a numeral that is known to be a double. -/
def afterDigits (negative : Bool) (digits : Nat) (exponent : Int) :
    Reading Number := fun bytes =>
  match bytes with
  | [] => float negative digits exponent []
  | byte :: rest =>
    if isExponentMark byte then exponentPart negative digits exponent rest
    else float negative digits exponent (byte :: rest)

/-- The part behind the point. Digits that no longer fit 64 bits do not count. -/
def fractionPart (negative : Bool) (digits : Nat) (exponent : Int) :
    Reading Number := fun bytes =>
  let (digits, count, rest) := significand digits bytes
  if startsWithDigit rest then afterDigits negative digits (exponent - count) (skipDigits rest).2
  else if count = 0 then Stop.on (if rest.isEmpty then .endInValue else .invalidNumber) rest
  else afterDigits negative digits (exponent - count) rest

/-- What follows the digits in front of the point. -/
def afterWhole (negative : Bool) (digits : Nat) : Reading Number := fun bytes =>
  match bytes with
  | [] => whole negative digits []
  | byte :: rest =>
    if byte = Ascii.point then fractionPart negative digits 0 rest
    else if isExponentMark byte then exponentPart negative digits 0 rest
    else whole negative digits (byte :: rest)

/-- What follows digits that no longer fit 64 bits: each further digit is a factor of ten. -/
def afterLong (negative : Bool) (digits : Nat) : Reading Number := fun bytes =>
  let (count, rest) := skipDigits bytes
  match rest with
  | [] => float negative digits count []
  | byte :: rest =>
    if byte = Ascii.point then fractionPart negative digits count rest
    else afterDigits negative digits count (byte :: rest)

/-- The digits in front of the point and all that follows. -/
def unsigned (negative : Bool) : Reading Number := fun bytes =>
  match bytes with
  | [] => Stop.before .endInValue []
  | byte :: rest =>
    if byte = Ascii.zero then
      if startsWithDigit rest then Stop.on .invalidNumber rest else afterWhole negative 0 rest
    else if Ascii.isDigit byte then
      let (digits, _, rest) := significand (Ascii.digit byte) rest
      if startsWithDigit rest then afterLong negative digits rest
      else afterWhole negative digits rest
    else Stop.before .invalidNumber rest

/-- A numeral; the first byte is known to be a minus sign or a digit. -/
def read : Reading Number
  | Ascii.minus :: rest => unsigned true rest
  | bytes => unsigned false bytes

end Numeral

end Subscription
