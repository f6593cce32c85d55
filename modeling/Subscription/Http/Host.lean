import Subscription.Http.DomainName
import Subscription.Http.Percent
import Subscription.Text.Utf8

/-!
# The host in a web address

A host is a name, or a number of 32 bits in up to four parts, or a number of 128 bits between
brackets. Each is brought into one form: names as they are looked up, numbers in their usual
notation.
-/

namespace Subscription

namespace WebHost

/-! ### Numbers of 32 bits -/

/-- The number that digits of a base stand for. -/
def digitsIn? (base : Nat) (chars : List Char) : Option Nat :=
  chars.foldlM (fun value c => do
    let digit ← Ascii.hexDigit? c.toNat.toUInt8
    guard (c.toNat < 0x80 && digit < base)
    return value * base + digit) 0

/-- A part of a number: hexadecimal behind `0x`, octal behind `0`, and else decimal. -/
def part? (chars : List Char) : Option Nat :=
  match chars with
  | [] => none
  | '0' :: 'x' :: digits => digitsIn? 16 digits
  | '0' :: digits => digitsIn? 8 digits
  | digits => digitsIn? 10 digits

/-- The labels of a name; a point at the end does not count. -/
def labels (chars : List Char) : List (List Char) :=
  match (splitAt '.' chars).reverse with
  | [] :: label :: labels => (label :: labels).reverse
  | labels => labels.reverse

/-- Whether the last label of a name makes it a number. -/
def endsInNumber (chars : List Char) : Bool :=
  match (labels chars).getLast? with
  | none => false
  | some label =>
    let isHexadecimal := ((behind? ['0', 'x'] label).bind (digitsIn? 16)).isSome
    !label.isEmpty && (label.all Char.isDigit || isHexadecimal)

/-- The number of 32 bits that up to four parts stand for: each takes a byte, the last all that is
left. -/
def number32? (chars : List Char) : Option Nat := do
  let parts ← (labels chars).mapM part?
  guard (parts.length ≤ 4)
  let last ← parts.getLast?
  let front := parts.dropLast
  guard (front.all (· < 256) && last < Nat.pow 256 (4 - front.length))
  return front.foldr (fun part value => value / 256 + part * 0x1000000) (0 : Nat) + last

/-- A number of 32 bits in four decimal parts. -/
def number32Text (n : Nat) : String :=
  ".".intercalate ([n / 0x1000000, n / 0x10000 % 256, n / 0x100 % 256, n % 256].map toString)

/-! ### Numbers of 128 bits -/

/-- The pieces of 16 bits in a part of a number; the last piece may be a number of 32 bits. -/
def pieces? (chars : List Char) : Option (List Nat) :=
  if chars.isEmpty then some []
  else
    let groups := splitAt ':' chars
    let piece? (group : List Char) : Option Nat := do
      guard (!group.isEmpty && group.length ≤ 4)
      digitsIn? 16 group
    match groups.reverse with
    | last :: front =>
      if last.contains '.' then do
        let parts ← (splitAt '.' last).mapM fun part => do
          guard (!part.isEmpty && (part.length = 1 || part.head? ≠ some '0'))
          digitsIn? 10 part
        guard (parts.length = 4 && parts.all (· < 256))
        let front ← front.reverse.mapM piece?
        match parts with
        | [a, b, c, d] => return front ++ [a * 256 + b, c * 256 + d]
        | _ => none
      else groups.mapM piece?
    | [] => none

/-- The characters in front of two colons and behind them, if they occur. -/
def atGap? : List Char → Option (List Char × List Char)
  | ':' :: ':' :: rest => some ([], rest)
  | c :: rest => (atGap? rest).map fun (front, rest) => (c :: front, rest)
  | [] => none

/-- The eight pieces of a number of 128 bits. Two colons stand for as many zeros as are missing. -/
def number128? (chars : List Char) : Option (List Nat) := do
  match atGap? chars with
  | none =>
    let pieces ← pieces? chars
    guard (pieces.length = 8)
    return pieces
  | some (front, rest) =>
    guard (!front.contains '.')
    let front ← pieces? front
    let rest ← pieces? rest
    guard (front.length + rest.length ≤ 7)
    return front ++ List.replicate (8 - front.length - rest.length) 0 ++ rest

/-- The length of the run of zeros in front. -/
def zerosAhead (pieces : List Nat) : Nat := (pieces.takeWhile (· = 0)).length

/-- The place and the length of the first of the longest runs of zeros. -/
def longestZeros : List Nat → Nat × Nat
  | [] => (0, 0)
  | piece :: rest =>
    let here := zerosAhead (piece :: rest)
    let (place, length) := longestZeros rest
    if here ≠ 0 && length ≤ here then (0, here) else (place + 1, length)

/-- A number of 128 bits: its pieces between colons, the longest run of zeros left out. -/
def number128Text (pieces : List Nat) : String :=
  let written (pieces : List Nat) : String :=
    ":".intercalate (pieces.map fun piece => String.ofList (Nat.toDigits 16 piece))
  let (place, length) := longestZeros pieces
  if length < 2 then written pieces
  else written (pieces.take place) ++ "::" ++ written (pieces.drop (place + length))

/-! ### Hosts -/

/-- The one form of a host, if the text is one. -/
def normal? (host : List Char) : Option String :=
  match host with
  | [] => none
  | '[' :: rest =>
    match rest.reverse with
    | ']' :: inner => do
      let pieces ← number128? inner.reverse
      return "[" ++ number128Text pieces ++ "]"
    | _ => none
  | host => do
    let written ← Utf8.decode? (Percent.decode (Utf8.encode (String.ofList host)))
    let name ← DomainName.ascii? written.toList
    guard !name.isEmpty
    if endsInNumber name then (number32? name).map number32Text else some (String.ofList name)

end WebHost

end Subscription
