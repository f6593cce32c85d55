import Subscription.Calendar.Timestamp
import Subscription.Text.Blank

/-!
# Reading timestamps

Two forms are understood. The strict one is the internet timestamp of RFC 3339, with its offset;
a `TimestampFault` says why a text is none. The lenient one has no offset, allows blanks in front of
numbers and lets them have fewer digits, and means universal time. `Timestamp.read` takes a text for
the strict form, else for the lenient form; when it is neither, the fault is that of the strict one.
-/

namespace Subscription

/-- Why a text is no internet timestamp. -/
inductive TimestampFault where
  | premature
  | invalid
  | outOfRange
  | trailing
  deriving DecidableEq, Repr

/-- The fault in words. -/
def TimestampFault.message : TimestampFault → String
  | .premature => "premature end of input"
  | .invalid => "input contains invalid characters"
  | .outOfRange => "input is out of range"
  | .trailing => "trailing input"

namespace Timestamp

/-! ### Digits -/

/-- The value of a decimal digit. -/
def digit? (c : Char) : Option Nat :=
  if '0' ≤ c && c ≤ '9' then some (c.toNat - '0'.toNat) else none

/-- The digits in front, at most `limit` of them, and what follows. -/
def digitsUpTo : (limit : Nat) → List Char → List Nat × List Char
  | 0, chars => ([], chars)
  | _, [] => ([], [])
  | limit + 1, c :: rest =>
    match digit? c with
    | none => ([], c :: rest)
    | some digit =>
      let (digits, rest) := digitsUpTo limit rest
      (digit :: digits, rest)

/-- All digits in front, and what follows. -/
def allDigits (chars : List Char) : List Nat × List Char := digitsUpTo chars.length chars

/-- The number that digits stand for. -/
def number (digits : List Nat) : Nat := digits.foldl (fun value digit => value * 10 + digit) 0

/-! ### The strict form -/

namespace Strict

/-- A number of exactly `count` digits. -/
def digits (count : Nat) (chars : List Char) : Except TimestampFault (Nat × List Char) :=
  let (digits, rest) := digitsUpTo count chars
  if digits.length = count then .ok (number digits, rest) else .error .invalid

/-- One of several characters. -/
def oneOf (allowed : List Char) : List Char → Except TimestampFault (List Char)
  | [] => .error .premature
  | c :: rest => if c ∈ allowed then .ok rest else .error .invalid

/-- A value that exists only within a range. -/
def inRange {α : Type} : Option α → Except TimestampFault α
  | some value => .ok value
  | none => .error .outOfRange

/-- The digits behind the point of a fraction. -/
def fraction (chars : List Char) : Except TimestampFault (Nat × List Char) :=
  match chars with
  | '.' :: [] => .error .premature
  | '.' :: rest =>
    match allDigits rest with
    | ([], _) => .error .invalid
    | (digits, rest) => .ok (nanosOfDigits digits, rest)
  | _ => .ok (0, chars)

/-- Two digits at a place where the text may end. -/
def pair : List Char → Except TimestampFault (Nat × Nat × List Char)
  | [] => .error .premature
  | [c] => .error (if c.utf8Size < 2 then .premature else .invalid)
  | a :: b :: rest =>
    match digit? a, digit? b with
    | some tens, some ones => .ok (tens, ones, rest)
    | _, _ => .error .invalid

/-- Hours and minutes of an offset, in seconds. -/
def distance (chars : List Char) : Except TimestampFault (Nat × List Char) := do
  let (tens, ones, rest) ← pair chars
  let hours := tens * 10 + ones
  let rest ← oneOf [':'] rest
  let (tens, ones, rest) ← pair rest
  if 5 < tens then throw .outOfRange
  return (hours * 3600 + (tens * 10 + ones) * 60, rest)

/-- An offset from universal time, in seconds. -/
def offset : List Char → Except TimestampFault (Int × List Char)
  | [] => .error .premature
  | 'Z' :: rest | 'z' :: rest => .ok (0, rest)
  | '+' :: rest => do
    let (seconds, rest) ← distance rest
    return (seconds, rest)
  | '-' :: rest | '\u2212' :: rest => do
    let (seconds, rest) ← distance rest
    return (-seconds, rest)
  | _ :: _ => .error .invalid

/-- The timestamp of a clock whose offset comes next, and nothing behind it. -/
def withOffset (date : Date) (time : TimeOfDay) (chars : List Char) :
    Except TimestampFault Timestamp := do
  let (offset, rest) ← offset chars
  if !rest.isEmpty then throw .trailing
  if near : offset.natAbs < secondsPerDay then return .ofClock date time offset near
  else throw .outOfRange

/-- The length of a text, in bytes. -/
def byteLength (chars : List Char) : Nat := chars.foldr (fun c length => c.utf8Size + length) 0

/-- The length of a text without a fraction and an offset, in bytes. -/
def leastLength : Nat := 19

/-- The timestamp that a text is, in the strict form. -/
def read (chars : List Char) : Except TimestampFault Timestamp := do
  if byteLength chars < leastLength then throw .premature
  let (year, rest) ← digits 4 chars
  let rest ← oneOf ['-'] rest
  let (month, rest) ← digits 2 rest
  let rest ← oneOf ['-'] rest
  let (day, rest) ← digits 2 rest
  let date ← inRange (Date.of? year month day)
  let rest ← oneOf ['T', 't', ' '] rest
  let (hour, rest) ← digits 2 rest
  let rest ← oneOf [':'] rest
  let (minute, rest) ← digits 2 rest
  let rest ← oneOf [':'] rest
  let (second, rest) ← digits 2 rest
  let (nanos, rest) ← fraction rest
  let time ← inRange (TimeOfDay.of? hour minute second nanos)
  withOffset date time rest

end Strict

/-! ### The lenient form -/

namespace Lenient

/-- A number of one to `limit` digits. -/
def digits? (limit : Nat) (chars : List Char) : Option (Nat × List Char) :=
  match digitsUpTo limit chars with
  | ([], _) => none
  | (digits, rest) => some (number digits, rest)

/-- A number of one or two digits, behind blanks. -/
def shortNumber? (chars : List Char) : Option (Nat × List Char) := digits? 2 (dropBlanks chars)

/-- A year behind blanks: up to four digits, or a sign and any number of digits. -/
def year? (chars : List Char) : Option (Int × List Char) :=
  match dropBlanks chars with
  | '-' :: rest => (digits? rest.length rest).map fun (year, rest) => (-year, rest)
  | '+' :: rest => (digits? rest.length rest).map fun (year, rest) => (year, rest)
  | rest => (digits? 4 rest).map fun (year, rest) => (year, rest)

/-- The character `c` and nothing else. -/
def only? (c : Char) : List Char → Option (List Char)
  | [] => none
  | d :: rest => if c = d then some rest else none

/-- The years of the lenient form. -/
def hasYear (year : Int) : Bool := -262143 ≤ year && year ≤ 262142

/-- The timestamp that a text is, in the lenient form. -/
def read? (chars : List Char) : Option Timestamp := do
  let (year, rest) ← year? chars
  let rest ← only? '-' rest
  let (month, rest) ← shortNumber? rest
  let rest ← only? '-' rest
  let (day, rest) ← shortNumber? rest
  let rest ← only? 'T' rest
  let (hour, rest) ← shortNumber? rest
  let rest ← only? ':' rest
  let (minute, rest) ← shortNumber? rest
  let rest ← only? ':' rest
  let (second, rest) ← shortNumber? rest
  let (nanos, rest) ← (Strict.fraction rest).toOption
  guard (rest.isEmpty && hasYear year)
  return .universal (← Date.of? year month day) (← TimeOfDay.of? hour minute second nanos)

end Lenient

/-- The timestamp that a text is, in either form. -/
def read (text : String) : Except TimestampFault Timestamp :=
  match Strict.read text.toList with
  | .ok timestamp => .ok timestamp
  | .error fault =>
    match Lenient.read? text.toList with
    | some timestamp => .ok timestamp
    | none => .error fault

/-- The timestamp that a text is, if it is one. -/
def parse? (text : String) : Option Timestamp := (read text).toOption

end Timestamp

end Subscription
