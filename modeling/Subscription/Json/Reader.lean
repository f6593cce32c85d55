import Subscription.Json.Numeral
import Subscription.Text.Utf8

/-!
# Reading JSON text

`Json.read` turns the bytes of a text into a value or into the `Fault` that stopped it. Arrays and
objects nest at most `Reader.depthLimit` deep; an object keeps the last of several members with one
key, and lists its members in key order.

The parts of the grammar are functions from the bytes ahead to what they read and the bytes behind
it. The loops over items and members take the reading of an element as an argument, so a value is
read by recursion on the nesting depth.
-/

namespace Subscription

namespace Reader

/-- How deep arrays and objects may nest. -/
def depthLimit : Nat := 127

/-- Whether the byte may stand between the parts of a text. -/
def isBlank (byte : UInt8) : Bool :=
  byte == 0x20 || byte == 0x0A || byte == 0x09 || byte == 0x0D

/-- The bytes behind any blanks. -/
def skipBlanks (bytes : List UInt8) : List UInt8 := bytes.dropWhile isBlank

/-- Passes the letters of a word. -/
def word : List UInt8 → List UInt8 → Except Stop (List UInt8)
  | [], rest => .ok rest
  | _ :: _, [] => Stop.before .endInValue []
  | letter :: letters, byte :: rest =>
    if byte = letter then word letters rest else Stop.before .wordExpected rest

/-! ### Strings -/

/-- The byte that a one-letter escape stands for. -/
def shortEscape? (byte : UInt8) : Option UInt8 :=
  if byte = Ascii.quote then some Ascii.quote
  else if byte = Ascii.backslash then some Ascii.backslash
  else if byte = Ascii.slash then some Ascii.slash
  else if byte = 0x62 then some 0x08
  else if byte = 0x66 then some 0x0C
  else if byte = 0x6E then some 0x0A
  else if byte = 0x72 then some 0x0D
  else if byte = 0x74 then some 0x09
  else none

/-- The value of four hexadecimal digits. -/
def unit? (a b c d : UInt8) : Option Nat := do
  return (((← Ascii.hexDigit? a) * 16 + (← Ascii.hexDigit? b)) * 16 + (← Ascii.hexDigit? c)) * 16
    + (← Ascii.hexDigit? d)

/-- Whether a 16-bit unit is the first of a pair. -/
def isHighSurrogate (unit : Nat) : Bool := 0xD800 ≤ unit && unit ≤ 0xDBFF

/-- Whether a 16-bit unit is the second of a pair. -/
def isLowSurrogate (unit : Nat) : Bool := 0xDC00 ≤ unit && unit ≤ 0xDFFF

/-- The bytes of the character that a pair of units stands for. -/
def pairBytes (high low : Nat) : List UInt8 :=
  String.utf8EncodeChar (Char.ofNat ((high - 0xD800) * 0x400 + (low - 0xDC00) + 0x10000))

/-- The bytes of a string up to its closing quote, escapes resolved. -/
def stringBytes : Reading (List UInt8)
  | [] => Stop.before .endInString []
  | Ascii.quote :: rest => .ok ([], rest)
  | Ascii.backslash :: [] => Stop.before .endInString []
  | Ascii.backslash :: Ascii.letterU :: a :: b :: c :: d :: rest =>
    match unit? a b c d with
    | none => Stop.before .invalidEscape rest
    | some unit =>
      if isLowSurrogate unit then Stop.before .loneSurrogate rest
      else if isHighSurrogate unit then
        match rest with
        | [] => Stop.before .endInString []
        | Ascii.backslash :: [] => Stop.before .endInString []
        | Ascii.backslash :: Ascii.letterU :: e :: f :: g :: h :: rest =>
          match unit? e f g h with
          | none => Stop.before .invalidEscape rest
          | some low =>
            if isLowSurrogate low then do
              let (bytes, rest) ← stringBytes rest
              .ok (pairBytes unit low ++ bytes, rest)
            else Stop.before .loneSurrogate rest
        | Ascii.backslash :: Ascii.letterU :: _ => Stop.before .endInString []
        | Ascii.backslash :: _ :: rest => Stop.before .halfSurrogatePair rest
        | _ :: rest => Stop.before .halfSurrogatePair rest
      else do
        let (bytes, rest) ← stringBytes rest
        .ok (String.utf8EncodeChar (Char.ofNat unit) ++ bytes, rest)
  | Ascii.backslash :: Ascii.letterU :: _ => Stop.before .endInString []
  | Ascii.backslash :: byte :: rest =>
    match shortEscape? byte with
    | none => Stop.before .invalidEscape rest
    | some meant => do
      let (bytes, rest) ← stringBytes rest
      .ok (meant :: bytes, rest)
  | byte :: rest =>
    if byte < 0x20 then Stop.before .controlCharacter rest
    else do
      let (bytes, rest) ← stringBytes rest
      .ok (byte :: bytes, rest)

/-- A string; the opening quote is passed already. If its bytes are not UTF-8, the place is counted
from the end: what stands between it and the closing quote is as long as the content from the first
byte on that is no part of a character, escapes resolved. -/
def string : Reading String := fun bytes => do
  let (content, rest) ← stringBytes bytes
  match Utf8.decode? content with
  | some text => .ok (text, rest)
  | none => Stop.before .invalidCodePoint (Utf8.fromFault content.length content ++ rest)

/-! ### Arrays and objects -/

section Loops

variable {α κ : Type}

/-- The items behind an item, each behind a comma, up to the closing bracket. The fuel bounds their
number. -/
def moreItems (item : Reading α) : Nat → Reading (List α)
  | 0, rest => Stop.before .endInArray rest
  | fuel + 1, bytes =>
    match skipBlanks bytes with
    | [] => Stop.on .endInArray []
    | Ascii.closeBracket :: rest => .ok ([], rest)
    | Ascii.comma :: rest =>
      match skipBlanks rest with
      | [] => Stop.on .endInValue []
      | Ascii.closeBracket :: rest => Stop.before .trailingComma rest
      | rest => do
        let (value, rest) ← item rest
        let (values, rest) ← moreItems item fuel rest
        .ok (value :: values, rest)
    | _ :: rest => Stop.before .arrayCommaExpected rest

/-- The items of an array; the opening bracket is passed already. -/
def items (item : Reading α) (fuel : Nat) : Reading (List α) := fun bytes =>
  match skipBlanks bytes with
  | [] => Stop.on .endInArray []
  | Ascii.closeBracket :: rest => .ok ([], rest)
  | rest => do
    let (value, rest) ← item rest
    let (values, rest) ← moreItems item fuel rest
    .ok (value :: values, rest)

/-- A colon and the value behind it. -/
def afterColon (value : Reading α) : Reading α := fun bytes =>
  match skipBlanks bytes with
  | [] => Stop.on .endInObject []
  | Ascii.colon :: rest => value rest
  | _ :: rest => Stop.before .colonExpected rest

/-- A member behind its opening quote: the key, a colon and the value. -/
def member (key : Reading κ) (value : Reading α) : Reading (κ × α) := fun bytes => do
  let (name, rest) ← key bytes
  let (read, rest) ← afterColon value rest
  .ok ((name, read), rest)

/-- The members behind a member, each behind a comma, up to the closing brace. The fuel bounds
their number. -/
def moreMembers (key : Reading κ) (value : Reading α) : Nat → Reading (List (κ × α))
  | 0, rest => Stop.before .endInObject rest
  | fuel + 1, bytes =>
    match skipBlanks bytes with
    | [] => Stop.on .endInObject []
    | Ascii.closeBrace :: rest => .ok ([], rest)
    | Ascii.comma :: rest =>
      match skipBlanks rest with
      | [] => Stop.on .endInValue []
      | Ascii.quote :: rest => do
        let (first, rest) ← member key value rest
        let (others, rest) ← moreMembers key value fuel rest
        .ok (first :: others, rest)
      | Ascii.closeBrace :: rest => Stop.before .trailingComma rest
      | _ :: rest => Stop.before .keyExpected rest
    | _ :: rest => Stop.before .objectCommaExpected rest

/-- The members of an object in the order of the text; the opening brace is passed already. -/
def members (key : Reading κ) (value : Reading α) (fuel : Nat) : Reading (List (κ × α)) :=
  fun bytes =>
  match skipBlanks bytes with
  | [] => Stop.on .endInObject []
  | Ascii.closeBrace :: rest => .ok ([], rest)
  | Ascii.quote :: rest => do
    let (first, rest) ← member key value rest
    let (others, rest) ← moreMembers key value fuel rest
    .ok (first :: others, rest)
  | _ :: rest => Stop.before .keyExpected rest

end Loops

/-! ### Values -/

/-- A value in which arrays and objects nest at most `depth` deep. The fuel bounds the length of
each array and object. -/
def value (fuel : Nat) : (depth : Nat) → Reading Json
  | depth, bytes =>
    match skipBlanks bytes with
    | [] => Stop.on .endInValue []
    | byte :: rest =>
      if byte = Ascii.letterN then do
        let rest ← word [0x75, 0x6C, 0x6C] rest
        .ok (.null, rest)
      else if byte = Ascii.letterT then do
        let rest ← word [0x72, 0x75, 0x65] rest
        .ok (.bool true, rest)
      else if byte = Ascii.letterF then do
        let rest ← word [0x61, 0x6C, 0x73, 0x65] rest
        .ok (.bool false, rest)
      else if byte = Ascii.minus || Ascii.isDigit byte then do
        let (number, rest) ← Numeral.read (byte :: rest)
        .ok (.number number, rest)
      else if byte = Ascii.quote then do
        let (text, rest) ← string rest
        .ok (.string text, rest)
      else if byte = Ascii.openBracket then
        match depth with
        | 0 => Stop.before .tooDeep rest
        | depth + 1 => do
          let (read, rest) ← items (value fuel depth) fuel rest
          .ok (.array read, rest)
      else if byte = Ascii.openBrace then
        match depth with
        | 0 => Stop.before .tooDeep rest
        | depth + 1 => do
          let (read, rest) ← members string (value fuel depth) fuel rest
          .ok (.object (Keyed.ofList read), rest)
      else Stop.before .valueExpected rest

/-- Nothing but blanks may follow. -/
def finish (bytes : List UInt8) : Except Stop Unit :=
  match skipBlanks bytes with
  | [] => .ok ()
  | _ :: rest => Stop.before .trailingCharacters rest

end Reader

namespace Json

/-- The value that the bytes of a text stand for, or the first fault in them. -/
def read (bytes : List UInt8) : Except Fault Json :=
  let reading : Except Stop Json := do
    let (value, rest) ← Reader.value bytes.length Reader.depthLimit bytes
    Reader.finish rest
    .ok value
  reading.mapError fun stop => Fault.after stop.reason (bytes.take (bytes.length - stop.remaining))

/-- The value that a text stands for, if it is JSON. -/
def parse? (text : String) : Option Json := (read (Utf8.encode text)).toOption

end Json

end Subscription
