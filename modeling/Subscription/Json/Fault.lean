/-!
# Why a text is no JSON value

A `Fault` names the first thing that stopped the reader and the place: the line, counted from one,
and the column in bytes, which starts again at zero after each line break.
-/

namespace Subscription

/-- What stopped the reader of a JSON text. -/
inductive Fault.Reason where
  | endInArray
  | endInObject
  | endInString
  | endInValue
  | colonExpected
  | arrayCommaExpected
  | objectCommaExpected
  | wordExpected
  | valueExpected
  | invalidEscape
  | invalidNumber
  | numberOutOfRange
  | invalidCodePoint
  | controlCharacter
  | keyExpected
  | loneSurrogate
  | halfSurrogatePair
  | trailingComma
  | trailingCharacters
  | tooDeep
  deriving DecidableEq, Repr

/-- The reason in words. -/
def Fault.Reason.message : Fault.Reason → String
  | .endInArray => "EOF while parsing a list"
  | .endInObject => "EOF while parsing an object"
  | .endInString => "EOF while parsing a string"
  | .endInValue => "EOF while parsing a value"
  | .colonExpected => "expected \x60:\x60"
  | .arrayCommaExpected => "expected \x60,\x60 or \x60]\x60"
  | .objectCommaExpected => "expected \x60,\x60 or \x60\x7d\x60"
  | .wordExpected => "expected ident"
  | .valueExpected => "expected value"
  | .invalidEscape => "invalid escape"
  | .invalidNumber => "invalid number"
  | .numberOutOfRange => "number out of range"
  | .invalidCodePoint => "invalid unicode code point"
  | .controlCharacter => "control character (\\u0000-\\u001F) found while parsing a string"
  | .keyExpected => "key must be a string"
  | .loneSurrogate => "lone leading surrogate in hex escape"
  | .halfSurrogatePair => "unexpected end of hex escape"
  | .trailingComma => "trailing comma"
  | .trailingCharacters => "trailing characters"
  | .tooDeep => "recursion limit exceeded"

/-- The reason that a text is no JSON value, with its place. -/
structure Fault where
  reason : Fault.Reason
  line : Nat
  column : Nat
  deriving DecidableEq, Repr

namespace Fault

/-- The reason and the place in words. -/
def message (fault : Fault) : String :=
  fault.reason.message ++ " at line " ++ toString fault.line ++ " column " ++ toString fault.column

/-- The fault at the end of the given bytes, the part of the text that was passed. -/
def after (reason : Reason) (passed : List UInt8) : Fault :=
  { reason
    line := passed.count 0x0A + 1
    column := (passed.reverse.takeWhile (· ≠ 0x0A)).length }

end Fault

end Subscription
