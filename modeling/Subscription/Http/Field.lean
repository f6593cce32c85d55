import Subscription.Contract.Request
import Subscription.Text.Quoted
import Subscription.Text.Utf8

/-!
# Header fields

Which names and values a header field may have, what is read from the fields of an answer, and how
the fields of a request are shown in a log line.
-/

namespace Subscription

namespace HttpField

/-- Whether a character may be part of a field name. -/
def isNameChar (c : Char) : Bool := c.isAlphanum || c ∈ "!#$%&'*+-.^_\x60|~".toList

/-- The length of the longest name, in bytes. -/
def longestName : Nat := 65535

/-- Whether a text may name a field. -/
def isName (name : String) : Bool :=
  !name.isEmpty && name.all isNameChar && name.utf8ByteSize ≤ longestName

/-- Whether a text may be sent as the value of a field: it has no controls other than tabs. -/
def isValue (value : String) : Bool :=
  value.all fun c => c = '\t' || (0x20 ≤ c.toNat && c.toNat ≠ 0x7F)

/-- Whether all fields can be sent. -/
def areLegal (headers : Headers) : Bool :=
  headers.all fun field => isName field.1 && isValue field.2

/-- The text of a value that came with an answer, if it is visible ASCII throughout. -/
def text? (value : List UInt8) : Option String :=
  if value.all fun byte => byte = 0x09 || (0x20 ≤ byte && byte < 0x7F) then Utf8.decode? value
  else none

/-- The fields with one more, unless there is one of its name in any case. -/
def withUsual (name value : String) (headers : Headers) : Headers :=
  if headers.any fun field => field.1.toLower = name then headers else headers.insert name value

/-- The fields of an answer: names in lower case, values that are no text left out, the last of
several values under one name. -/
def received (fields : List (String × List UInt8)) : Headers :=
  Keyed.ofList <| fields.filterMap fun (name, value) =>
    (text? value).map fun text => (name.toLower, text)

/-- The fields in a row, names and values between quotes. -/
def listing (headers : Headers) : String :=
  "\x7b" ++ ", ".intercalate (headers.map fun (name, value) => quote name ++ ": " ++ quote value)
    ++ "\x7d"

end HttpField

end Subscription
