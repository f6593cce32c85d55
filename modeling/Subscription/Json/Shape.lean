import Subscription.Json.Printer
import Subscription.Text.Quoted

/-!
# Expecting a shape of a JSON value

Records are decoded from JSON values: a member has to have the right shape, and some members have
to be there. `Mismatch` says what was found instead. The members of an object are looked at in key
order, and one that is missing is reported only after all that are there proved right.
-/

namespace Subscription

/-- What a decoder expects of a value. -/
inductive Shape where
  | text
  | boolean
  | members
  | items
  /-- An object with the members of a record. -/
  | record (name : String)
  deriving DecidableEq, Repr

/-- The shape in words. -/
def Shape.description : Shape → String
  | .text => "a string"
  | .boolean => "a boolean"
  | .members => "a map"
  | .items => "a sequence"
  | .record name => "struct " ++ name

/-- A value in words, as it is named when it has the wrong shape. -/
def Json.description : Json → String
  | .null => "null"
  | .bool value => "boolean \x60" ++ toString value ++ "\x60"
  | .number (.float value) => "floating point \x60" ++ (Number.float value).text ++ "\x60"
  | .number value => "integer \x60" ++ value.text ++ "\x60"
  | .string text => "string " ++ quote text
  | .array _ => "sequence"
  | .object _ => "map"

/-- Why a value does not decode as a record. -/
inductive Mismatch where
  | wrongShape (found : Json) (expected : Shape)
  | missing (key : String)
  deriving Repr

/-- The mismatch in words. -/
def Mismatch.message : Mismatch → String
  | .wrongShape found expected =>
    "invalid type: " ++ found.description ++ ", expected " ++ expected.description
  | .missing key => "missing field \x60" ++ key ++ "\x60"

namespace Json

/-! ### Whole values -/

/-- The text of a string. -/
def asText : Json → Except Mismatch String
  | .string text => .ok text
  | other => .error (.wrongShape other .text)

/-- The truth value of a boolean. -/
def asBool : Json → Except Mismatch Bool
  | .bool value => .ok value
  | other => .error (.wrongShape other .boolean)

/-- The items of an array. -/
def asItems : Json → Except Mismatch (List Json)
  | .array items => .ok items
  | other => .error (.wrongShape other .items)

/-- The members of an object, expected as `shape`. -/
def asMembers (shape : Shape) : Json → Except Mismatch (Keyed Json)
  | .object members => .ok members
  | other => .error (.wrongShape other shape)

/-- Null, or else what `decode` makes of the value. -/
def asNullable {α : Type} (decode : Json → Except Mismatch α) : Json → Except Mismatch (Option α)
  | .null => .ok none
  | value => (decode value).map some

end Json

namespace Keyed

variable {α : Type}

/-! ### Members -/

/-- What `decode` makes of the member under `key`, if there is one. -/
def member? (members : Keyed Json) (key : String) (decode : Json → Except Mismatch α) :
    Except Mismatch (Option α) :=
  match members.get? key with
  | none => .ok none
  | some value => (decode value).map some

/-- A member that has to be there. -/
def required (key : String) : Option α → Except Mismatch α
  | some value => .ok value
  | none => .error (.missing key)

end Keyed

end Subscription
