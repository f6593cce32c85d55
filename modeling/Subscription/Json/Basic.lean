import Subscription.Decimal.Binary64
import Subscription.Keyed

/-!
# JSON values

The value that the contract server sends and the store keeps. Numbers come in three classes, which
never mix: `1` and `1.0` are different values, and only the two zeros among the doubles are equal
although they are written differently. `Json.equal` is that equality; `Json.Sorted` says that every
object in a value lists its members in key order, as all values read from text do.
-/

namespace Subscription

/-- How many negative whole numbers have 64 bits, `2 ^ 63`. -/
abbrev Number.negativeCount : Nat := 0x8000000000000000

/-- A number of a JSON value. -/
inductive Number where
  /-- A whole number of 64 bits. -/
  | unsigned (value : UInt64)
  /-- The negative whole number `-(predecessor + 1)` of 64 bits. -/
  | negative (predecessor : Fin Number.negativeCount)
  /-- Everything else: a number with a fraction or an exponent, or beyond the whole numbers. -/
  | float (value : Binary64)
  deriving DecidableEq, Repr

/-- Equality of numbers: by class, and among the doubles by value. -/
def Number.equal : Number → Number → Bool
  | .unsigned a, .unsigned b => a == b
  | .negative a, .negative b => a == b
  | .float a, .float b => a.equal b
  | _, _ => false

/-- A JSON value. The members of an object stand in key order, see `Json.Sorted`. -/
inductive Json where
  | null
  | bool (value : Bool)
  | number (value : Number)
  | string (value : String)
  | array (items : List Json)
  | object (members : List (String × Json))
  deriving Inhabited, Repr

namespace Json

/-! ### Equality -/

mutual

/-- Whether two values are equal: the same shape, members and texts, and equal numbers. -/
def equal : Json → Json → Bool
  | .null, .null => true
  | .bool a, .bool b => a == b
  | .number a, .number b => a.equal b
  | .string a, .string b => a == b
  | .array a, .array b => equalItems a b
  | .object a, .object b => equalMembers a b
  | _, _ => false

/-- Whether two lists of values are equal, place by place. -/
def equalItems : List Json → List Json → Bool
  | [], [] => true
  | a :: as, b :: bs => a.equal b && equalItems as bs
  | _, _ => false

/-- Whether two member lists are equal: the same keys, and equal values under them. -/
def equalMembers : List (String × Json) → List (String × Json) → Bool
  | [], [] => true
  | (k, a) :: as, (l, b) :: bs => k == l && a.equal b && equalMembers as bs
  | _, _ => false

end

/-! ### Member order -/

mutual

/-- Every object in the value lists its members in strictly ascending key order. -/
def Sorted : Json → Prop
  | .array items => SortedItems items
  | .object members => Keyed.Sorted members ∧ SortedMembers members
  | _ => True

/-- Every value of the list is sorted. -/
def SortedItems : List Json → Prop
  | [] => True
  | item :: rest => item.Sorted ∧ SortedItems rest

/-- Every value under a key is sorted. -/
def SortedMembers : List (String × Json) → Prop
  | [] => True
  | (_, value) :: rest => value.Sorted ∧ SortedMembers rest

end

/-! ### Views -/

/-- The members, if the value is an object. -/
def members? : Json → Option (Keyed Json)
  | .object members => some members
  | _ => none

/-- The text, if the value is a string. -/
def text? : Json → Option String
  | .string text => some text
  | _ => none

/-- The truth value, if the value is a boolean. -/
def bool? : Json → Option Bool
  | .bool value => some value
  | _ => none

/-- The value under `key`, if the value is an object that has one. -/
def member? (value : Json) (key : String) : Option Json := value.members?.bind (Keyed.get? · key)

/-- The value reached from `value` through the objects under the keys of `path`. -/
def at? (value : Json) : List String → Option Json
  | [] => some value
  | key :: path => (value.member? key).bind (at? · path)

theorem member?_object (members : Keyed Json) (key : String) :
    (object members).member? key = members.get? key := rfl

theorem at?_cons (value : Json) (key : String) (path : List String) :
    value.at? (key :: path) = (value.member? key).bind (at? · path) := rfl

theorem at?_object_cons {members : Keyed Json} {key : String} {value : Json}
    (found : members.get? key = some value) (path : List String) :
    (object members).at? (key :: path) = value.at? path := by
  rw [at?_cons, member?_object, found, Option.bind_some]

end Json

end Subscription
