import Subscription.Json.Basic

/-!
# How one object differs from another

`Changes.between old new` lists, key by key, what has to happen to `old` to make it `new`: a value
to put under the key, a key to drop, or changes inside an object that stands under the key on both
sides. Keys with equal values on both sides are not listed, at any depth, so there are no changes
exactly between equal objects.

The whole rule is `Change.between?`, which looks at the two values under one key;
`Changes.between` asks it for every key of either side.
-/

namespace Subscription

/-- What happens to a key from an old object to a new one. -/
inductive Change where
  /-- The key gets this value, whatever it had before. -/
  | value (new : Json)
  /-- The key goes. -/
  | dropped
  /-- The object under the key stays an object and changes inside. -/
  | nested (changes : List (String × Change))
  deriving Inhabited, Repr

/-- The changes of an object, by key. -/
abbrev Changes := Keyed Change

/-! ### Finding the changes -/

namespace Change

mutual

/-- The change that turns what stands under a key, if anything does, into `new`. -/
def between? (old : Option Json) (new : Json) : Option Change :=
  match old, new with
  | some (.object old), .object new =>
    match listed old new with
    | [] => none
    | changes => some (.nested changes)
  | some old, new => if old.equal new then none else some (.value new)
  | none, new => some (.value new)

/-- The changes from the members `old` to the members `new`, dropped keys included. -/
def listed (old : Keyed Json) (new : List (String × Json)) : Changes :=
  match new with
  | [] => old.mapValues fun _ => .dropped
  | (key, after) :: rest =>
    let others := listed (old.erase key) rest
    match between? (old.get? key) after with
    | none => others
    | some change => others.insert key change

end

end Change

/-- The changes from the members `old` to the members `new`. -/
def Changes.between (old new : Keyed Json) : Changes := Change.listed old new

/-! ### Writing the changes -/

namespace Change

mutual

/-- A change as a JSON value: the new value, null for a dropped key, and an object for changes
inside an object. -/
def toJson : Change → Json
  | .value new => new
  | .dropped => .null
  | .nested changes => .object (membersToJson changes)

/-- The changes under each key as JSON values. -/
def membersToJson : List (String × Change) → List (String × Json)
  | [] => []
  | (key, change) :: rest => (key, change.toJson) :: membersToJson rest

end

end Change

/-- The changes of an entitlement record. -/
structure Delta where
  changes : Changes
  deriving Inhabited, Repr

namespace Delta

/-- Whether nothing changed. -/
def isEmpty (delta : Delta) : Bool := delta.changes.isEmpty

/-- The change of one key of the record. -/
def get? (delta : Delta) (key : String) : Option Change := delta.changes.get? key

/-- The service type that the changes bring in. -/
def kind? (delta : Delta) : Option String :=
  match delta.get? "type" with
  | some (.value (.string kind)) => some kind
  | _ => none

/-- The delta as an object with the changes under `entitlement`, or the empty object when nothing
changed. -/
def toJson (delta : Delta) : Json :=
  if delta.isEmpty then .object []
  else .object [("entitlement", .object (Change.membersToJson delta.changes))]

end Delta

end Subscription
