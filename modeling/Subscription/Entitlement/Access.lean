import Subscription.Entitlement.Record

/-!
# Access records

An `Access` wraps the entitlement record of one service as the contract server hands it out, next to
members such as resource tokens. It is the unit that two states of a service are compared in; the
empty access stands for a service that was not there before.
-/

namespace Subscription

/-- An entitlement with what the server sends along. -/
structure Access where
  entitlement : Option Entitlement := none
  /-- All other members. -/
  extra : Keyed Json := []
  deriving Inhabited, Repr

namespace Access

/-- The access of an entitlement alone. -/
def ofEntitlement (entitlement : Entitlement) : Access := { entitlement := some entitlement }

/-- The type of the service, if the record names it. -/
def kind? (access : Access) : Option String := access.entitlement.bind Entitlement.kind

/-- The access that an object stands for. A null entitlement counts as absent. -/
def decode (value : Json) : Except Mismatch Access := do
  let members ← value.asMembers (.record "AccessRecord")
  let entitlement ← members.member? "entitlement" (Json.asNullable Entitlement.decode)
  .ok { entitlement := entitlement.join, extra := members.without ["entitlement"] }

/-- The access as an object: the entitlement over the free members. -/
def toJson (access : Access) : Json :=
  .object <| access.entitlement.elim access.extra fun entitlement =>
    access.extra.insert "entitlement" (.object entitlement.members)

/-- The access as an object, its members written one after another. -/
def encode (access : Access) : Json :=
  let entitlement := (access.entitlement.map fun record => ("entitlement", record.encode)).toList
  .object (Keyed.ofList (entitlement ++ access.extra))

end Access

end Subscription
