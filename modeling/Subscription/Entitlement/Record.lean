import Subscription.Json.Shape

/-!
# Entitlement records

An `Entitlement` says what a contract grants for one service. Three of its members have a meaning
here: `type` names the service, `entitled` says whether it is granted, and `series` holds fragments
that override the record on one release series. All other members belong to the service; they are
kept as they are.

A record has two renderings as an object. `Entitlement.members` puts the members with a meaning over
the free ones; `Entitlement.encode` writes the members one after another, the free ones last. They
agree on every decoded record, because `Entitlement.decode` leaves no member with a meaning among
the free ones.
-/

namespace Subscription

/-- What a contract grants for one service. -/
structure Entitlement where
  /-- The type of the service. -/
  kind : Option String := none
  entitled : Option Bool := none
  /-- For each release series the members to put over the record there. -/
  series : Keyed (Keyed Json) := []
  /-- All other members. -/
  fields : Keyed Json := []
  deriving Inhabited, Repr

namespace Entitlement

/-- The members with a meaning of their own. -/
def knownKeys : List String := ["entitled", "series", "type"]

/-- Whether the service is granted. A record that does not say so grants nothing. -/
def isEntitled (record : Entitlement) : Bool := record.entitled.getD false

/-- The fragments of a series table. -/
def decodeSeries (value : Json) : Except Mismatch (Keyed (Keyed Json)) := do
  let fragments ← value.asMembers .members
  fragments.mapM fun (name, fragment) => do .ok (name, ← fragment.asMembers .members)

/-- The record that an object stands for. A null type or entitlement counts as absent. -/
def decode (value : Json) : Except Mismatch Entitlement := do
  let members ← value.asMembers (.record "EntitlementRecord")
  let entitled ← members.member? "entitled" (Json.asNullable Json.asBool)
  let series ← members.member? "series" decodeSeries
  let kind ← members.member? "type" (Json.asNullable Json.asText)
  .ok {
    kind := kind.join
    entitled := entitled.join
    series := series.getD []
    fields := members.without knownKeys }

/-- The series table as an object. -/
def seriesJson (record : Entitlement) : Json := .object (record.series.mapValues .object)

/-- The members of the record: those with a meaning of their own over the free ones. -/
def members (record : Entitlement) : Keyed Json :=
  let members := record.fields
  let members := record.kind.elim members fun kind => members.insert "type" (.string kind)
  let members :=
    record.entitled.elim members fun granted => members.insert "entitled" (.bool granted)
  if record.series.isEmpty then members else members.insert "series" record.seriesJson

/-- The record as an object, its members written one after another. -/
def encode (record : Entitlement) : Json :=
  let kind := (record.kind.map fun kind => ("type", Json.string kind)).toList
  let entitled := (record.entitled.map fun granted => ("entitled", Json.bool granted)).toList
  let series := if record.series.isEmpty then [] else [("series", record.seriesJson)]
  .object (Keyed.ofList (kind ++ entitled ++ series ++ record.fields))

end Entitlement

end Subscription
