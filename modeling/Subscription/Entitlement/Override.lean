import Subscription.Entitlement.Access

/-!
# Overrides for a release series

A record may hold, for some release series, a fragment of members that replace its own on machines
of that series. Objects merge key by key, at every depth; any other value of the fragment takes the
place of what the record has there.
-/

namespace Subscription

namespace Json

mutual

/-- The value `fragment` put over what stands in its place. -/
def superpose (base : Option Json) (fragment : Json) : Json :=
  match base, fragment with
  | some (.object members), .object fragment => .object (overlay members fragment)
  | _, fragment => fragment

/-- The members `fragment` put over the members `base`. -/
def overlay (base : Keyed Json) (fragment : List (String × Json)) : Keyed Json :=
  match fragment with
  | [] => base
  | (key, value) :: rest => overlay (base.insert key (superpose (base.get? key) value)) rest

end

end Json

namespace Entitlement

/-- The record on machines of a release series: its fragment for the series put over it, and no
series table. A fragment does not change the type to anything but a text, nor the grant to anything
but a boolean. -/
def forSeries (record : Entitlement) (series : String) : Entitlement :=
  let fragment := (record.series.get? series).getD []
  { kind := ((fragment.get? "type").bind Json.text?).or record.kind
    entitled := ((fragment.get? "entitled").bind Json.bool?).or record.entitled
    series := []
    fields := Json.overlay record.fields (fragment.without knownKeys) }

end Entitlement

/-- The members in which an access is compared: its entitlement on machines of `series`, or as it
stands when no series is given. -/
def Access.comparisonView (access : Access) (series : Option String) : Keyed Json :=
  match access.entitlement, series with
  | none, _ => []
  | some record, some series => (record.forSeries series).members
  | some record, none => record.members

end Subscription
