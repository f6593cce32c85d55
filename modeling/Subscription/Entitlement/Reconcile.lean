import Subscription.Entitlement.Override
import Subscription.Environment

/-!
# Bringing a service in line with its entitlement

`Access.reconcile` compares two access records of a service and hands what changed to the processor
of the service. Overrides are put in on both sides before the comparison, so only changes that count
on this machine are handed on. Nothing is handed on when nothing changed, whether or not there is a
processor.
-/

namespace Subscription

/-- How a service is brought in line. -/
structure ReconcileOptions where
  /-- Whether the processor may enable the service. -/
  allowEnable : Bool := false
  /-- Whether the overrides for the machine's release series are put in. -/
  seriesOverrides : Bool := true
  deriving DecidableEq, Repr

/-- Why the changes of a service were not applied. -/
inductive ReconcileError where
  /-- Neither the old record nor the changes name the type of the service. -/
  | missingType (old new : Access)
  /-- No processor is registered for the type. -/
  | unsupportedType (kind : String)
  | platform (cause : PlatformError)
  | processor (cause : ProcessFailure)
  deriving Repr

namespace ReconcileError

/-- The failure in words. -/
def message : ReconcileError → String
  | .missingType old new =>
    "Could not determine contract delta service type " ++ old.toJson.compact ++ " "
      ++ new.toJson.compact
  | .unsupportedType kind => "Unsupported entitlement type: " ++ kind
  | .platform cause => "platform error: " ++ cause.message
  | .processor cause => cause.message

/-- The failures behind it, in words. -/
def sources : ReconcileError → List String
  | .missingType .. | .unsupportedType _ => []
  | .platform cause => cause.message :: cause.sources
  | .processor cause => cause.message :: cause.sources

end ReconcileError

namespace Access

/-- Whether the record has overrides for any series. -/
def hasOverrides (access : Access) : Bool :=
  access.entitlement.any fun record => !record.series.isEmpty

/-- The changes from one access record to another in what counts on machines of `series`. -/
def delta (old new : Access) (series : Option String) : Delta :=
  { changes := Changes.between (old.comparisonView series) (new.comparisonView series) }

variable {σ : Type}

/-- The series whose overrides count. The platform is asked only if there are any overrides. -/
def overridingSeries (env : Environment σ) (old new : Access) (options : ReconcileOptions) :
    Action (World σ) PlatformError (Option String) := do
  if options.seriesOverrides && (old.hasOverrides || new.hasOverrides) then
    let platform ← env.platform
    return some platform.series
  else
    return none

/-- Finds what changed from `old` to `new` and has it applied by the processor of the service. -/
def reconcile (env : Environment σ) (old new : Access) (options : ReconcileOptions) :
    Action (World σ) ReconcileError Delta := do
  let series ← (overridingSeries env old new options).failingAs .platform
  let delta := old.delta new series
  if delta.isEmpty then
    return delta
  match old.kind?.or delta.kind? with
  | none => throw (.missingType old new)
  | some kind =>
    match env.processors.get? kind with
    | none => throw (.unsupportedType kind)
    | some processor =>
      Action.log (.processing kind delta)
      (Environment.call processor kind { old, delta, allowEnable := options.allowEnable }).failingAs
        .processor
      return delta

end Access

end Subscription
