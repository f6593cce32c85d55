import Subscription.Entitlement.Access
import Subscription.Entitlement.Change

/-!
# What a processor is told, and how it fails

Each service has a processor that applies the changes of its entitlement. It is told the record
before the change, the changes, and whether it may enable the service by itself.
-/

namespace Subscription

/-- What a processor is told. -/
structure ProcessorCall where
  /-- The record before the change, without its overrides put in. -/
  old : Access
  delta : Delta
  /-- Whether the processor may enable the service. -/
  allowEnable : Bool
  deriving Repr

/-- The type of the service that a call is about, from the old record or else from the changes. -/
def ProcessorCall.kind? (call : ProcessorCall) : Option String := call.old.kind?.or call.delta.kind?

/-- The failure of a processor. -/
inductive ProcessFailure where
  /-- A failure whose message is meant for the operator. -/
  | forOperator (message : String)
  /-- Any other failure: what was being done, and what went wrong behind that, down to the root. -/
  | unexpected (doing : String) (causes : List String)
  deriving DecidableEq, Repr

namespace ProcessFailure

/-- The failure in words. -/
def message : ProcessFailure → String
  | .forOperator message => message
  | .unexpected doing causes => ": ".intercalate (doing :: causes)

/-- The failures behind it, in words. -/
def sources : ProcessFailure → List String
  | .forOperator message => [message]
  | .unexpected doing causes => doing :: causes

end ProcessFailure

end Subscription
