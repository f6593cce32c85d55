import Subscription.Contract.Request
import Subscription.Entitlement.Processor
import Subscription.Json.Printer

/-!
# What is logged

Everything that the library reports while it works, as one `LogEvent` for each kind of report. An
event has a level, a message and named fields. Texts that may hold secrets are masked before they
become part of an event.
-/

namespace Subscription

/-- How much an event matters. -/
inductive LogLevel where
  | debug
  | info
  | warn
  | error
  deriving DecidableEq, Repr

/-- Something worth a line in the log. -/
inductive LogEvent where
  /-- A request is about to be sent; its headers and data are masked. -/
  | request (method : Method) (url headers data : String)
  /-- An answer arrived; its body is masked. -/
  | response (status : Nat) (url body : String)
  | attached (machineId : String)
  /-- The machine is no longer the one that was attached. -/
  | identityChanged (cached current : String)
  /-- Changes are about to be handed to a processor. -/
  | processing (kind : String) (delta : Delta)
  /-- Changes were received by a processor that only records them. -/
  | received (kind : String) (allowEnable : Bool) (delta : Delta)
  /-- An entitlement could not be applied, for a reason the operator can mend. -/
  | refused (kind reason : String)
  /-- An entitlement could not be applied, for any other reason. -/
  | broken (kind reason : String)
  /-- All entitlements of a contract were applied. -/
  | updated (contractId : String) (entitlements : Nat)
  /-- The machine has no id of its own and gets one. -/
  | generatingMachineId (path : String)
  | detached (contractId : String)
  deriving Repr

namespace LogEvent

/-- The level of an event. -/
def level : LogEvent → LogLevel
  | .request .. | .response .. | .identityChanged .. | .processing .. | .generatingMachineId .. =>
    .debug
  | .attached .. | .received .. | .updated .. | .detached .. => .info
  | .refused .. => .warn
  | .broken .. => .error

/-- The message of an event. -/
def message : LogEvent → String
  | .request .. => "contract request"
  | .response .. => "contract response"
  | .attached .. => "attached machine to contract"
  | .identityChanged .. => "Found new machine-id. Do not call detach on contract backend"
  | .processing .. => "processing contract deltas"
  | .received .. => "contract deltas received"
  | .refused .. => "failed to process contract delta"
  | .broken .. => "unexpected error processing contract delta"
  | .updated .. => "contract updated"
  | .generatingMachineId .. => "generating fallback machine id"
  | .detached .. => "detached machine"

/-- A count as a field. -/
def count (n : Nat) : Json := .number (.unsigned n.toUInt64)

/-- The fields of an event. -/
def fields : LogEvent → Keyed Json
  | .request method url headers data =>
    [("data", .string data), ("headers", .string headers), ("method", .string method.text),
      ("url", .string url)]
  | .response status url body =>
    [("body", .string body), ("status", count status), ("url", .string url)]
  | .attached machineId => [("machine_id", .string machineId)]
  | .identityChanged cached current => [("cached", .string cached), ("current", .string current)]
  | .processing kind delta =>
    [("delta", .string delta.toJson.compact), ("entitlement", .string kind)]
  | .received kind allowEnable delta =>
    [("allow_enable", .bool allowEnable), ("delta", .string delta.toJson.compact),
      ("entitlement", .string kind)]
  | .refused kind reason | .broken kind reason =>
    [("entitlement", .string kind), ("error", .string reason)]
  | .updated contractId entitlements =>
    [("contract_id", .string contractId), ("entitlements", count entitlements)]
  | .generatingMachineId path => [("path", .string path)]
  | .detached contractId => [("contract_id", .string contractId)]

end LogEvent

end Subscription
