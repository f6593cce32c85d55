import Subscription.Calendar.Reader
import Subscription.Json.Outline

/-!
# The server's account of a failure

When the contract server refuses a request, it says why in an `Envelope`: a JSON record with a code,
a message for people, an identifier of the exchange, and what is known about the contract. All of it
is optional. A body that is no such record, or has a member of the wrong shape, says nothing at all;
members that are not known are passed over.
-/

namespace Subscription

/-- What the server says about the contract that a request failed for. -/
structure ContractStatus where
  contractId : Option String := none
  reason : Option String := none
  /-- Since when, or until when, the reason holds. -/
  time : Option Timestamp := none
  deriving DecidableEq, Repr

/-- What the server says about a failure. -/
structure Envelope where
  code : Option String := none
  message : Option String := none
  info : Option ContractStatus := none
  traceId : Option String := none
  deriving DecidableEq, Repr

namespace ContractStatus

/-- The members, in the order of their places in an array. -/
def names : List String := ["contractId", "reason", "time"]

/-- The status that an outline shows. A time that cannot be read counts as none. -/
def ofOutline? (outline : Outline) : Option ContractStatus := do
  match ← outline.fields? names with
  | [contractId, reason, time] =>
    let time ← Outline.optional? Outline.nullableText? time
    some {
      contractId := ← Outline.optional? Outline.nullableText? contractId
      reason := ← Outline.optional? Outline.nullableText? reason
      time := time.bind Timestamp.parse? }
  | _ => none

/-- Null as no status, anything else as the status it has to show. -/
def ofNullable? : Outline → Option (Option ContractStatus)
  | .null => some none
  | outline => (ofOutline? outline).map some

end ContractStatus

namespace Envelope

/-- The members, in the order of their places in an array. -/
def names : List String := ["code", "message", "info", "traceId"]

/-- The envelope that an outline shows. -/
def ofOutline? (outline : Outline) : Option Envelope := do
  match ← outline.fields? names with
  | [code, message, info, traceId] =>
    some {
      code := ← Outline.optional? Outline.nullableText? code
      message := ← Outline.optional? Outline.nullableText? message
      info := ← Outline.optional? ContractStatus.ofNullable? info
      traceId := ← Outline.optional? Outline.nullableText? traceId }
  | _ => none

/-- The envelope in a body; the empty one if there is none. -/
def read (body : String) : Envelope := ((Outline.parse? body).bind ofOutline?).getD {}

end Envelope

end Subscription
