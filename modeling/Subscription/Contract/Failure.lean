import Subscription.Contract.Envelope
import Subscription.Contract.Notice
import Subscription.Contract.Request
import Subscription.Host.Platform
import Subscription.Store.Basic

/-!
# Failed calls of the contract server

An `ApiError` is a failed request with the account that the server gave of it; a `ClientError` is
any failure of an operation that talks to the server, the local ones included. `ApiError.notice`
decides what the operator is told: a refusal with status 401 is about the token, one with status 403
about the contract.
-/

namespace Subscription

/-- A failed request and what the server said about it. -/
structure ApiError where
  network : NetworkError
  envelope : Envelope
  deriving DecidableEq, Repr

namespace ApiError

/-- A failed request, with the account that its body gives. -/
def ofNetwork (network : NetworkError) : ApiError :=
  { network, envelope := Envelope.read network.body }

/-- The failure in words. -/
def message (failure : ApiError) : String :=
  "contract api error: " ++ failure.network.text
    ++ (failure.envelope.message.elim "" fun message => ": " ++ message)

/-- The failures behind it, in words. -/
def sources (failure : ApiError) : List String := [failure.network.text]

/-- What the operator is told about a contract that a machine may not be attached to. Every reason
names the contract; without its name, or the date that the reason needs, the token counts as
expired. -/
def forbiddenNotice (status : ContractStatus) : Notice :=
  match status.contractId.filter (· ≠ "") with
  | none => .expiredToken
  | some contractId =>
    match status.reason, status.time with
    | some "no-longer-effective", some time => .contractExpired contractId time.date.text
    | some "not-effective-yet", some time => .contractNotYetEffective contractId time.date.text
    | some "never-effective", _ => .contractNeverEffective contractId
    | _, _ => .expiredToken

/-- What the operator is told. -/
def notice (failure : ApiError) : Notice :=
  match failure.network.code with
  | none => .unreachable failure.network.url
  | some 401 => .invalidToken
  | some 403 => forbiddenNotice (failure.envelope.info.getD {})
  | some code => .refused code failure.envelope.message

end ApiError

/-- The failure of an operation that talks to the contract server. -/
inductive ClientError where
  | api (cause : ApiError)
  | store (cause : StoreError)
  | platform (cause : PlatformError)
  /-- The server answered with something other than a machine token. -/
  | invalidResponse (mismatch : Mismatch)
  deriving Repr

namespace ClientError

/-- The failure in words. -/
def message : ClientError → String
  | .api cause => cause.message
  | .store cause => cause.message
  | .platform cause => "platform error: " ++ cause.message
  | .invalidResponse mismatch => "invalid contract response: " ++ mismatch.message

/-- The failures behind it, in words. -/
def sources : ClientError → List String
  | .api cause => cause.message :: cause.sources
  | .store cause => cause.message :: cause.sources
  | .platform cause => cause.message :: cause.sources
  | .invalidResponse _ => []

/-- What the operator is told. -/
def notice : ClientError → Notice
  | .api cause => cause.notice
  | other => .failure other.message

end ClientError

end Subscription
