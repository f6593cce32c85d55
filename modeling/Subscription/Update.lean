import Subscription.Attachment
import Subscription.Contract.Client
import Subscription.Entitlement.Reconcile

/-!
# Bringing a machine up to date with its contract

`Update.run` attaches a machine with a contract token, or refreshes it when no token is given, and
then brings every service in line with its entitlement in the new machine token. Each entitlement is
attempted, in the order of the types, whatever became of those before it; what went wrong is logged
for each and reported as one failure in the end.
-/

namespace Subscription

/-! ### What became of each entitlement -/

/-- What became of one entitlement. -/
inductive Outcome where
  | applied
  /-- Not applied, for a reason that the operator can mend. -/
  | refused (reason : String)
  /-- Not applied, for any other reason. -/
  | broken (reason : String)
  deriving DecidableEq, Repr

namespace Outcome

/-- What became of an entitlement whose changes were or were not applied. -/
def ofResult : Except ReconcileError Delta → Outcome
  | .ok _ => .applied
  | .error (.unsupportedType kind) => .refused (ReconcileError.unsupportedType kind).message
  | .error (.processor (.forOperator message)) => .refused message
  | .error other => .broken other.message

/-- What is logged about it. -/
def events (kind : Option String) : Outcome → List LogEvent
  | .applied => []
  | .refused reason => [.refused (kind.getD "unknown") reason]
  | .broken reason => [.broken (kind.getD "unknown") reason]

/-- Whether something broke. -/
def isBroken : Outcome → Bool
  | .broken _ => true
  | _ => false

/-- Whether something was refused. -/
def isRefused : Outcome → Bool
  | .refused _ => true
  | _ => false

/-- What the operator is told about all of them together: something that broke comes first. -/
def summary (outcomes : List Outcome) : Except Notice Unit :=
  if outcomes.any isBroken then .error .servicesBroken
  else if outcomes.any isRefused then .error .servicesFailed
  else .ok ()

end Outcome

/-! ### Updates -/

/-- A call that does not fit the state of the machine. -/
inductive Misuse where
  | alreadyAttached
  | notAttached
  deriving DecidableEq, Repr

/-- The misuse in words. -/
def Misuse.message : Misuse → String
  | .alreadyAttached => "Got unexpected contract_token on an already attached machine"
  | .notAttached => "This machine is not attached to a contract"

/-- Why a machine was not brought up to date. -/
inductive UpdateError where
  | misuse (cause : Misuse)
  /-- Any failure, as the operator is told of it. -/
  | failed (notice : Notice)
  deriving DecidableEq, Repr

namespace UpdateError

/-- The failure in words. -/
def message : UpdateError → String
  | .misuse cause => cause.message
  | .failed notice => notice.text

/-- The failures behind it, in words. -/
def sources (failure : UpdateError) : List String := [failure.message]

/-- The failure of an operation that talks to the server, as the operator is told of it. -/
def ofClient (cause : ClientError) : UpdateError := .failed cause.notice

end UpdateError

namespace Update

variable {σ : Type}

/-- The access record that an entitlement was last known by: the first of its type in the token
before. Nothing is known of one without a type. -/
def previousAccess (previous : Option MachineToken) (record : Entitlement) : Access :=
  let known := record.kind.bind fun kind => previous.bind (·.entitlement? kind)
  (known.map Access.ofEntitlement).getD {}

/-- Brings one service in line with its entitlement. -/
def applyEntitlement (env : Environment σ) (previous : Option MachineToken) (record : Entitlement) :
    StateM (World σ) Outcome := do
  let old := previousAccess previous record
  let result ← (Access.reconcile env old (.ofEntitlement record) {}).outcome
  let outcome := Outcome.ofResult result
  modify fun world =>
    { world with journal := world.journal ++ (outcome.events record.kind).map .logged }
  return outcome

/-- Brings every service in line with its entitlement, in the order of the types. -/
def applyEntitlements (env : Environment σ) (previous : Option MachineToken)
    (updated : MachineToken) : StateM (World σ) (List Outcome) :=
  updated.sortedEntitlements.mapM (applyEntitlement env previous)

/-- Gets a machine token for a machine whose token so far is given, if it is attached. -/
def fetch (env : Environment σ) (attached : Option MachineToken) (contractToken : Option String) :
    Action (World σ) UpdateError Json :=
  match attached, contractToken with
  | some _, some _ => throw (.misuse .alreadyAttached)
  | none, none => throw (.misuse .notAttached)
  | none, some contractToken => (Client.attach env contractToken).failingAs .ofClient
  | some current, none =>
    (Client.refresh env current.secret current.contractId).failingAs .ofClient

/-- Attaches the machine with a contract token, or refreshes it, and applies its entitlements. -/
def run (env : Environment σ) (contractToken : Option String) :
    Action (World σ) UpdateError Unit := do
  let stored ← env.machineToken.failingAs fun cause => .ofClient (.store cause)
  let attached := stored.filter MachineToken.isAttached
  let body ← fetch env attached contractToken
  let updated ← (Action.ofExcept (MachineToken.decode body)).failingAs fun mismatch =>
    .ofClient (.invalidResponse mismatch)
  let outcomes ← applyEntitlements env attached updated
  (Action.ofExcept (Outcome.summary outcomes)).failingAs .failed
  Action.log (.updated updated.contractId outcomes.length)

end Update

end Subscription
