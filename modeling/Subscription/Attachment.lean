import Subscription.Entitlement.MachineToken
import Subscription.Environment

/-!
# Whether a machine is attached

A machine is attached when its store holds a machine token with a secret.
-/

namespace Subscription

namespace Environment

variable {σ : Type}

/-- The stored machine token, if there is one. -/
def machineToken (env : Environment σ) : Action (World σ) StoreError (Option MachineToken) := do
  match ← (env.store.read Store.tokenKey).onState with
  | none => return none
  | some value =>
    let token ← (Action.ofExcept (MachineToken.decode value)).failingAs .unexpected
    return some token

/-- Whether the machine is attached. -/
def isAttached (env : Environment σ) : Action (World σ) StoreError Bool := do
  return (← env.machineToken).any MachineToken.isAttached

end Environment

end Subscription
