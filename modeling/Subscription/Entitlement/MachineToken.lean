import Subscription.Entitlement.Record

/-!
# Machine tokens

A `MachineToken` is what the server hands out when a machine is attached: the secret that later
requests carry, and the contract with its entitlement records. Members without a meaning here are
kept at every level.
-/

namespace Subscription

/-- The contract a machine is attached to. -/
structure Contract where
  id : String
  entitlements : List Entitlement
  /-- All other members. -/
  extra : Keyed Json := []
  deriving Inhabited, Repr

/-- What a machine token says about its contract. -/
structure TokenInfo where
  contract : Contract
  /-- All other members. -/
  extra : Keyed Json := []
  deriving Inhabited, Repr

/-- The secret of an attached machine with what it stands for. -/
structure MachineToken where
  secret : String
  info : TokenInfo
  /-- All other members. -/
  extra : Keyed Json := []
  deriving Inhabited, Repr

/-! ### Decoding -/

/-- The contract that an object stands for. Without a list of entitlements it has none. -/
def Contract.decode (value : Json) : Except Mismatch Contract := do
  let members ← value.asMembers (.record "ContractInfo")
  let id ← members.member? "id" Json.asText
  let entitlements ← members.member? "resourceEntitlements" fun records => do
    (← records.asItems).mapM Entitlement.decode
  .ok {
    id := ← Keyed.required "id" id
    entitlements := entitlements.getD []
    extra := members.without ["id", "resourceEntitlements"] }

/-- The token information that an object stands for. -/
def TokenInfo.decode (value : Json) : Except Mismatch TokenInfo := do
  let members ← value.asMembers (.record "MachineTokenInfo")
  let contract ← members.member? "contractInfo" Contract.decode
  .ok {
    contract := ← Keyed.required "contractInfo" contract
    extra := members.without ["contractInfo"] }

/-- The machine token that an object stands for. -/
def MachineToken.decode (value : Json) : Except Mismatch MachineToken := do
  let members ← value.asMembers (.record "MachineToken")
  let secret ← members.member? "machineToken" Json.asText
  let info ← members.member? "machineTokenInfo" TokenInfo.decode
  .ok {
    secret := ← Keyed.required "machineToken" secret
    info := ← Keyed.required "machineTokenInfo" info
    extra := members.without ["machineToken", "machineTokenInfo"] }

/-! ### Encoding -/

/-- The contract as an object. -/
def Contract.encode (contract : Contract) : Json :=
  .object <| Keyed.ofList <|
    [("id", .string contract.id),
      ("resourceEntitlements", .array (contract.entitlements.map Entitlement.encode))]
    ++ contract.extra

/-- The token information as an object. -/
def TokenInfo.encode (info : TokenInfo) : Json :=
  .object (Keyed.ofList (("contractInfo", info.contract.encode) :: info.extra))

/-- The machine token as an object. -/
def MachineToken.encode (token : MachineToken) : Json :=
  .object <| Keyed.ofList <|
    [("machineToken", .string token.secret), ("machineTokenInfo", token.info.encode)] ++ token.extra

/-! ### The contract of a token -/

namespace MachineToken

def contractId (token : MachineToken) : String := token.info.contract.id

def entitlements (token : MachineToken) : List Entitlement := token.info.contract.entitlements

/-- The first record of a service type. -/
def entitlement? (token : MachineToken) (kind : String) : Option Entitlement :=
  token.entitlements.find? (·.kind == some kind)

/-- The records in ascending order of their type, one without a type first. Records of one type
keep their order. -/
def sortedEntitlements (token : MachineToken) : List Entitlement :=
  token.entitlements.mergeSort fun a b => decide (a.kind.getD "" ≤ b.kind.getD "")

/-- Whether the token carries a secret. Only then is its machine attached. -/
def isAttached (token : MachineToken) : Bool := token.secret ≠ ""

end MachineToken

end Subscription
