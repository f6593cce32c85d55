import Subscription.Contract.Failure
import Subscription.Entitlement.MachineToken
import Subscription.Environment

/-!
# The calls of the contract server

Each operation sends at most one request. A machine token that comes back is stored, with the id of
the machine it was issued for, before anything else happens to it, and only if it decodes: anything
else would make the store unreadable for every later operation. An access record that comes back is
stored too, under a key of its own.
-/

namespace Subscription

/-! ### Requests -/

namespace Request

/-- What the client calls itself. -/
def userAgent : String := "contract-sync/0.1.0"

/-- The header fields of a request, with the token that it is made on behalf of. -/
def headersFor (token : Option String) : Headers :=
  let headers := Keyed.ofList [("user-agent", userAgent), ("accept", "application/json"),
    ("content-type", "application/json")]
  token.elim headers fun token => headers.insert "Authorization" ("Bearer " ++ token)

/-- Where a machine is attached. -/
def attachRoute : String := "/v1/context/machines/token"

/-- Where all resources are listed. -/
def resourcesRoute : String := "/v1/resources"

/-- Where the machine of a contract is refreshed or detached. -/
def machineRoute (contractId machineId : String) : String :=
  "/v1/contracts/" ++ contractId ++ "/context/machines/" ++ machineId

/-- Where a machine gets the access record of a resource. -/
def accessRoute (resource machineId : String) : String :=
  "/v1/resources/" ++ resource ++ "/context/machines/" ++ machineId

/-- What a machine says about itself when it is attached. -/
def attachData (machineId : String) (platform : Platform) : Json :=
  .object [
    ("architecture", .string platform.arch),
    ("machineId", .string machineId),
    ("os", .object [
      ("distribution", .string platform.distribution),
      ("kernel", .string platform.kernel),
      ("release", .string platform.release),
      ("series", .string platform.series),
      ("type", .string "Linux")])]

/-- What a machine says about itself when it is refreshed. -/
def refreshData (machineId : String) (platform : Platform) : Json :=
  .object [
    ("architecture", .string platform.arch),
    ("machineId", .string machineId),
    ("os", .object [("kernel", .string platform.kernel)])]

end Request

/-! ### Operations -/

namespace Client

variable {σ : Type}

/-- Sends a request on behalf of a token. -/
def request (env : Environment σ) (method : Method) (path : String) (token : Option String)
    (data : Option Json) : Action (World σ) ApiError Response :=
  let headers := Request.headersFor token
  (env.send { method, path, headers, data }).failingAs ApiError.ofNetwork

/-- Stores a machine token and the id of the machine it was issued for. -/
def storeToken (env : Environment σ) (token : Json) (machineId : String) :
    Action (World σ) ClientError Unit := do
  let _ ← (Action.ofExcept (MachineToken.decode token)).failingAs .invalidResponse
  (env.store.write Store.tokenKey token).onState.failingAs .store
  (env.store.write Store.machineIdKey (.string machineId)).onState.failingAs .store

/-- Exchanges a contract token for a machine token, which is stored. -/
def attach (env : Environment σ) (contractToken : String) : Action (World σ) ClientError Json := do
  let machineId ← env.machineId.failingAs .platform
  let platform ← env.platform.failingAs .platform
  let data := Request.attachData machineId platform
  let attached := request env .post Request.attachRoute (some contractToken) (some data)
  let response ← attached.failingAs .api
  storeToken env response.body machineId
  Action.log (.attached machineId)
  return response.body

/-- Gets a new machine token for an attached machine and stores it. -/
def refresh (env : Environment σ) (secret contractId : String) :
    Action (World σ) ClientError Json := do
  let machineId ← env.machineId.failingAs .platform
  let platform ← env.platform.failingAs .platform
  let route := Request.machineRoute contractId machineId
  let data := Request.refreshData machineId platform
  let response ← (request env .post route (some secret) (some data)).failingAs .api
  storeToken env response.body machineId
  return response.body

/-- Takes a machine out of its contract. Nothing is stored or removed. -/
def release (env : Environment σ) (secret contractId machineId : String) :
    Action (World σ) ClientError Json := do
  let route := Request.machineRoute contractId machineId
  let response ← (request env .delete route (some secret) none).failingAs .api
  return response.body

/-- Takes this machine, by the id it has now, out of its contract. -/
def releaseCurrent (env : Environment σ) (secret contractId : String) :
    Action (World σ) ClientError Json := do
  let machineId ← env.machineId.failingAs .platform
  release env secret contractId machineId

/-- Gets the access record of a resource and stores it. -/
def access (env : Environment σ) (secret resource : String) :
    Action (World σ) ClientError Json := do
  let machineId ← env.machineId.failingAs .platform
  let route := Request.accessRoute resource machineId
  let response ← (request env .get route (some secret) none).failingAs .api
  (env.store.write (Store.accessKey resource) response.body).onState.failingAs .store
  return response.body

/-- All resources that the server knows of. -/
def resources (env : Environment σ) : Action (World σ) ApiError (List Json) := do
  let response ← request env .get Request.resourcesRoute none none
  match response.body.member? "resources" with
  | some (.array resources) => return resources
  | _ => return []

/-- The text of a stored machine id; a number counts as its digits. -/
def machineIdText : Json → String
  | .string text => text
  | other => other.compact

/-- Takes a machine out of its contract, unless the id of this machine has changed since it was
stored: the server may then know another machine under it. -/
def detach (env : Environment σ) (secret contractId machineId : String) :
    Action (World σ) ClientError Json := do
  let current ← env.machineId.failingAs .platform
  let stored ← (env.store.read Store.machineIdKey).onState.failingAs .store
  match stored with
  | some stored =>
    if machineIdText stored = current then
      release env secret contractId machineId
    else
      Action.log (.identityChanged (machineIdText stored) current)
      return .object []
  | none => release env secret contractId machineId

end Client

end Subscription
