import Subscription.Contract.Client
import Subscription.Proofs.Journal
import Subscription.Proofs.Keyed
import Subscription.Store.Memory

/-!
# Exchanging a token for a machine token

Attaching and refreshing differ in the request that is sent and in what is logged in the end; all
else is `TokenExchange.action`. `TokenExchange.Performed` lists all that it can come to where the
entries are kept in memory. The two entries are written in the last step only, so every failure lies
before both of them.
-/

namespace Subscription

/-- The entries are kept in memory, and the host leaves them alone. -/
structure Environment.InMemory (env : Environment (Keyed Json)) : Prop where
  store_eq : env.store = Store.memory
  machineId_state : ∀ entries, (env.host.machineId entries).2.1 = entries

/-- What is particular about exchanging a token for a machine token. -/
structure TokenExchange where
  /-- The request, for the machine id and the platform. -/
  request : String → Platform → Request
  /-- What is logged once the machine token is stored, for the machine id. -/
  events : String → List LogEvent

namespace TokenExchange

/-- A contract token is exchanged when a machine is attached. -/
def attach (contractToken : String) : TokenExchange where
  request machineId platform :=
    { method := .post
      path := Request.attachRoute
      headers := Request.headersFor (some contractToken)
      data := some (Request.attachData machineId platform) }
  events machineId := [.attached machineId]

/-- The secret of the machine token is exchanged for a new one when a machine is refreshed. -/
def refresh (secret contractId : String) : TokenExchange where
  request machineId platform :=
    { method := .post
      path := Request.machineRoute contractId machineId
      headers := Request.headersFor (some secret)
      data := some (Request.refreshData machineId platform) }
  events _ := []

variable {σ : Type}

/-- Sends the request for a machine token, and stores the machine token that comes back. -/
def action (env : Environment σ) (exchange : TokenExchange) :
    Action (World σ) ClientError Json := do
  let machineId ← env.machineId.failingAs .platform
  let platform ← env.platform.failingAs .platform
  let sent := (env.send (exchange.request machineId platform)).failingAs ApiError.ofNetwork
  let response ← sent.failingAs .api
  Client.storeToken env response.body machineId
  Action.note ((exchange.events machineId).map .logged)
  return response.body

theorem attach_eq_action (env : Environment σ) (contractToken : String) :
    Client.attach env contractToken = (attach contractToken).action env := rfl

theorem refresh_eq_action (env : Environment σ) (secret contractId : String) :
    Client.refresh env secret contractId = (refresh secret contractId).action env := by
  unfold action
  simp only [refresh, List.map_nil, Action.note_nil, pure_bind]
  rfl

/-! ### All that can come of it -/

/-- The world after the host was asked for the machine id. -/
def identified (env : Environment (Keyed Json)) (world : World (Keyed Json)) :
    World (Keyed Json) :=
  { world with journal := world.journal ++ (env.host.machineId world.state).2.2.map .logged }

/-- The world after the request was answered. -/
def answered (env : Environment (Keyed Json)) (request : Request) (world : World (Keyed Json)) :
    World (Keyed Json) :=
  { world with journal := world.journal ++
      .requested request :: (env.server world.journal request).1.map .logged }

/-- The entries with a machine token and the id of the machine it was issued for put in. -/
def storing (entries : Keyed Json) (token : Json) (machineId : String) : Keyed Json :=
  (entries.insert Store.tokenKey token).insert Store.machineIdKey (.string machineId)

/-- What was stored is found again under the two keys, and the other entries are as before. -/
theorem get?_storing (entries : Keyed Json) (token : Json) (machineId key : String) :
    (storing entries token machineId).get? key =
      if Store.machineIdKey = key then some (.string machineId)
      else if Store.tokenKey = key then some token else entries.get? key := by
  rw [storing, Keyed.get?_insert, Keyed.get?_insert]

/-- All that an exchange can come to, with the world it leaves. -/
inductive Performed (env : Environment (Keyed Json)) (exchange : TokenExchange)
    (world : World (Keyed Json)) : Except ClientError Json → World (Keyed Json) → Prop
  | unidentified {cause : PlatformError}
      (asked : (env.host.machineId world.state).1 = .error cause) :
      Performed env exchange world (.error (.platform cause)) (identified env world)
  | unplaced {machineId : String} {cause : PlatformError}
      (asked : (env.host.machineId world.state).1 = .ok machineId)
      (placed : env.host.platform world.state = .error cause) :
      Performed env exchange world (.error (.platform cause)) (identified env world)
  | refused {machineId : String} {platform : Platform} {failure : NetworkError} {request : Request}
      (asked : (env.host.machineId world.state).1 = .ok machineId)
      (placed : env.host.platform world.state = .ok platform)
      (sent : request = exchange.request machineId platform)
      (answer : (env.server (identified env world).journal request).2 = .error failure) :
      Performed env exchange world (.error (.api (.ofNetwork failure)))
        (answered env request (identified env world))
  | undecodable {machineId : String} {platform : Platform} {response : Response}
      {request : Request} {mismatch : Mismatch}
      (asked : (env.host.machineId world.state).1 = .ok machineId)
      (placed : env.host.platform world.state = .ok platform)
      (sent : request = exchange.request machineId platform)
      (answer : (env.server (identified env world).journal request).2 = .ok response)
      (decoded : MachineToken.decode response.body = .error mismatch) :
      Performed env exchange world (.error (.invalidResponse mismatch))
        (answered env request (identified env world))
  | stored {machineId : String} {platform : Platform} {response : Response} {request : Request}
      {token : MachineToken} {after : World (Keyed Json)}
      (asked : (env.host.machineId world.state).1 = .ok machineId)
      (placed : env.host.platform world.state = .ok platform)
      (sent : request = exchange.request machineId platform)
      (answer : (env.server (identified env world).journal request).2 = .ok response)
      (decoded : MachineToken.decode response.body = .ok token)
      (state_eq : after.state = storing world.state response.body machineId)
      (journal_eq : after.journal = (answered env request (identified env world)).journal ++
        (exchange.events machineId).map .logged) :
      Performed env exchange world (.ok response.body) after

/-- A token is stored together with the machine id, once it could be decoded. -/
theorem perform_storeToken {env : Environment (Keyed Json)} (h : env.InMemory) (token : Json)
    (machineId : String) (world : World (Keyed Json)) :
    (Client.storeToken env token machineId).perform world =
      match MachineToken.decode token with
      | .error mismatch => (.error (.invalidResponse mismatch), world)
      | .ok _ => (.ok (), { world with state := storing world.state token machineId }) := by
  rw [Client.storeToken, h.store_eq, Action.perform_bind, Action.perform_failingAs,
    Action.perform_ofExcept]
  cases MachineToken.decode token <;> rfl

/-- Nothing else comes of an exchange. -/
theorem performed {env : Environment (Keyed Json)} (h : env.InMemory) (exchange : TokenExchange)
    (world : World (Keyed Json)) :
    Performed env exchange world ((exchange.action env).perform world).1
      ((exchange.action env).perform world).2 := by
  have machineId : env.machineId.perform world =
      ((env.host.machineId world.state).1, identified env world) := by
    rw [Environment.perform_machineId, h.machineId_state]
    rfl
  have platform : env.platform.perform (identified env world) =
      (env.host.platform world.state, identified env world) := rfl
  rw [action]
  -- The cases are split in the order of the steps, and the first that fails settles the result.
  cases asked : (env.host.machineId world.state).1 with
  | error cause =>
    rw [asked] at machineId
    rw [Action.perform_bind_of_error (Action.perform_failingAs_of_error machineId _)]
    exact .unidentified asked
  | ok id =>
    rw [asked] at machineId
    rw [Action.perform_bind_of_ok (Action.perform_failingAs_of_ok machineId _)]
    cases placed : env.host.platform world.state with
    | error cause =>
      rw [placed] at platform
      rw [Action.perform_bind_of_error (Action.perform_failingAs_of_error platform _)]
      exact .unplaced asked placed
    | ok facts =>
      rw [placed] at platform
      rw [Action.perform_bind_of_ok (Action.perform_failingAs_of_ok platform _)]
      have send := Environment.perform_send env (exchange.request id facts) (identified env world)
      cases answer : (env.server (identified env world).journal (exchange.request id facts)).2 with
      | error failure =>
        rw [answer] at send
        rw [Action.perform_bind_of_error (Action.perform_failingAs_of_error
          (Action.perform_failingAs_of_error send _) _)]
        exact .refused asked placed rfl answer
      | ok response =>
        rw [answer] at send
        rw [Action.perform_bind_of_ok (Action.perform_failingAs_of_ok
          (Action.perform_failingAs_of_ok send _) _), Action.perform_bind, perform_storeToken h]
        cases decoded : MachineToken.decode response.body with
        | error mismatch => exact .undecodable asked placed rfl answer decoded
        | ok token => exact .stored asked placed rfl answer decoded rfl rfl

/-! ### What was sent and what was stored -/

namespace Performed

variable {env : Environment (Keyed Json)} {exchange : TokenExchange}
  {world after : World (Keyed Json)}

/-- Only what decodes is ever stored. -/
theorem decode_eq_ok {body : Json} (h : exchange.Performed env world (.ok body) after) :
    ∃ token, MachineToken.decode body = .ok token := by
  cases h with
  | stored _ _ _ _ decoded => exact ⟨_, decoded⟩

theorem exchanges_identified :
    World.exchanges env.server world (identified env world) = [] :=
  (World.Offline.of_logged world _).exchanges_eq_nil

theorem journal_answered (request : Request) :
    (answered env request (identified env world)).journal =
      world.journal ++ ((env.host.machineId world.state).2.2.map .logged ++
        .requested request :: (env.server (identified env world).journal request).1.map .logged) :=
  List.append_assoc ..

/-- The server was asked once, from the journal that the question for the id left. -/
theorem exchanges_answered (request : Request) :
    World.exchanges env.server world (answered env request (identified env world)) =
      [(request, (env.server (identified env world).journal request).2)] := by
  rw [World.exchanges_of_journal_eq (journal_answered request),
    Journal.exchanges_eq_singleton _ _ (Journal.requests_logged _) (Journal.requests_logged _)]
  rfl

/-- What is stored is as the server sent it. -/
theorem sorted {body : Json} (h : exchange.Performed env world (.ok body) after)
    (answers : ∀ past request response, (env.server past request).2 = .ok response →
      response.body.Sorted) : body.Sorted := by
  cases h with
  | stored _ _ _ answer => exact answers _ _ _ answer

/-- An exchange goes on from the journal so far, and calls no processor. -/
theorem journal_eq {result : Except ClientError Json}
    (h : exchange.Performed env world result after) :
    ∃ news : Journal, after.journal = world.journal ++ news ∧ news.calls = [] := by
  have quiet (events events' : List LogEvent) (request : Request) :
      Journal.calls (events.map .logged ++ .requested request :: events'.map .logged) = [] := by
    rw [Journal.calls_append, Journal.calls_logged]
    exact Journal.calls_logged events'
  cases h with
  | unidentified | unplaced => exact ⟨_, rfl, Journal.calls_logged _⟩
  | refused | undecodable => exact ⟨_, journal_answered _, quiet ..⟩
  | stored _ _ _ _ _ _ journal_eq =>
    rw [journal_answered, List.append_assoc] at journal_eq
    refine ⟨_, journal_eq, ?_⟩
    rw [Journal.calls_append, quiet, Journal.calls_logged, List.append_nil]

/-- An exchange calls no processor. -/
theorem calls_eq {result : Except ClientError Json}
    (h : exchange.Performed env world result after) :
    after.journal.calls = world.journal.calls := by
  obtain ⟨news, journal, quiet⟩ := h.journal_eq
  rw [journal, Journal.calls_append, quiet, List.append_nil]

/-- A failed exchange leaves the entries alone, and no answer to it was a machine token. -/
theorem of_error {cause : ClientError} (h : exchange.Performed env world (.error cause) after) :
    after.state = world.state ∧ ∀ request response,
      (request, .ok response) ∈ World.exchanges env.server world after →
        ∃ mismatch, MachineToken.decode response.body = .error mismatch := by
  cases h with
  | unidentified | unplaced =>
    refine ⟨rfl, fun _ _ mem => ?_⟩
    rw [exchanges_identified] at mem
    cases mem
  | refused _ _ _ answer =>
    refine ⟨rfl, fun _ _ mem => ?_⟩
    rw [exchanges_answered, answer] at mem
    simp at mem
  | undecodable _ _ _ answer decoded =>
    refine ⟨rfl, fun _ _ mem => ?_⟩
    rw [exchanges_answered, answer] at mem
    obtain ⟨-, rfl⟩ : _ ∧ _ = _ := by simpa using mem
    exact ⟨_, decoded⟩

/-- The token is in place as soon as the exchange is done. -/
theorem get?_tokenKey {body : Json} (h : exchange.Performed env world (.ok body) after) :
    after.state.get? Store.tokenKey = some body := by
  cases h with
  | stored _ _ _ _ _ state_eq =>
    rw [state_eq, get?_storing, if_neg (by decide), if_pos rfl]

/-- A completed exchange is one request, answered by what is stored now. -/
theorem of_ok {body : Json} (h : exchange.Performed env world (.ok body) after) :
    ∃ (request : Request) (headers : Headers) (machineId : String),
      World.exchanges env.server world after = [(request, .ok { body, headers })] ∧
      (env.host.machineId world.state).1 = .ok machineId ∧
      after.state = storing world.state body machineId := by
  cases h with
  | @stored machineId _ response request _ _ asked _ _ answer _ state_eq journal_eq =>
    refine ⟨request, response.headers, machineId, ?_, asked, state_eq⟩
    rw [World.exchanges_append_quiet env.server (journal_answered request) journal_eq
      (Journal.requests_logged _), exchanges_answered, answer]

end Performed

end TokenExchange

end Subscription
