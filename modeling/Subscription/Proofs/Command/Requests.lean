import Subscription.Proofs.Command.Gate
import Subscription.Proofs.Command.Turn

/-!
# Whom a command tells its secrets

A command looks at the stored token first, asks for the machine id next, and then sends one request
at most. So all that it may send is known from the world that it begins in (`Command.MaySend`), and
which credentials go where can be read off (`Turn.Discreet`). This holds in every turn of every run
(`Command.turns_discreet`), whatever the server answered before and whatever was stored by then.
-/

namespace Subscription

variable {σ : Type}

/-! ### Requests -/

namespace Request

/-- What a request is authorized by: the values of all its fields of this name, in any case. -/
def authorizations (request : Request) : List String :=
  (request.headers.filter fun field => field.1.toLower = "authorization").map Prod.snd

/-- A request with a token has one authorization, and it is this token. -/
theorem authorizations_of_token (method : Method) (path token : String) (data : Option Json) :
    authorizations { method, path, headers := headersFor (some token), data } =
      ["Bearer " ++ token] := by
  have headers : headersFor (some token) = [("Authorization", "Bearer " ++ token),
      ("accept", "application/json"), ("content-type", "application/json"),
      ("user-agent", userAgent)] := rfl
  have named : "Authorization".toLower = "authorization" ∧ "accept".toLower ≠ "authorization" ∧
      "content-type".toLower ≠ "authorization" ∧ "user-agent".toLower ≠ "authorization" := by
    decide +kernel
  simp [authorizations, headers, named]

/-- Nobody is named when the resources are listed. -/
theorem authorizations_listing : listing.authorizations = [] := by decide +kernel

/-- The request that takes a machine out of its contract. -/
def release (secret contractId machineId : String) : Request where
  method := .delete
  path := machineRoute contractId machineId
  headers := headersFor (some secret)
  data := none

/-- The request for the access record of a resource. -/
def inquiry (secret resource machineId : String) : Request where
  method := .get
  path := accessRoute resource machineId
  headers := headersFor (some secret)
  data := none

/-! ### Routes -/

/-- The route leads to a contract. -/
def IsOfContract (path : String) : Prop := "/v1/contracts/".toList <+: path.toList

/-- The route leads to a resource. -/
def IsOfResource (path : String) : Prop := "/v1/resources/".toList <+: path.toList

theorem isOfContract_machineRoute (contractId machineId : String) :
    IsOfContract (machineRoute contractId machineId) := by
  refine ⟨(contractId ++ "/context/machines/" ++ machineId).toList, ?_⟩
  change _ = ("/v1/contracts/" ++ contractId ++ "/context/machines/" ++ machineId).toList
  simp only [String.toList_append, List.append_assoc]

theorem isOfResource_accessRoute (resource machineId : String) :
    IsOfResource (accessRoute resource machineId) := by
  refine ⟨(resource ++ "/context/machines/" ++ machineId).toList, ?_⟩
  change _ = ("/v1/resources/" ++ resource ++ "/context/machines/" ++ machineId).toList
  simp only [String.toList_append, List.append_assoc]

/-- No route leads to both. -/
theorem not_isOfContract_of_isOfResource {path : String} (h : IsOfResource path) :
    ¬IsOfContract path := by
  intro h'
  rcases List.prefix_or_prefix_of_prefix h h' with shorter | shorter
  · exact absurd shorter (by decide)
  · exact absurd shorter (by decide)

theorem not_isOfContract_attachRoute : ¬IsOfContract attachRoute := by
  unfold IsOfContract
  decide

theorem not_isOfContract_resourcesRoute : ¬IsOfContract resourcesRoute := by
  unfold IsOfContract
  decide

theorem not_isOfResource_attachRoute : ¬IsOfResource attachRoute := by
  unfold IsOfResource
  decide

theorem not_isOfResource_resourcesRoute : ¬IsOfResource resourcesRoute := by
  unfold IsOfResource
  decide

end Request

/-! ### What a command may send -/

/-- In this state the machine is attached with this token, and this is its id. -/
structure Environment.AttachedAs (env : Environment σ) (state : σ) (token : MachineToken)
    (machineId : String) : Prop where
  found : env.storedToken state = .ok (some token)
  secret : token.secret ≠ ""
  asked : (env.host.machineId state).1 = .ok machineId

/-- An id that was told is the one the host tells in this state. -/
theorem Environment.asked_of_perform {ε : Type} {env : Environment σ} {wrap : PlatformError → ε}
    {world after : World σ} {machineId : String}
    (h : (env.machineId.failingAs wrap).perform world = (.ok machineId, after)) :
    (env.host.machineId world.state).1 = .ok machineId :=
  congrArg Prod.fst (Action.of_perform_failingAs_ok h)

namespace Command

variable {env : Environment σ} {world : World σ}

/-- The requests that a command may send from this world on. -/
inductive MaySend (env : Environment σ) (world : World σ) : Command → Request → Prop
  | attach {contractToken machineId : String} {platform : Platform}
      (asked : (env.host.machineId world.state).1 = .ok machineId) :
      MaySend env world (.attach contractToken)
        ((TokenExchange.attach contractToken).request machineId platform)
  | refresh {token : MachineToken} {machineId : String} {platform : Platform}
      (attached : env.AttachedAs world.state token machineId) :
      MaySend env world .refresh
        ((TokenExchange.refresh token.secret token.contractId).request machineId platform)
  | detach {token : MachineToken} {machineId : String}
      (attached : env.AttachedAs world.state token machineId) :
      MaySend env world .detach (.release token.secret token.contractId machineId)
  | access {token : MachineToken} {resource machineId : String}
      (attached : env.AttachedAs world.state token machineId) :
      MaySend env world (.access resource) (.inquiry token.secret resource machineId)
  | resources : MaySend env world .resources .listing

/-- The token that a command works with is the one that is stored, and it has a secret. -/
theorem stored_of_attachedToken (reads : env.store.ReadsOnly) {token : MachineToken}
    {after : World σ} (h : (attachedToken env).perform world = (.ok token, after)) :
    env.storedToken world.state = .ok (some token) ∧ token.secret ≠ "" ∧ after = world := by
  cases found : env.storedToken world.state with
  | error cause =>
    have read := Environment.perform_machineToken reads world
    rw [found] at read
    rw [attachedToken, Action.perform_bind_of_error (Action.perform_failingAs_of_error read _)] at h
    cases congrArg Prod.fst h
  | ok stored =>
    rw [perform_attachedToken reads found] at h
    cases stored with
    | none => cases congrArg Prod.fst h
    | some current =>
      by_cases secret : current.secret = ""
      · simp [Option.filter_some, MachineToken.isAttached, secret] at h
      · simp [Option.filter_some, MachineToken.isAttached, secret] at h
        obtain ⟨rfl, rfl⟩ := h
        exact ⟨rfl, secret, rfl⟩

end Command

/-! ### What each operation sends -/

section Operations

variable {env : Environment σ} {world : World σ} {P : Request → Prop}

/-- An exchange sends its request at most, with the id that the host tells. -/
theorem TokenExchange.sends_action {exchange : TokenExchange}
    (h : ∀ machineId platform, (env.host.machineId world.state).1 = .ok machineId →
      P (exchange.request machineId platform)) : (exchange.action env).Sends P world := by
  refine .bind_of_quiet (.failingAs (.machineId env) _) fun machineId identified asked => ?_
  refine .bind_of_quiet (.failingAs (.platform env) _) fun platform placed _ => ?_
  have allowed := h machineId platform (Environment.asked_of_perform asked)
  refine .bind (.failingAs (.failingAs (.send env allowed) _) _) fun response => ?_
  refine .bind (Client.quiet_storeToken env _ _) fun _ => ?_
  exact .bind (.note (Journal.requests_logged _)) fun _ => .pure _

/-- Services are brought in line without asking the server. -/
theorem Update.quiet_serve (attached : Option MachineToken) (body : Json) :
    (serve env attached body).Quiet := by
  refine .bind (.failingAs (.ofExcept _) _) fun updated => ?_
  refine .bind (.lift (offline_applyEntitlements env attached updated)) fun outcomes => ?_
  exact .bind (.failingAs (.ofExcept _) _) fun _ => .log _

/-- An update sends the request of its exchange at most. -/
theorem Update.sends_run (reads : env.store.ReadsOnly) {contractToken : Option String}
    (h : ∀ stored exchange machineId platform, env.storedToken world.state = .ok stored →
      exchangeFor (stored.filter MachineToken.isAttached) contractToken = .ok exchange →
      (env.host.machineId world.state).1 = .ok machineId →
      P (exchange.request machineId platform)) : (run env contractToken).Sends P world := by
  cases found : env.storedToken world.state with
  | error cause => exact .of_eq (congrArg Prod.snd (perform_run_unreadable reads found _))
  | ok stored =>
    refine .congr (perform_run reads found _) (.bind ?_ (quiet_serve _))
    have fetched := perform_fetch env (stored.filter MachineToken.isAttached) contractToken world
    cases chosen : exchangeFor (stored.filter MachineToken.isAttached) contractToken with
    | error cause =>
      rw [chosen] at fetched
      exact .of_eq (congrArg Prod.snd fetched)
    | ok exchange =>
      rw [chosen] at fetched
      refine .congr fetched (.failingAs (TokenExchange.sends_action fun id facts => ?_) _)
      exact h stored exchange id facts found chosen

theorem Client.sends_release {secret contractId machineId : String}
    (h : P (.release secret contractId machineId)) :
    (release env secret contractId machineId).Sends P world :=
  .bind (.failingAs (.failingAs (.send env h) _) _) fun _ => .pure _

/-- A detachment sends the release of the machine from its contract at most. -/
theorem Client.sends_detach {secret contractId machineId : String}
    (h : P (.release secret contractId machineId)) :
    (detach env secret contractId machineId).Sends P world := by
  refine .bind_of_quiet (.failingAs (.machineId env) _) fun current _ _ => ?_
  refine .bind_of_quiet (.failingAs (.onState _) _) fun stored _ _ => ?_
  cases stored with
  | none => exact sends_release h
  | some stored =>
    dsimp only
    split
    · exact sends_release h
    · exact .of_quiet (.bind (.log _) fun _ => .pure _)

/-- An inquiry names the id that the host tells. -/
theorem Client.sends_access {secret resource : String}
    (h : ∀ machineId, (env.host.machineId world.state).1 = .ok machineId →
      P (.inquiry secret resource machineId)) : (access env secret resource).Sends P world := by
  refine .bind_of_quiet (.failingAs (.machineId env) _) fun machineId identified asked => ?_
  have allowed := h machineId (Environment.asked_of_perform asked)
  refine .bind (.failingAs (.failingAs (.send env allowed) _) _) fun response => ?_
  exact .bind (.failingAs (.onState _) _) fun _ => .pure _

theorem Client.sends_resources (h : P .listing) : (resources env).Sends P world := by
  refine .bind (.failingAs (.send env h) _) fun response => ?_
  split <;> exact .pure _

end Operations

namespace Command

variable {env : Environment σ} {world : World σ}

/-- A command sends one request at most, and that is one that it may send. -/
theorem sends_run (reads : env.store.ReadsOnly) (world : World σ) (command : Command) :
    (command.run env).Sends (MaySend env world command) world := by
  cases command with
  | attach contractToken =>
    refine .bind (.failingAs (Update.sends_run reads ?_) _) fun _ => .pure _
    intro stored exchange machineId platform found chosen asked
    cases held : stored.filter MachineToken.isAttached with
    | some token =>
      rw [held] at chosen
      cases chosen
    | none =>
      rw [held] at chosen
      obtain rfl : TokenExchange.attach contractToken = exchange := Except.ok.inj chosen
      exact .attach asked
  | refresh =>
    refine .bind (.failingAs (Update.sends_run reads ?_) _) fun _ => .pure _
    intro stored exchange machineId platform found chosen asked
    cases held : stored.filter MachineToken.isAttached with
    | none =>
      rw [held] at chosen
      cases chosen
    | some token =>
      rw [held] at chosen
      obtain rfl : TokenExchange.refresh token.secret token.contractId = exchange :=
        Except.ok.inj chosen
      obtain ⟨rfl, secret⟩ := Option.filter_eq_some_iff.1 held
      exact .refresh ⟨found, by simpa [MachineToken.isAttached] using secret, asked⟩
  | detach =>
    -- The first id goes into the request; that the host is asked again sends nothing.
    refine .bind_of_quiet (quiet_attachedToken env) fun token after held => ?_
    obtain ⟨found, secret, rfl⟩ := stored_of_attachedToken reads held
    refine .bind_of_quiet (.failingAs (.machineId env) _) fun machineId identified asked => ?_
    have attached : env.AttachedAs after.state token machineId :=
      ⟨found, secret, Environment.asked_of_perform asked⟩
    refine .bind (.failingAs (Client.sends_detach (.detach attached)) _) fun _ => ?_
    exact .bind (.failingAs (quiet_clear env token) _) fun _ => .bind (.log _) fun _ => .pure _
  | access resource =>
    refine .bind_of_quiet (quiet_attachedToken env) fun token after held => ?_
    obtain ⟨found, secret, rfl⟩ := stored_of_attachedToken reads held
    refine .bind (.failingAs (Client.sends_access fun machineId asked => ?_) _) fun _ => .pure _
    exact .access ⟨found, secret, asked⟩
  | resources =>
    exact .bind (.failingAs (Client.sends_resources .resources) _) fun _ => .pure _

/-! ### Discretion -/

/-- The request of a command shows credentials only where they belong. -/
structure Discreet (env : Environment σ) (world : World σ) (command : Command) (request : Request) :
    Prop where
  /-- A contract token is shown only where machines are attached. -/
  attach : ∀ contractToken, command = .attach contractToken → request.method = .post ∧
    request.path = Request.attachRoute ∧ request.authorizations = ["Bearer " ++ contractToken]
  /-- No other command goes there. -/
  attachOnly : request.path = Request.attachRoute → ∃ contractToken, command = .attach contractToken
  /-- A contract is dealt with by its own machine, with the token that was stored. -/
  contract : Request.IsOfContract request.path → ∃ token machineId,
    env.AttachedAs world.state token machineId ∧
    request.path = Request.machineRoute token.contractId machineId ∧
    request.authorizations = ["Bearer " ++ token.secret]
  /-- So is a resource. -/
  resource : Request.IsOfResource request.path → ∃ token machineId resource,
    env.AttachedAs world.state token machineId ∧
    request.path = Request.accessRoute resource machineId ∧
    request.authorizations = ["Bearer " ++ token.secret]
  /-- All resources are listed for anybody. -/
  listing : request.path = Request.resourcesRoute →
    request.method = .get ∧ request.authorizations = []
  /-- There is nowhere else to go. -/
  routed : request.path = Request.attachRoute ∨ Request.IsOfContract request.path ∨
    Request.IsOfResource request.path ∨ request.path = Request.resourcesRoute
  /-- What only asks or removes has no data. -/
  bare : request.method = .get ∨ request.method = .delete → request.data = none
  /-- No machine token is empty; only an operator can give an empty token. -/
  secret : "Bearer " ∈ request.authorizations → command = .attach ""

/-- Only an empty secret leaves nothing behind the word. -/
theorem bearer_inj {secret : String} (h : "Bearer " ∈ ["Bearer " ++ secret]) : secret = "" := by
  have same := congrArg String.toList (List.mem_singleton.1 h)
  rw [String.toList_append, List.self_eq_append_right] at same
  exact String.toList_eq_nil_iff.1 same

/-- What goes to a contract with the secret of its machine is discreet. -/
theorem discreet_of_contract {command : Command} {request : Request} {token : MachineToken}
    {machineId : String} (attached : env.AttachedAs world.state token machineId)
    (other : ∀ contractToken, command ≠ .attach contractToken)
    (path : request.path = Request.machineRoute token.contractId machineId)
    (authorizations : request.authorizations = ["Bearer " ++ token.secret])
    (bare : request.method = .get ∨ request.method = .delete → request.data = none) :
    Discreet env world command request := by
  have ofContract : Request.IsOfContract request.path :=
    path ▸ Request.isOfContract_machineRoute token.contractId machineId
  exact {
    attach := fun contractToken same => absurd same (other contractToken)
    attachOnly := fun same => absurd (same ▸ ofContract) Request.not_isOfContract_attachRoute
    contract := fun _ => ⟨token, machineId, attached, path, authorizations⟩
    resource := fun ofResource =>
      absurd ofContract (Request.not_isOfContract_of_isOfResource ofResource)
    listing := fun same => absurd (same ▸ ofContract) Request.not_isOfContract_resourcesRoute
    routed := .inr (.inl ofContract)
    bare
    secret := fun empty => absurd (bearer_inj (authorizations ▸ empty)) attached.secret }

/-- What a command may send is discreet. -/
theorem MaySend.discreet {command : Command} {request : Request}
    (h : MaySend env world command request) : Discreet env world command request := by
  -- The routes tell the commands apart, so what is said of the other routes holds of no request
  -- here.
  cases h with
  | @attach contractToken machineId platform asked =>
    have authorizations : Request.authorizations
        ((TokenExchange.attach contractToken).request machineId platform) =
        ["Bearer " ++ contractToken] := Request.authorizations_of_token ..
    exact {
      attach := by
        rintro _ ⟨⟩
        exact ⟨rfl, rfl, authorizations⟩
      attachOnly := fun _ => ⟨contractToken, rfl⟩
      contract := fun contrary => absurd contrary Request.not_isOfContract_attachRoute
      resource := fun contrary => absurd contrary Request.not_isOfResource_attachRoute
      listing := fun contrary => absurd contrary (by decide : Request.attachRoute ≠ _)
      routed := .inl rfl
      bare := by rintro (⟨⟨⟩⟩ | ⟨⟨⟩⟩)
      secret := fun empty => congrArg Command.attach (bearer_inj (authorizations ▸ empty)) }
  | refresh attached =>
    refine discreet_of_contract attached (fun _ => by simp) rfl
      (Request.authorizations_of_token ..) ?_
    rintro (⟨⟨⟩⟩ | ⟨⟨⟩⟩)
  | detach attached =>
    exact discreet_of_contract attached (fun _ => by simp) rfl
      (Request.authorizations_of_token ..) fun _ => rfl
  | @access token resource machineId attached =>
    have ofResource := Request.isOfResource_accessRoute resource machineId
    have authorizations : (Request.inquiry token.secret resource machineId).authorizations =
        ["Bearer " ++ token.secret] := Request.authorizations_of_token ..
    exact {
      attach := by rintro _ ⟨⟩
      attachOnly := fun same => absurd (same ▸ ofResource) Request.not_isOfResource_attachRoute
      contract := fun contrary =>
        absurd contrary (Request.not_isOfContract_of_isOfResource ofResource)
      resource := fun _ => ⟨token, machineId, resource, attached, rfl, authorizations⟩
      listing := fun same => absurd (same ▸ ofResource) Request.not_isOfResource_resourcesRoute
      routed := .inr (.inr (.inl ofResource))
      bare := fun _ => rfl
      secret := fun empty => absurd (bearer_inj (authorizations ▸ empty)) attached.secret }
  | resources =>
    exact {
      attach := by rintro _ ⟨⟩
      attachOnly := fun contrary => absurd contrary (by decide : Request.resourcesRoute ≠ _)
      contract := fun contrary => absurd contrary Request.not_isOfContract_resourcesRoute
      resource := fun contrary => absurd contrary Request.not_isOfResource_resourcesRoute
      listing := fun _ => ⟨rfl, Request.authorizations_listing⟩
      routed := .inr (.inr (.inr rfl))
      bare := fun _ => rfl
      secret := fun empty => by
        rw [Request.authorizations_listing] at empty
        cases empty }

/-- **Credentials go only where they belong**, in every turn of every run of commands: each sends
one request at most, and that is discreet. The servers may answer as they like, and may be others in
every turn, like the hosts and the stores; what is stored at first is not restricted either. -/
theorem turns_discreet {steps : List (Environment σ × Command)}
    (reads : ∀ step ∈ steps, step.1.store.ReadsOnly) {world : World σ} {turn : Turn σ}
    (mem : turn ∈ turns world steps) :
    turn.requests.length ≤ 1 ∧
      ∀ request ∈ turn.requests, Discreet turn.env turn.before turn.command request := by
  have readsOnly : turn.env.store.ReadsOnly := reads _ (mem_of_mem_turns mem)
  obtain ⟨sent, between, one, allowed⟩ := sends_run readsOnly turn.before turn.command
  rw [Turn.requests_of_sent between]
  exact ⟨one, fun request mem => (allowed request mem).discreet⟩

/-- A machine is attached, refreshed, asked for and detached, and all resources are listed. -/
theorem turns_discreet_busyLivepatch :
    let steps := [Command.attach "token", .refresh, .access "livepatch", .resources, .detach].map
      fun command => (Update.busyLivepatch, command)
    let run := turns { state := [] } steps
    (∀ step ∈ steps, step.1.store.ReadsOnly) ∧
    (run.map fun turn => turn.requests.map Request.path) =
      [["/v1/context/machines/token"], ["/v1/contracts/contract/context/machines/machine"],
        ["/v1/resources/livepatch/context/machines/machine"], ["/v1/resources"],
        ["/v1/contracts/contract/context/machines/machine"]] ∧
    ∀ turn ∈ run, turn.requests.length ≤ 1 ∧
      ∀ request ∈ turn.requests, Discreet turn.env turn.before turn.command request := by
  intro steps run
  have reads : ∀ step ∈ steps, step.1.store.ReadsOnly := by
    intro step mem
    obtain ⟨command, -, rfl⟩ := List.mem_map.1 mem
    exact Store.readsOnly_memory
  exact ⟨reads, by decide +kernel, fun turn mem => turns_discreet reads mem⟩

end Command

end Subscription
