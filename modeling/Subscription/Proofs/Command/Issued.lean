import Subscription.Proofs.Command.Detachment
import Subscription.Proofs.Command.Requests

/-!
# How a machine token comes to be stored

A machine token is stored when the server answers with one, together with the id that the host told
just before, and in no other case does an update touch the token or the id (`TokenCourse`,
`Update.course`). It is assumed that the store works (`Environment.Works`), as the store in memory
does and a store of files.
-/

namespace Subscription

variable {σ : Type}

/-- The store works, and the host tells the same id when it is asked twice in a row. -/
structure Environment.Works (env : Environment σ) (holds : σ → Store.Entries → Prop) : Prop where
  store : env.store.Works holds
  reads : env.store.ReadsOnly
  machineId : ∀ {state entries}, holds state entries →
    holds (env.host.machineId state).2.1 entries
  steady : ∀ state, (env.host.machineId (env.host.machineId state).2.1).1 =
    (env.host.machineId state).1

theorem Environment.Works.spares {env : Environment σ} {holds : σ → Store.Entries → Prop}
    (h : env.Works holds) : env.Spares holds := ⟨h.store.toSpares, h.machineId⟩

theorem Json.restorable_string (text : String) : (Json.string text).Restorable :=
  ⟨trivial, trivial, Nat.zero_le _⟩

section Exchanges

variable {env : Environment σ} {holds : σ → Store.Entries → Prop} {entries : Store.Entries}
  {world after : World σ}

/-- The entries with a machine token, as the store shows it, and the id it was issued for put in. -/
def Store.Entries.issued (entries : Store.Entries) (token : Option Json) (machineId : String) :
    Store.Entries :=
  Function.update (Function.update entries Store.tokenKey token) Store.machineIdKey
    (some (.string machineId))

/-- A token that decodes is stored together with the id. -/
theorem Client.perform_storeToken (works : env.Works holds) (held : holds world.state entries)
    {body : Json} {token : MachineToken} (decoded : MachineToken.decode body = .ok token)
    (machineId : String) : ∃ after shown,
      (storeToken env body machineId).perform world = (.ok (), after) ∧
      holds after.state (entries.issued shown machineId) ∧
      (body.Restorable → shown = some body) ∧ after.journal = world.journal := by
  have first := works.store.writes body held (.inl rfl)
  obtain ⟨shown, heldBetween, restored⟩ := works.store.written held first
  have second := works.store.writes (.string machineId) heldBetween (.inr rfl)
  obtain ⟨told, heldAfter, read⟩ := works.store.written heldBetween second
  rw [read (Json.restorable_string machineId)] at heldAfter
  refine ⟨{ world with state := _ }, shown, ?_, heldAfter, restored, rfl⟩
  have decodes : ((Action.ofExcept (MachineToken.decode body)).failingAs
      ClientError.invalidResponse).perform world = (.ok token, world) := by
    rw [Action.perform_failingAs, Action.perform_ofExcept, decoded]
    rfl
  rw [storeToken, Action.perform_bind_of_ok decodes, Action.perform_bind, Action.perform_failingAs,
    Action.perform_onState, first]
  dsimp only [Except.mapError]
  rw [Action.perform_failingAs, Action.perform_onState, second]
  rfl

/-- The server answered with a machine token between the two worlds. -/
def World.Tokened (server : Server) (first second : World σ) : Prop :=
  ∃ request response token, (request, .ok response) ∈ World.exchanges server first second ∧
    MachineToken.decode response.body = .ok token

/-- Where nothing was asked no token was issued. -/
theorem World.Sent.not_tokened (h : World.Sent world after []) :
    ¬World.Tokened env.server world after := by
  rintro ⟨request, response, token, mem, -⟩
  rw [(World.Sent.refl world).exchanges_eq h] at mem
  rw [(World.Offline.refl world).exchanges_eq_nil] at mem
  cases mem

/-- Between the two worlds a machine token was stored or nothing, and it was stored if the server
answered with one. -/
inductive TokenCourse (env : Environment σ) (holds : σ → Store.Entries → Prop)
    (entries : Store.Entries) (world after : World σ) : Prop
  | kept (held : holds after.state entries) (untokened : ¬World.Tokened env.server world after)
  | stored {request : Request} {response : Response} {token : MachineToken} {machineId : String}
      {shown : Option Json}
      (one : World.exchanges env.server world after = [(request, .ok response)])
      (decoded : MachineToken.decode response.body = .ok token)
      (asked : (env.host.machineId world.state).1 = .ok machineId)
      (restored : response.body.Restorable → shown = some response.body)
      (held : holds after.state (entries.issued shown machineId))

/-- The world after the host was asked for the machine id. -/
def Environment.named (env : Environment σ) (world : World σ) : World σ :=
  (env.machineId.perform world).2

theorem Environment.perform_machineId_eq {told : Except PlatformError String}
    (asked : (env.host.machineId world.state).1 = told) :
    env.machineId.perform world = (told, env.named world) :=
  Prod.ext asked rfl

/-- The world after a request was sent. -/
def Environment.answered (env : Environment σ) (request : Request) (world : World σ) : World σ :=
  (env.send request |>.perform world).2

theorem sent_answered (env : Environment σ) (request : Request) (world : World σ) :
    World.Sent world (env.answered request (env.named world)) [request] :=
  (env.sent_machineId world).trans (env.sent_send request _)

/-- What was asked once was answered once. -/
theorem exchanges_answered (env : Environment σ) (request : Request) (world : World σ) :
    World.exchanges env.server world (env.answered request (env.named world)) =
      [(request, (env.server (env.named world).journal request).2)] := by
  have journal : (env.answered request (env.named world)).journal = world.journal ++
      ((env.host.machineId world.state).2.2.map .logged ++ .requested request ::
        (env.server (env.named world).journal request).1.map .logged) := List.append_assoc ..
  rw [World.exchanges_of_journal_eq journal, Journal.exchanges_eq_singleton _ _
    (Journal.requests_logged _) (Journal.requests_logged _)]
  rfl

/-- What is done with the answer to an exchange. -/
def TokenExchange.conclude (env : Environment σ) (exchange : TokenExchange) (machineId : String)
    (response : Response) : Action (World σ) ClientError Json := do
  Client.storeToken env response.body machineId
  Action.note ((exchange.events machineId).map .logged)
  return response.body

/-- An exchange sends its request and then deals with the answer. -/
theorem TokenExchange.perform_action (exchange : TokenExchange) {machineId : String}
    {platform : Platform} (asked : (env.host.machineId world.state).1 = .ok machineId)
    (placed : env.host.platform (env.named world).state = .ok platform) :
    (exchange.action env).perform world =
      let answered := env.answered (exchange.request machineId platform) (env.named world)
      match (env.server (env.named world).journal (exchange.request machineId platform)).2 with
      | .error failure => (.error (.api (.ofNetwork failure)), answered)
      | .ok response => (exchange.conclude env machineId response).perform answered := by
  have named := Environment.perform_machineId_eq asked
  have facts : env.platform.perform (env.named world) = (.ok platform, env.named world) :=
    Prod.ext placed rfl
  rw [action, Action.perform_bind_of_ok (Action.perform_failingAs_of_ok named _),
    Action.perform_bind_of_ok (Action.perform_failingAs_of_ok facts _), Action.perform_bind,
    Action.perform_failingAs, Action.perform_failingAs, Environment.perform_send]
  cases (env.server (env.named world).journal (exchange.request machineId platform)).2 <;> rfl

/-- If the host knows itself, an exchange sends its request and no other. -/
theorem TokenExchange.sent_action {exchange : TokenExchange} {machineId : String}
    {platform : Platform} (asked : (env.host.machineId world.state).1 = .ok machineId)
    (placed : env.host.platform (env.named world).state = .ok platform) :
    World.Sent world ((exchange.action env).perform world).2
      [exchange.request machineId platform] := by
  have sent := sent_answered env (exchange.request machineId platform) world
  rw [exchange.perform_action asked placed]
  cases (env.server (env.named world).journal (exchange.request machineId platform)).2 with
  | error failure => exact sent
  | ok response =>
    have quiet : (exchange.conclude env machineId response).Quiet := by
      refine .bind (Client.quiet_storeToken env _ _) fun _ => ?_
      exact .bind (.note (Journal.requests_logged _)) fun _ => .pure _
    exact List.append_nil [exchange.request machineId platform] ▸ sent.trans (quiet _)

/-- If the host knows itself and the server answers with a machine token, that is stored. -/
theorem TokenExchange.stored_of_answer (works : env.Works holds) (held : holds world.state entries)
    {exchange : TokenExchange} {machineId : String} {platform : Platform} {response : Response}
    {token : MachineToken} (asked : (env.host.machineId world.state).1 = .ok machineId)
    (placed : env.host.platform (env.named world).state = .ok platform)
    (answer : (env.server (env.named world).journal (exchange.request machineId platform)).2 =
      .ok response) (decoded : MachineToken.decode response.body = .ok token) :
    ∃ after shown, (exchange.action env).perform world = (.ok response.body, after) ∧
      World.exchanges env.server world after =
        [(exchange.request machineId platform, .ok response)] ∧
      holds after.state (entries.issued shown machineId) ∧
      (response.body.Restorable → shown = some response.body) := by
  let request := exchange.request machineId platform
  have heldNamed : holds (env.answered request (env.named world)).state entries :=
    works.machineId held
  obtain ⟨stored, shown, put, heldAfter, restored, journal⟩ :=
    Client.perform_storeToken works heldNamed decoded machineId
  let noted : Action (World σ) ClientError Unit :=
    .note ((exchange.events machineId).map .logged)
  refine ⟨(noted.perform stored).2, shown, ?_, ?_, heldAfter, restored⟩
  · rw [exchange.perform_action asked placed, answer]
    dsimp only
    rw [conclude, Action.perform_bind_of_ok put]
    rfl
  · -- Neither the two writes nor the note add to what was exchanged.
    have last : World.Sent stored (noted.perform stored).2 [] :=
      Action.Quiet.note (Journal.requests_logged _) stored
    have quiet := (World.Sent.of_journal_eq journal).trans last
    rw [(sent_answered env request world).exchanges_eq quiet, exchanges_answered, answer]

/-- An exchange stores the machine token that the server answers with. -/
theorem TokenExchange.course (works : env.Works holds) (held : holds world.state entries)
    (exchange : TokenExchange) :
    TokenCourse env holds entries world ((exchange.action env).perform world).2 := by
  have heldNamed : holds (env.named world).state entries := works.machineId held
  have untokened : ¬World.Tokened env.server world (env.named world) :=
    (env.sent_machineId world).not_tokened
  cases asked : (env.host.machineId world.state).1 with
  | error cause =>
    have named := Environment.perform_machineId_eq asked
    rw [action, Action.perform_bind_of_error (Action.perform_failingAs_of_error named _)]
    exact .kept heldNamed untokened
  | ok machineId =>
  cases placed : env.host.platform (env.named world).state with
  | error cause =>
    have named := Environment.perform_machineId_eq asked
    have facts : env.platform.perform (env.named world) = (.error cause, env.named world) :=
      Prod.ext placed rfl
    rw [action, Action.perform_bind_of_ok (Action.perform_failingAs_of_ok named _),
      Action.perform_bind_of_error (Action.perform_failingAs_of_error facts _)]
    exact .kept heldNamed untokened
  | ok platform =>
  let request := exchange.request machineId platform
  have one := exchanges_answered env request world
  have performed := exchange.perform_action asked placed
  cases answer : (env.server (env.named world).journal request).2 with
  | error failure =>
    rw [answer] at performed one
    rw [performed]
    refine .kept heldNamed ?_
    rintro ⟨_, _, _, mem, -⟩
    rw [one] at mem
    cases List.mem_singleton.1 mem
  | ok response =>
  cases decoded : MachineToken.decode response.body with
  | ok token =>
    obtain ⟨after, shown, performed, one, heldAfter, restored⟩ :=
      stored_of_answer works held asked placed answer decoded
    rw [performed]
    exact .stored one decoded asked restored heldAfter
  | error mismatch =>
    rw [answer] at performed one
    -- The answer is decoded before anything is written.
    have refused : (Client.storeToken env response.body machineId).perform
        (env.answered request (env.named world)) =
        (.error (.invalidResponse mismatch), env.answered request (env.named world)) := by
      rw [Client.storeToken, Action.perform_bind, Action.perform_failingAs,
        Action.perform_ofExcept, decoded]
      rfl
    rw [performed]
    dsimp only
    rw [conclude, Action.perform_bind_of_error refused]
    refine .kept heldNamed ?_
    rintro ⟨_, _, token, mem, other⟩
    rw [one] at mem
    obtain ⟨-, rfl⟩ : _ ∧ _ = _ := by simpa using mem
    cases decoded.symm.trans other

/-- What sends nothing and keeps the entries may follow. -/
theorem TokenCourse.bind {ε α β : Type} {action : Action (World σ) ε α}
    {next : α → Action (World σ) ε β} {sent : List Request}
    (course : TokenCourse env holds entries world (action.perform world).2)
    (between : World.Sent world (action.perform world).2 sent) (quiet : ∀ value, (next value).Quiet)
    (keeps : ∀ value left, (next value).Keeps fun state => holds state left) :
    TokenCourse env holds entries world ((action >>= next).perform world).2 := by
  rw [Action.perform_bind]
  cases performed : action.perform world with | mk result after =>
  rw [performed] at course between
  cases result with
  | error failure => exact course
  | ok value =>
    have same := between.exchanges_eq (quiet value after) env.server
    cases course with
    | kept held untokened =>
      refine .kept (keeps value entries after held) ?_
      rintro ⟨request, response, token, mem, decoded⟩
      rw [same] at mem
      exact untokened ⟨request, response, token, mem, decoded⟩
    | stored one decoded asked restored held =>
      exact .stored (same.trans one) decoded asked restored (keeps value _ after held)

/-- To bring the services in line keeps whatever holds of the state. -/
theorem Update.keeps_serve {P : σ → Prop} (attached : Option MachineToken) (body : Json) :
    (serve env attached body).Keeps P := by
  refine .bind (.failingAs (.ofExcept _) _) fun updated => ?_
  refine .bind (keeps_applyEntitlements _ _) fun outcomes => ?_
  exact .bind (.failingAs (.ofExcept _) _) fun _ => .note _

/-- An update stores the machine token that the server answers with. -/
theorem Update.course (works : env.Works holds) (held : holds world.state entries)
    (contractToken : Option String) :
    TokenCourse env holds entries world ((run env contractToken).perform world).2 := by
  cases found : env.storedToken world.state with
  | error cause =>
    rw [perform_run_unreadable works.reads found]
    exact .kept held (World.Sent.refl world).not_tokened
  | ok stored =>
    have fetched := perform_fetch env (stored.filter MachineToken.isAttached) contractToken world
    rw [perform_run works.reads found]
    cases chosen : exchangeFor (stored.filter MachineToken.isAttached) contractToken with
    | error cause =>
      rw [chosen] at fetched
      rw [Action.perform_bind_of_error fetched]
      exact .kept held (World.Sent.refl world).not_tokened
    | ok exchange =>
      rw [chosen] at fetched
      have sends : (exchange.action env).Sends (fun _ => True) world :=
        TokenExchange.sends_action fun _ _ _ => trivial
      obtain ⟨sent, between, -⟩ := sends
      -- The services take no part in it: they ask no server and write no entry.
      have course := exchange.course works held
      have same : ((fetch env (stored.filter MachineToken.isAttached) contractToken).perform
          world).2 = ((exchange.action env).perform world).2 := congrArg Prod.snd fetched
      rw [← same] at course between
      exact course.bind between (quiet_serve _) fun body left => keeps_serve _ body

/-- If the host knows itself and the server answers with a machine token, an update stores it,
whatever becomes of the services. -/
theorem Update.stored_of_answer (works : env.Works holds) (held : holds world.state entries)
    {stored : Option MachineToken} {contractToken : Option String} {exchange : TokenExchange}
    {machineId : String} {platform : Platform} {response : Response} {token : MachineToken}
    (found : env.storedToken world.state = .ok stored)
    (chosen : exchangeFor (stored.filter MachineToken.isAttached) contractToken = .ok exchange)
    (asked : (env.host.machineId world.state).1 = .ok machineId)
    (placed : env.host.platform (env.named world).state = .ok platform)
    (answer : (env.server (env.named world).journal (exchange.request machineId platform)).2 =
      .ok response) (decoded : MachineToken.decode response.body = .ok token) :
    ∃ shown, holds ((run env contractToken).perform world).2.state
        (entries.issued shown machineId) ∧
      (response.body.Restorable → shown = some response.body) := by
  obtain ⟨after, shown, performed, -, heldAfter, restored⟩ :=
    TokenExchange.stored_of_answer works held asked placed answer decoded
  have fetched := perform_fetch env (stored.filter MachineToken.isAttached) contractToken world
  rw [chosen] at fetched
  dsimp only at fetched
  rw [Action.perform_failingAs_of_ok performed] at fetched
  rw [perform_run works.reads found, Action.perform_bind_of_ok fetched]
  have keeps : (serve env (stored.filter MachineToken.isAttached) response.body).Keeps
      fun state => holds state (entries.issued shown machineId) := keeps_serve _ _
  exact ⟨shown, keeps after heldAfter, restored⟩

end Exchanges

end Subscription
