import Subscription.Proofs.Contract.TokenExchange
import Subscription.Proofs.Entitlement.Reconcile
import Subscription.Update

/-!
# The course of an update

`Update.Ran` lists all that an update can come to where the entries are kept in memory: it ends
before any exchange, or with a failed exchange, or it goes on to the services with the machine token
that was just stored. Bringing the services in line sends no request and leaves the entries alone
(`Update.offline_applyEntitlements`).
-/

namespace Subscription

namespace Update

/-! ### Bringing services in line -/

section Services

variable {σ : Type} (env : Environment σ) (previous : Option MachineToken)

/-- The world after one service was brought in line. -/
theorem run_applyEntitlement (record : Entitlement) (world : World σ) :
    StateT.run (applyEntitlement env previous record) world =
      let (result, after) := (Access.reconcile env (previousAccess previous record)
        (.ofEntitlement record) {}).perform world
      let outcome := Outcome.ofResult result
      (outcome, { after with
        journal := after.journal ++ (outcome.events record.kind).map .logged }) := rfl

theorem offline_applyEntitlement (record : Entitlement) (world : World σ) :
    World.Offline world (StateT.run (applyEntitlement env previous record) world).2 := by
  rw [run_applyEntitlement]
  exact (Access.reconciled env _ _ _ world).offline.trans (.of_logged _ _)

/-- The records are taken one after another, each in the world that those before it left. -/
theorem run_mapM_cons (record : Entitlement) (rest : List Entitlement) (world : World σ) :
    (StateT.run ((record :: rest).mapM (applyEntitlement env previous)) world).2 =
      (StateT.run (rest.mapM (applyEntitlement env previous))
        (StateT.run (applyEntitlement env previous record) world).2).2 := by
  rw [List.mapM_cons]
  rfl

/-- All services are brought in line without a request. -/
theorem offline_applyEntitlements (updated : MachineToken) (world : World σ) :
    World.Offline world (StateT.run (applyEntitlements env previous updated) world).2 := by
  rw [applyEntitlements]
  induction updated.sortedEntitlements generalizing world with
  | nil => exact .refl world
  | cons record rest ih =>
    rw [run_mapM_cons]
    exact (offline_applyEntitlement env previous record world).trans (ih _)

end Services

/-! ### The stored token -/

/-- The machine token among the entries, if there is one. -/
def storedToken (entries : Keyed Json) : Except Mismatch (Option MachineToken) :=
  match entries.get? Store.tokenKey with
  | none => .ok none
  | some value => (MachineToken.decode value).map some

theorem storedToken_eq_ok_some_iff {entries : Keyed Json} {token : MachineToken} :
    storedToken entries = .ok (some token) ↔ ∃ value,
      entries.get? Store.tokenKey = some value ∧ MachineToken.decode value = .ok token := by
  rw [storedToken]
  cases entries.get? Store.tokenKey with
  | none => simp
  | some value => cases decoded : MachineToken.decode value <;> simp [decoded, Except.map]

theorem mem_storedToken {entries : Keyed Json} {token : MachineToken}
    (h : storedToken entries = .ok (some token)) : token ∈ (storedToken entries).toOption.join := by
  rw [h]
  rfl

theorem perform_machineToken {env : Environment (Keyed Json)} (h : env.InMemory)
    (world : World (Keyed Json)) :
    env.machineToken.perform world = ((storedToken world.state).mapError .unexpected, world) := by
  have read : (Store.memory.read Store.tokenKey).onState.perform world =
      (.ok (world.state.get? Store.tokenKey), world) := rfl
  rw [Environment.machineToken, h.store_eq, Action.perform_bind_of_ok read, storedToken]
  cases world.state.get? Store.tokenKey with
  | none => rfl
  | some value =>
    dsimp only
    rw [Action.perform_bind, Action.perform_failingAs, Action.perform_ofExcept]
    cases MachineToken.decode value <;> rfl

/-- The exchange that an update calls for, by the token of the machine so far, if it is attached. -/
def exchangeFor : Option MachineToken → Option String → Except Misuse TokenExchange
  | some _, some _ => .error .alreadyAttached
  | none, none => .error .notAttached
  | none, some contractToken => .ok (.attach contractToken)
  | some current, none => .ok (.refresh current.secret current.contractId)

/-! ### All that can come of an update -/

/-- All that an update can come to, with the world it leaves. -/
inductive Ran (env : Environment (Keyed Json)) (contractToken : Option String)
    (world : World (Keyed Json)) : Except UpdateError Unit → World (Keyed Json) → Prop
  | unreadable {mismatch : Mismatch} (read : storedToken world.state = .error mismatch) :
      Ran env contractToken world (.error (.ofClient (.store (.unexpected mismatch)))) world
  | misused {stored : Option MachineToken} {cause : Misuse}
      (read : storedToken world.state = .ok stored)
      (chosen : exchangeFor (stored.filter MachineToken.isAttached) contractToken = .error cause) :
      Ran env contractToken world (.error (.misuse cause)) world
  | failed {stored : Option MachineToken} {exchange : TokenExchange} {cause : ClientError}
      {after : World (Keyed Json)}
      (read : storedToken world.state = .ok stored)
      (chosen : exchangeFor (stored.filter MachineToken.isAttached) contractToken = .ok exchange)
      (exchanged : exchange.Performed env world (.error cause) after) :
      Ran env contractToken world (.error (.ofClient cause)) after
  | applied {stored : Option MachineToken} {exchange : TokenExchange} {body : Json}
      {updated : MachineToken} {fetched after final : World (Keyed Json)} {outcomes : List Outcome}
      (read : storedToken world.state = .ok stored)
      (chosen : exchangeFor (stored.filter MachineToken.isAttached) contractToken = .ok exchange)
      (exchanged : exchange.Performed env world (.ok body) fetched)
      (decoded : MachineToken.decode body = .ok updated)
      (services : StateT.run (applyEntitlements env (stored.filter MachineToken.isAttached) updated)
        fetched = (outcomes, after))
      (logged : ∃ events : List LogEvent,
        final = { after with journal := after.journal ++ events.map .logged }) :
      Ran env contractToken world ((Outcome.summary outcomes).mapError .failed) final

/-- A token is fetched by one exchange, if the machine fits the update. -/
theorem perform_fetch {σ : Type} (env : Environment σ) (attached : Option MachineToken)
    (contractToken : Option String) (world : World σ) :
    (fetch env attached contractToken).perform world =
      match exchangeFor attached contractToken with
      | .error cause => (.error (.misuse cause), world)
      | .ok exchange => ((exchange.action env).failingAs .ofClient).perform world := by
  cases attached <;> cases contractToken
  case some.none current =>
    rw [fetch, exchangeFor, TokenExchange.refresh_eq_action]
  case none.some contractToken =>
    rw [fetch, exchangeFor, TokenExchange.attach_eq_action]
  all_goals rfl

/-- With a machine token the services are brought in line, and the result is what came of all of
them together. -/
private theorem perform_serve (env : Environment (Keyed Json)) (previous : Option MachineToken)
    {body : Json} {updated : MachineToken} {fetched after : World (Keyed Json)}
    {outcomes : List Outcome} (decoded : MachineToken.decode body = .ok updated)
    (services : StateT.run (applyEntitlements env previous updated) fetched = (outcomes, after)) :
    ∃ events : List LogEvent, (do
      let updated ← (Action.ofExcept (MachineToken.decode body)).failingAs fun mismatch =>
        .ofClient (.invalidResponse mismatch)
      let outcomes ← applyEntitlements env previous updated
      (Action.ofExcept (Outcome.summary outcomes)).failingAs .failed
      Action.log (.updated updated.contractId outcomes.length) :
        Action (World (Keyed Json)) UpdateError Unit).perform fetched =
      ((Outcome.summary outcomes).mapError .failed,
        { after with journal := after.journal ++ events.map .logged }) := by
  have decodes : ((Action.ofExcept (MachineToken.decode body)).failingAs fun mismatch =>
      UpdateError.ofClient (.invalidResponse mismatch)).perform fetched =
      (.ok updated, fetched) := by
    rw [Action.perform_failingAs, Action.perform_ofExcept, decoded]
    rfl
  rw [Action.perform_bind_of_ok decodes, Action.perform_bind_of_ok (Action.perform_lift ..),
    services, Action.perform_bind, Action.perform_failingAs, Action.perform_ofExcept]
  -- Only a success is logged.
  cases Outcome.summary outcomes with
  | error notice =>
    refine ⟨[], Prod.ext rfl ?_⟩
    rw [List.map_nil, List.append_nil]
    rfl
  | ok value => exact ⟨[.updated updated.contractId outcomes.length], rfl⟩

/-- Nothing else comes of an update. -/
theorem ran {env : Environment (Keyed Json)} (h : env.InMemory) (contractToken : Option String)
    (world : World (Keyed Json)) :
    Ran env contractToken world ((run env contractToken).perform world).1
      ((run env contractToken).perform world).2 := by
  have machineToken := perform_machineToken h world
  rw [run]
  cases read : storedToken world.state with
  | error mismatch =>
    rw [read] at machineToken
    rw [Action.perform_bind_of_error (Action.perform_failingAs_of_error machineToken _)]
    exact .unreadable read
  | ok stored =>
    rw [read] at machineToken
    rw [Action.perform_bind_of_ok (Action.perform_failingAs_of_ok machineToken _)]
    have fetched := perform_fetch env (stored.filter MachineToken.isAttached) contractToken world
    cases chosen : exchangeFor (stored.filter MachineToken.isAttached) contractToken with
    | error cause =>
      rw [chosen] at fetched
      rw [Action.perform_bind_of_error fetched]
      exact .misused read chosen
    | ok exchange =>
      rw [chosen] at fetched
      have exchanged := exchange.performed h world
      cases performed : (exchange.action env).perform world with | mk result after =>
      rw [performed] at exchanged
      dsimp only at fetched
      cases result with
      | error cause =>
        rw [Action.perform_failingAs_of_error performed] at fetched
        rw [Action.perform_bind_of_error fetched]
        exact .failed read chosen exchanged
      | ok body =>
        rw [Action.perform_failingAs_of_ok performed] at fetched
        rw [Action.perform_bind_of_ok fetched]
        -- A body that was stored decodes, so it cannot be refused a second time here.
        obtain ⟨updated, decoded⟩ := exchanged.decode_eq_ok
        obtain ⟨events, served⟩ :=
          perform_serve env (stored.filter MachineToken.isAttached) decoded rfl
        rw [served]
        exact .applied read chosen exchanged decoded rfl ⟨events, rfl⟩

end Update

end Subscription
