import Subscription.Proofs.Command.Gate
import Subscription.Proofs.SideBySide

/-!
# Two updates side by side

Two updates with the same processors go alike if the tokens that they compare are read alike: step
by step they hand over the same changes and log the same. Where the tokens come from is another
matter; an exchange goes alike if the servers answer alike and the stores take the answers alike.
-/

namespace Subscription

variable {σ : Type} {like : Likeness σ} {env env' : Environment σ}

/-- What is asked of two environments while services are brought in line is answered alike. -/
structure Environment.ServesAlike (like : Likeness σ) (env env' : Environment σ) : Prop where
  platform : ∀ state state', like.states state state' →
    env.host.platform state = env'.host.platform state'
  processors : env'.processors = env.processors
  takes : ∀ kind processor, env.processors.get? kind = some processor → ∀ past past' call,
    like.pasts past past' → processor past call = processor past' call

/-- Two tokens are read alike: the records are taken in the same order, and the same ones are
found. -/
structure MachineToken.ReadAlike (token token' : MachineToken) : Prop where
  secret : token.secret = token'.secret
  contractId : token.contractId = token'.contractId
  sorted : token.sortedEntitlements = token'.sortedEntitlements
  found : ∀ kind, token.entitlement? kind = token'.entitlement? kind

theorem MachineToken.ReadAlike.refl (token : MachineToken) : token.ReadAlike token :=
  ⟨rfl, rfl, rfl, fun _ => rfl⟩

/-- The tokens of two machines are read alike, or neither machine has one. -/
inductive MachineToken.KnownAlike : Option MachineToken → Option MachineToken → Prop
  | none : KnownAlike none none
  | some {token token' : MachineToken} (h : token.ReadAlike token') :
      KnownAlike (some token) (some token')

/-! ### Services -/

namespace Access

theorem alike_overridingSeries (h : env.ServesAlike like env') (old new : Access)
    (options : ReconcileOptions) : Action.Alike like Eq (overridingSeries env old new options)
      (overridingSeries env' old new options) := by
  unfold overridingSeries
  split
  · exact (Action.Alike.platform h.platform).bind_eq fun platform => .pure rfl
  · exact .pure rfl

/-- Records are reconciled alike by environments that serve alike. -/
theorem alike_reconcile (h : env.ServesAlike like env') (old new : Access)
    (options : ReconcileOptions) : Action.Alike like Eq (reconcile env old new options)
      (reconcile env' old new options) := by
  unfold reconcile
  refine ((alike_overridingSeries h old new options).failingAs _).bind_eq fun series => ?_
  dsimp only
  split
  · exact .pure rfl
  · split
    · exact .throw _
    · next kind named =>
      rw [h.processors]
      split
      · exact .throw _
      · next processor registered =>
        refine (Action.Alike.log _).bind_eq fun _ => ?_
        refine ((Action.Alike.call kind fun past past' pasts => ?_).failingAs _).bind_eq
          fun _ => .pure rfl
        exact h.takes kind processor registered past past' _ pasts

end Access

namespace Update

/-- The record known before is the same on both sides. -/
theorem previousAccess_eq {previous previous' : Option MachineToken}
    (h : MachineToken.KnownAlike previous previous') (record : Entitlement) :
    previousAccess previous record = previousAccess previous' record := by
  cases h with
  | none => rfl
  | some h =>
    rw [previousAccess, previousAccess]
    cases record.kind with
    | none => rfl
    | some kind => rw [Option.bind_some, Option.bind_some, Option.bind_some, Option.bind_some,
        h.found kind]

/-- One service is brought in line alike. -/
theorem steps_applyEntitlement (h : env.ServesAlike like env')
    {previous previous' : Option MachineToken} (known : MachineToken.KnownAlike previous previous')
    (record : Entitlement) : like.Steps Eq (StateT.run (applyEntitlement env previous record))
      (StateT.run (applyEntitlement env' previous' record)) := by
  intro world world' worlds
  have ⟨results, leads⟩ := Access.alike_reconcile h (previousAccess previous record)
    (.ofEntitlement record) {} world world' worlds
  rw [run_applyEntitlement, run_applyEntitlement, ← previousAccess_eq known record]
  dsimp only
  rw [results.eq]
  refine ⟨rfl, leads.trans ?_⟩
  exact (worlds.of_leads leads).leads_append (like.same _)

/-- All services are brought in line alike. -/
theorem steps_applyEntitlements (h : env.ServesAlike like env')
    {previous previous' : Option MachineToken} (known : MachineToken.KnownAlike previous previous')
    {updated updated' : MachineToken} (sorted : updated.ReadAlike updated') :
    like.Steps Eq (StateT.run (applyEntitlements env previous updated))
      (StateT.run (applyEntitlements env' previous' updated')) := by
  rw [applyEntitlements, applyEntitlements, ← sorted.sorted]
  exact .mapM (fun record => steps_applyEntitlement h known record) _

/-- What is done with an answer goes alike if it is read alike. -/
theorem alike_serve (h : env.ServesAlike like env') {attached attached' : Option MachineToken}
    (known : MachineToken.KnownAlike attached attached') {body body' : Json}
    (decodes : Both MachineToken.ReadAlike (MachineToken.decode body)
      (MachineToken.decode body')) :
    Action.Alike like Eq (serve env attached body) (serve env' attached' body') := by
  refine ((Action.Alike.ofExcept decodes).failingAs _).bind fun updated updated' read => ?_
  refine (Action.Alike.lift (steps_applyEntitlements h known read)).bind_eq fun outcomes => ?_
  refine ((Action.Alike.ofExcept (.of_eq rfl)).failingAs _).bind_eq fun _ => ?_
  rw [read.contractId]
  exact .log _

end Update

/-! ### Exchanges -/

/-- What is asked of two environments in an exchange is answered alike, up to the bodies of the
answers. -/
structure Environment.ExchangesAlike (like : Likeness σ) (bodies : Json → Json → Prop)
    (env env' : Environment σ) : Prop where
  machineId : ∀ state state', like.states state state' →
    (env.host.machineId state).1 = (env'.host.machineId state').1 ∧
    like.states (env.host.machineId state).2.1 (env'.host.machineId state').2.1 ∧
    like.news ((env.host.machineId state).2.2.map .logged)
      ((env'.host.machineId state').2.2.map .logged)
  platform : ∀ state state', like.states state state' →
    env.host.platform state = env'.host.platform state'
  server : ∀ request past past', like.pasts past past' →
    Both (fun response response' : Response => bodies response.body response'.body)
      (env.server past request).2 (env'.server past' request).2 ∧
    like.news (.requested request :: (env.server past request).1.map .logged)
      (.requested request :: (env'.server past' request).1.map .logged)
  decodes : ∀ body body', bodies body body' →
    Both MachineToken.ReadAlike (MachineToken.decode body) (MachineToken.decode body')
  storesToken : ∀ body body', bodies body body' → ∀ state state', like.states state state' →
    Both Eq ((env.store.write Store.tokenKey body).perform state).1
      ((env'.store.write Store.tokenKey body').perform state').1 ∧
    like.states ((env.store.write Store.tokenKey body).perform state).2
      ((env'.store.write Store.tokenKey body').perform state').2
  storesId : ∀ value state state', like.states state state' →
    Both Eq ((env.store.write Store.machineIdKey value).perform state).1
      ((env'.store.write Store.machineIdKey value).perform state').1 ∧
    like.states ((env.store.write Store.machineIdKey value).perform state).2
      ((env'.store.write Store.machineIdKey value).perform state').2

section Exchanges

variable {bodies : Json → Json → Prop}

theorem Client.alike_storeToken (h : env.ExchangesAlike like bodies env') {body body' : Json}
    (alike : bodies body body') (machineId : String) :
    Action.Alike like Eq (storeToken env body machineId) (storeToken env' body' machineId) := by
  refine ((Action.Alike.ofExcept (h.decodes body body' alike)).failingAs _).bind fun _ _ _ => ?_
  refine ((Action.Alike.onState (h.storesToken body body' alike)).failingAs _).bind_eq fun _ => ?_
  exact (Action.Alike.onState (h.storesId _)).failingAs _

/-- One exchange, made on both sides, brings like bodies. -/
theorem TokenExchange.alike_action (h : env.ExchangesAlike like bodies env')
    (exchange : TokenExchange) :
    Action.Alike like bodies (exchange.action env) (exchange.action env') := by
  refine ((Action.Alike.machineId h.machineId).failingAs _).bind_eq fun machineId => ?_
  refine ((Action.Alike.platform h.platform).failingAs _).bind_eq fun platform => ?_
  have sent := Action.Alike.send (h.server (exchange.request machineId platform))
  refine ((sent.failingAs _).failingAs _).bind fun response response' alike => ?_
  refine (Client.alike_storeToken h alike machineId).bind_eq fun _ => ?_
  exact (Action.Alike.note _).bind_eq fun _ => .pure alike

/-- The same exchange is called for. -/
theorem Update.exchangeFor_eq {attached attached' : Option MachineToken}
    (known : MachineToken.KnownAlike attached attached') (contractToken : Option String) :
    exchangeFor attached contractToken = exchangeFor attached' contractToken := by
  cases known with
  | none => rfl
  | some read => cases contractToken <;> simp [exchangeFor, read.secret, read.contractId]

/-- The token of an update is fetched alike. -/
theorem Update.alike_fetch (h : env.ExchangesAlike like bodies env')
    {attached attached' : Option MachineToken} (known : MachineToken.KnownAlike attached attached')
    (contractToken : Option String) : Action.Alike like bodies (fetch env attached contractToken)
      (fetch env' attached' contractToken) := by
  intro world world' worlds
  rw [perform_fetch, perform_fetch, ← exchangeFor_eq known]
  cases exchangeFor attached contractToken with
  | error cause => exact ⟨.error _, worlds.leads⟩
  | ok exchange => exact (exchange.alike_action h).failingAs _ world world' worlds

end Exchanges

end Subscription
