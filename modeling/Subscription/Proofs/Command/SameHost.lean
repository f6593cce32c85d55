import Subscription.Proofs.Command.Requests
import Subscription.Proofs.Update.SideBySide

/-!
# Hosts that always tell the same id

A host may find the id of its machine in the state, and so it may tell another one when the state
has changed. If there is something about the state that makes it tell this id, and nothing that the
store does changes that, then a run is the same as on a host that tells the id in any state
(`Command.turns_eq_telling`). This says of every question for the id in the run, also of those whose
answer is not seen outside, that the answer is this id.
-/

namespace Subscription

variable {σ ε α : Type}

/-- The surroundings with a host that always tells this id, and does nothing about it. -/
def Environment.telling (env : Environment σ) (id : String) : Environment σ :=
  { env with host := { env.host with machineId := fun state => (.ok id, state, []) } }

/-- Where this holds of the state, the host tells the id and does nothing about it, and the store
keeps what holds. -/
structure Environment.Tells (env : Environment σ) (P : σ → Prop) (id : String) : Prop where
  machineId : ∀ state, P state → env.host.machineId state = (.ok id, state, [])
  reads : ∀ key state, P state → P ((env.store.read key).perform state).2
  writes : ∀ key value state, P state → P ((env.store.write key value).perform state).2
  deletes : ∀ key state, P state → P ((env.store.delete key).perform state).2

theorem Journal.append_congr {past past' added added' : Journal} (same : past = past')
    (news : added = added') : past ++ added = past' ++ added' :=
  congrArg₂ _ same news

/-- Both runs are the same, and this holds of the states. -/
def Likeness.identical (P : σ → Prop) : Likeness σ where
  states state state' := state = state' ∧ P state
  pasts := Eq
  news := Eq
  same := Eq.refl
  append := @Journal.append_congr
  extend := @Journal.append_congr

/-- An action on the state that keeps what holds of it is the same in both runs. -/
theorem Action.Alike.onState_same {P : σ → Prop} {action : Action σ ε α}
    (h : ∀ state, P state → P (action.perform state).2) :
    Action.Alike (.identical P) Eq action.onState action.onState := by
  refine .onState ?_
  rintro state _ ⟨rfl, holds⟩
  exact ⟨.of_eq rfl, rfl, h state holds⟩

variable {P : σ → Prop} {id : String} {env : Environment σ}

namespace Environment.Tells

/-- Where the host tells this id anyway, both runs are told it. -/
theorem alike_machineId (tells : env.Tells P id) :
    Action.Alike (.identical P) Eq env.machineId (env.telling id).machineId := by
  refine .machineId ?_
  rintro state _ ⟨rfl, holds⟩
  rw [tells.machineId state holds]
  exact ⟨rfl, ⟨rfl, holds⟩, rfl⟩

theorem alike_machineToken (tells : env.Tells P id) :
    Action.Alike (.identical P) Eq env.machineToken (env.telling id).machineToken := by
  refine (Action.Alike.onState_same (tells.reads _)).bind_eq fun value => ?_
  cases value with
  | none => exact .pure rfl
  | some value =>
    exact ((Action.Alike.ofExcept (.of_eq rfl)).failingAs _).bind_eq fun token => .pure rfl

theorem alike_send (env : Environment σ) (P : σ → Prop) (id : String) (request : Request) :
    Action.Alike (.identical P) Eq (env.send request) ((env.telling id).send request) := by
  refine .send ?_
  rintro past _ rfl
  exact ⟨.of_eq rfl, rfl⟩

/-- To bring the services in line nobody asks for the machine id. -/
theorem servesAlike (env : Environment σ) (P : σ → Prop) (id : String) :
    env.ServesAlike (.identical P) (env.telling id) where
  platform := by
    rintro state _ ⟨rfl, -⟩
    rfl
  processors := rfl
  takes := by
    rintro kind processor - past _ call rfl
    rfl

/-- The exchanges are the same, since they name the same id. -/
theorem exchangesAlike (tells : env.Tells P id) :
    env.ExchangesAlike (.identical P) Eq (env.telling id) where
  machineId := by
    rintro state _ ⟨rfl, holds⟩
    rw [tells.machineId state holds]
    exact ⟨rfl, ⟨rfl, holds⟩, rfl⟩
  platform := (servesAlike env P id).platform
  server := by
    rintro request past _ rfl
    refine ⟨?_, rfl⟩
    change Both _ (env.server past request).2 (env.server past request).2
    cases (env.server past request).2 with
    | ok response => exact .ok rfl
    | error failure => exact .error failure
  decodes := by
    rintro body _ rfl
    cases MachineToken.decode body with
    | ok token => exact .ok (.refl token)
    | error mismatch => exact .error mismatch
  storesToken := by
    rintro body _ rfl state _ ⟨rfl, holds⟩
    exact ⟨.of_eq rfl, rfl, tells.writes _ body state holds⟩
  storesId := by
    rintro value state _ ⟨rfl, holds⟩
    exact ⟨.of_eq rfl, rfl, tells.writes _ value state holds⟩

/-- An update is the same on both hosts. -/
theorem alike_update (tells : env.Tells P id) (contractToken : Option String) :
    Action.Alike (.identical P) Eq (Update.run env contractToken)
      (Update.run (env.telling id) contractToken) := by
  refine (tells.alike_machineToken.failingAs _).bind_eq fun stored => ?_
  have known : MachineToken.KnownAlike (stored.filter MachineToken.isAttached)
      (stored.filter MachineToken.isAttached) := by
    cases stored.filter MachineToken.isAttached with
    | none => exact .none
    | some token => exact .some (.refl token)
  have fetched := Update.alike_fetch tells.exchangesAlike known contractToken
  refine Action.Alike.bind fetched fun body body' same => ?_
  subst same
  refine Update.alike_serve (servesAlike env P id) known ?_
  exact tells.exchangesAlike.decodes body body rfl

end Environment.Tells

namespace Command

theorem alike_attachedToken (tells : env.Tells P id) :
    Action.Alike (.identical P) Eq (attachedToken env) (attachedToken (env.telling id)) := by
  refine (tells.alike_machineToken.failingAs _).bind_eq fun token => ?_
  split
  · exact .pure rfl
  · exact .throw _

theorem alike_clear (tells : env.Tells P id) (token : MachineToken) :
    Action.Alike (.identical P) Eq (clear env token) (clear (env.telling id) token) := by
  refine (Action.Alike.forM fun kind => ?_).bind_eq fun _ => ?_
  · refine (Action.Alike.onState_same (tells.deletes _)).tryCatch fun failure => ?_
    split
    · exact .pure rfl
    · exact .throw _
  · refine (Action.Alike.onState_same (tells.deletes _)).bind_eq fun _ => ?_
    exact .onState_same (tells.deletes _)

theorem alike_release (env : Environment σ) (secret contractId machineId : String) :
    Action.Alike (.identical P) Eq (Client.release env secret contractId machineId)
      (Client.release (env.telling id) secret contractId machineId) := by
  have sent := Environment.Tells.alike_send env P id (.release secret contractId machineId)
  exact ((sent.failingAs _).failingAs _).bind_eq fun response => .pure rfl

theorem alike_detach (tells : env.Tells P id) (secret contractId machineId : String) :
    Action.Alike (.identical P) Eq (Client.detach env secret contractId machineId)
      (Client.detach (env.telling id) secret contractId machineId) := by
  refine (tells.alike_machineId.failingAs _).bind_eq fun current => ?_
  refine ((Action.Alike.onState_same (tells.reads _)).failingAs _).bind_eq fun stored => ?_
  cases stored with
  | none => exact alike_release env secret contractId machineId
  | some stored =>
    dsimp only
    split
    · exact alike_release env secret contractId machineId
    · exact (Action.Alike.log _).bind_eq fun _ => .pure rfl

theorem alike_access (tells : env.Tells P id) (secret resource : String) :
    Action.Alike (.identical P) Eq (Client.access env secret resource)
      (Client.access (env.telling id) secret resource) := by
  refine (tells.alike_machineId.failingAs _).bind_eq fun machineId => ?_
  have sent := Environment.Tells.alike_send env P id (.inquiry secret resource machineId)
  refine ((sent.failingAs _).failingAs _).bind_eq fun response => ?_
  exact ((Action.Alike.onState_same (tells.writes _ _)).failingAs _).bind_eq fun _ => .pure rfl

/-- A command does the same on a host that always tells the id. -/
theorem alike_run (tells : env.Tells P id) (command : Command) :
    Action.Alike (.identical P) Eq (command.run env) (command.run (env.telling id)) := by
  cases command with
  | attach token => exact ((tells.alike_update _).failingAs _).bind_eq fun _ => .pure rfl
  | refresh => exact ((tells.alike_update _).failingAs _).bind_eq fun _ => .pure rfl
  | detach =>
    refine (alike_attachedToken tells).bind_eq fun token => ?_
    refine (tells.alike_machineId.failingAs _).bind_eq fun machineId => ?_
    refine ((alike_detach tells _ _ machineId).failingAs _).bind_eq fun _ => ?_
    refine ((alike_clear tells token).failingAs _).bind_eq fun _ => ?_
    exact (Action.Alike.log _).bind_eq fun _ => .pure rfl
  | access resource =>
    refine (alike_attachedToken tells).bind_eq fun token => ?_
    exact ((alike_access tells _ resource).failingAs _).bind_eq fun value => .pure rfl
  | resources =>
    have sent := Environment.Tells.alike_send env P id .listing
    have listed : Action.Alike (.identical P) Eq (Client.resources env)
        (Client.resources (env.telling id)) := by
      refine (sent.failingAs _).bind_eq fun response => ?_
      split
      · exact .pure rfl
      · exact .pure rfl
    exact (listed.failingAs _).bind_eq fun resources => .pure rfl

/-- From a state of which this holds, a command gives the same on a host that always tells the id,
and it holds of the state that is left as well. -/
theorem perform_run_eq_telling (tells : env.Tells P id) (command : Command) {world : World σ}
    (holds : P world.state) :
    (command.run env).perform world = (command.run (env.telling id)).perform world ∧
      P ((command.run env).perform world).2.state := by
  obtain ⟨results, ⟨states, holds⟩, added, added', journal, journal', news⟩ :=
    alike_run tells command world world ⟨⟨rfl, holds⟩, rfl⟩
  refine ⟨Prod.ext results.eq ?_, holds⟩
  -- Worlds with one state and one journal are one: the news are what both add to one past.
  generalize ((command.run env).perform world).2 = after at *
  generalize ((command.run (env.telling id)).perform world).2 = after' at *
  obtain ⟨state, history⟩ := after
  obtain ⟨state', history'⟩ := after'
  obtain rfl : added = added' := news
  obtain rfl : state = state' := states
  obtain rfl : history = _ := journal
  obtain rfl : history' = _ := journal'
  rfl

/-- A run of commands is the same on hosts that always tell the id. -/
theorem turns_eq_telling {steps : List (Environment σ × Command)}
    (tells : ∀ step ∈ steps, step.1.Tells P id) {world : World σ} (holds : P world.state) :
    ((turns world (steps.map fun step => (step.1.telling id, step.2))).map fun turn =>
        (turn.result, turn.after)) =
      ((turns world steps).map fun turn => (turn.result, turn.after)) ∧
    ∀ turn ∈ turns world steps, P turn.before.state ∧ P turn.after.state := by
  induction steps generalizing world with
  | nil => exact ⟨rfl, by simp [turns]⟩
  | cons step rest ih =>
    obtain ⟨env, command⟩ := step
    obtain ⟨first, others⟩ := List.forall_mem_cons.1 tells
    obtain ⟨same, holdsAfter⟩ := perform_run_eq_telling first command holds
    obtain ⟨later, kept⟩ := ih others holdsAfter
    refine ⟨?_, List.forall_mem_cons.2 ⟨⟨holds, holdsAfter⟩, kept⟩⟩
    let turn : Turn σ := { env, command, before := world }
    let turn' : Turn σ := { env := env.telling id, command, before := world }
    have result : turn'.result = turn.result := (congrArg Prod.fst same).symm
    have after : turn'.after = turn.after := (congrArg Prod.snd same).symm
    change (turn'.result, turn'.after) :: List.map _ (turns turn'.after _) =
      (turn.result, turn.after) :: List.map _ (turns turn.after rest)
    rw [result, after]
    exact congrArg _ later

end Command

end Subscription
