import Subscription.Proofs.Command.Issued
import Subscription.Proofs.Command.SameHost
import Subscription.Proofs.Host.MachineId
import Subscription.Proofs.Store.Faults
import Subscription.Proofs.Store.Neighbours

/-!
# One id in every run

Commands write entries of their own, remove them, and make directories; none of this changes a file
that is called `machine-id`. So once the files of a machine settle its id, every command of a run
uses this one (`Command.bears_of_settled`). The surroundings that this is said of are those of the
program, over any network (`Program.surrounds_environment`).

A machine may have no id when a run begins. Then the first command that tells one to the server
settles it: a command asks for the id before it changes any file, and from there on the files settle
the id (`Command.settled_or_unasked`). So all requests of a run bear one id
(`Command.requests_bear_one_id`).
-/

namespace Subscription

/-- What the request tells of the id of the machine, if it does, is this id. -/
inductive Request.Bears (machineId : String) : Request → Prop
  | exchange (exchange : TokenExchange) (platform : Platform) :
      Bears machineId (exchange.request machineId platform)
  | release (secret contractId : String) : Bears machineId (.release secret contractId machineId)
  | inquiry (secret resource : String) : Bears machineId (.inquiry secret resource machineId)
  | listing : Bears machineId .listing

/-! ### Commands on a machine -/

/-- The surroundings of a command on this machine: its entries and its id are in files, in these
places. The server and the processors may be any. -/
structure Machine.Surrounds (machine : Machine) (env : Environment FileTree) : Prop where
  store : env.store = .files (PathText.names (PathText.join machine.dataDir "cache"))
  host : ∃ processor random, env.host = Machine.host { machine with processor, random }

/-- Such are those of the program, over any network. -/
theorem Program.surrounds_environment (configuration : Configuration) (processor : String)
    (random random' : List UInt8) (network : Network) :
    (machine configuration processor random).Surrounds
      (environment configuration processor random' network) :=
  ⟨rfl, processor, random', rfl⟩

variable {machine : Machine} {id : String} {env : Environment FileTree} {world : World FileTree}

theorem FileStore.isForeign_idName : IsForeign Machine.idName :=
  isForeign_of_suffix (by decide) (by decide)

/-- The host looks for the id in the files of the machine. -/
theorem Machine.Surrounds.machineId_eq (h : machine.Surrounds env) : ∃ machine' : Machine,
    machine'.root = machine.root ∧ machine'.dataDir = machine.dataDir ∧
      env.host.machineId = machine'.machineId := by
  obtain ⟨processor, random, host⟩ := h.host
  exact ⟨{ machine with processor, random }, rfl, rfl, congrArg Host.machineId host⟩

/-- A machine whose id is settled tells it, and its store leaves it settled. -/
theorem Machine.Surrounds.tells (h : machine.Surrounds env) (id : String) :
    env.Tells (machine.Settled id) id where
  machineId tree settled := by
    obtain ⟨machine', root, dataDir, same⟩ := h.machineId_eq
    rw [same]
    exact (settled.congr root.symm dataDir.symm).machineId
  reads key tree settled := by
    rw [h.store]
    exact settled
  writes key value tree settled := by
    rw [h.store]
    exact settled.spares (FileStore.spares_write FileStore.isForeign_idName _ key value tree)
  deletes key tree settled := by
    rw [h.store]
    exact settled.spares (FileStore.spares_delete FileStore.isForeign_idName _ key tree)

/-- What is sent in a turn is what the command may send. -/
theorem Machine.Surrounds.maySend {turn : Turn FileTree} (h : machine.Surrounds turn.env)
    {request : Request} (sent : request ∈ turn.requests) :
    Command.MaySend turn.env turn.before turn.command request := by
  have reads : turn.env.store.ReadsOnly := h.store ▸ Store.readsOnly_files _
  obtain ⟨requests, between, -, allowed⟩ := Command.sends_run reads turn.before turn.command
  rw [Turn.requests_of_sent between] at sent
  exact allowed request sent

namespace Command

/-- What a command may send bears the id that the host tells. -/
theorem MaySend.bears {command : Command} {request : Request}
    (h : MaySend env world command request)
    (told : (env.host.machineId world.state).1 = .ok id) : request.Bears id := by
  have same {machineId : String} (asked : (env.host.machineId world.state).1 = .ok machineId) :
      machineId = id := Except.ok.inj (asked.symm.trans told)
  cases h with
  | attach asked => exact same asked ▸ .exchange _ _
  | refresh attached => exact same attached.asked ▸ .exchange _ _
  | detach attached => exact same attached.asked ▸ .release _ _
  | access attached => exact same attached.asked ▸ .inquiry _ _
  | resources => exact .listing

/-- On a machine whose id is settled, every command of a run uses this id. -/
theorem bears_of_settled {steps : List (Environment FileTree × Command)}
    (surrounds : ∀ step ∈ steps, machine.Surrounds step.1)
    (settled : machine.Settled id world.state) {turn : Turn FileTree}
    (mem : turn ∈ turns world steps) :
    turn.env.host.machineId turn.before.state = (.ok id, turn.before.state, []) ∧
      turn.env.host.machineId turn.after.state = (.ok id, turn.after.state, []) ∧
      ∀ request ∈ turn.requests, request.Bears id := by
  have tells : ∀ step ∈ steps, step.1.Tells (machine.Settled id) id :=
    fun step mem => (surrounds step mem).tells id
  obtain ⟨before, behind⟩ := (turns_eq_telling tells settled).2 turn mem
  have here := mem_of_mem_turns mem
  have told := (tells _ here).machineId _ before
  refine ⟨told, (tells _ here).machineId _ behind, fun request sent => ?_⟩
  exact ((surrounds _ here).maySend sent).bears (congrArg Prod.fst told)

end Command

/-! ### Asking first -/

section Asking

variable {σ ε ε' α : Type} {env : Environment σ} {world : World σ} {id : String} {P : σ → Prop}

/-- Where asking for the id leads to a state that settles it, to ask there again changes nothing. -/
theorem Environment.Tells.perform_asking (tells : env.Tells P id)
    (told : (env.host.machineId world.state).1 = .ok id) (settled : P (env.named world).state)
    (wrap : PlatformError → ε) (next : String → Action (World σ) ε α) :
    (env.machineId.failingAs wrap >>= next).perform world =
      (env.machineId.failingAs wrap >>= next).perform (env.named world) := by
  have first := Environment.perform_machineId_eq told
  have again : env.machineId.perform (env.named world) = (.ok id, env.named world) := by
    rw [Environment.perform_machineId, tells.machineId _ settled, List.map_nil, List.append_nil]
  rw [Action.perform_bind_of_ok (Action.perform_failingAs_of_ok first wrap),
    Action.perform_bind_of_ok (Action.perform_failingAs_of_ok again wrap)]

/-- What asks for the id first leaves the state settled. -/
theorem Environment.Tells.settles (tells : env.Tells P id)
    (told : (env.host.machineId world.state).1 = .ok id) (settled : P (env.named world).state)
    {wrap : PlatformError → ε} {next : String → Action (World σ) ε α}
    (keeps : (env.machineId.failingAs wrap >>= next).Keeps P) :
    P ((env.machineId.failingAs wrap >>= next).perform world).2.state := by
  rw [tells.perform_asking told settled]
  exact keeps _ settled

theorem Environment.Tells.undisturbed (tells : env.Tells P id) : env.Undisturbed P where
  read key := .onState (tells.reads key)
  machineId world holds := by
    rw [Environment.perform_machineId, tells.machineId _ holds]
    exact holds

end Asking

namespace Command

section Commands

variable {σ : Type} {env : Environment σ} {world : World σ} {id : String} {P : σ → Prop}

/-- An update that gets as far as an exchange asks for the id before it changes anything. -/
theorem settled_or_eq_of_update (reads : env.store.ReadsOnly) (tells : env.Tells P id)
    (told : (env.host.machineId world.state).1 = .ok id) (settled : P (env.named world).state)
    (contractToken : Option String) :
    ((Update.run env contractToken).perform world).2 = world ∨
      P ((Update.run env contractToken).perform world).2.state := by
  have writes (key : String) (value : Json) := Action.Keeps.onState (tells.writes key value)
  -- A token that cannot be read, or not be used so, ends the update before it asks for the id.
  cases found : env.storedToken world.state with
  | error cause => exact .inl (congrArg Prod.snd (Update.perform_run_unreadable reads found _))
  | ok stored =>
    cases chosen : Update.exchangeFor (stored.filter MachineToken.isAttached) contractToken with
    | error cause =>
      exact .inl (congrArg Prod.snd (Update.perform_run_misused reads found chosen))
    | ok exchange =>
      have fetched := Update.perform_fetch env (stored.filter MachineToken.isAttached)
        contractToken world
      rw [chosen] at fetched
      have keeps : (exchange.action env).Keeps P :=
        Client.keeps_exchange tells.undisturbed (Client.keeps_storeToken_of_write writes) exchange
      have exchanged : P ((exchange.action env).perform world).2.state :=
        tells.settles told settled keeps
      rw [Update.perform_run reads found]
      refine .inr (Action.Keeps.after_bind ?_ fun body => Update.keeps_serve _ body)
      rw [fetched]
      exact exchanged

/-- What a command does about the token of an attached machine, it does after asking for the id. -/
theorem settled_or_eq_of_attached {α : Type} (reads : env.store.ReadsOnly)
    {next : MachineToken → Action (World σ) CommandError α}
    (settles : ∀ token, P ((next token).perform world).2.state) :
    ((attachedToken env >>= next).perform world).2 = world ∨
      P ((attachedToken env >>= next).perform world).2.state := by
  cases gated : (attachedToken env).perform world with | mk result after =>
  cases result with
  | ok token =>
    obtain ⟨-, -, rfl⟩ := stored_of_attachedToken reads gated
    rw [Action.perform_bind_of_ok gated]
    exact .inr (settles token)
  | error cause =>
    rw [Action.perform_bind_of_error gated]
    refine .inl ?_
    cases found : env.storedToken world.state with
    | error cause =>
      have read := Environment.perform_machineToken reads world
      rw [found] at read
      rw [attachedToken, Action.perform_bind_of_error (Action.perform_failingAs_of_error read _)]
        at gated
      exact (congrArg Prod.snd gated).symm
    | ok stored =>
      rw [perform_attachedToken reads found] at gated
      exact (congrArg Prod.snd gated).symm

/-- A command asks for the id before it changes anything, or it asks nobody but for all
resources. -/
theorem settled_or_eq (reads : env.store.ReadsOnly) (tells : env.Tells P id)
    (told : (env.host.machineId world.state).1 = .ok id) (settled : P (env.named world).state)
    {command : Command} (other : command ≠ .resources) :
    ((command.run env).perform world).2 = world ∨
      P ((command.run env).perform world).2.state := by
  -- To attach and to refresh are updates; what they tell in the end does not change the files.
  cases command with
  | attach token =>
    have same : ((runAttach env token).perform world).2 = _ := Action.perform_bind_pure _ _ world
    rw [run, same]
    exact settled_or_eq_of_update reads tells told settled (some token)
  | refresh =>
    have same : ((runRefresh env).perform world).2 = _ := Action.perform_bind_pure _ _ world
    rw [run, same]
    exact settled_or_eq_of_update reads tells told settled none
  | detach =>
    refine settled_or_eq_of_attached reads fun token => tells.settles told settled ?_
    have deletes (key : String) := Action.Keeps.onState (tells.deletes key)
    exact keeps_detaching tells.undisturbed (keeps_clear deletes _)
  | access resource =>
    refine settled_or_eq_of_attached reads fun token => ?_
    refine Action.Keeps.after_bind ?_ fun value => .pure _
    have keeps : (Client.access env token.secret resource).Keeps P :=
      Client.keeps_access tells.undisturbed _ fun value => .onState (tells.writes _ value)
    exact tells.settles told settled keeps
  | resources => exact (other rfl).elim

end Commands

end Command

/-! ### Whole runs -/

namespace Command

/-- Whatever a command comes to, it leaves the files of the machine in order. -/
theorem sound_run (surrounds : machine.Surrounds env) (command : Command) :
    (command.run env).Keeps machine.Sound := by
  have foreign := FileStore.isForeign_idName
  have undisturbed : env.Undisturbed machine.Sound := by
    refine ⟨fun key => .onState fun tree sound => ?_, fun world sound => ?_⟩
    · rw [surrounds.store]
      exact sound
    · obtain ⟨machine', root, dataDir, same⟩ := surrounds.machineId_eq
      rw [Environment.perform_machineId, same]
      exact (sound.congr root.symm dataDir.symm).machineId.congr root dataDir
  refine keeps_run undisturbed (fun key value => .onState fun tree sound => ?_)
    (fun key => .onState fun tree sound => ?_) command
  · rw [surrounds.store]
    exact sound.spares (FileStore.spares_write foreign _ key value tree)
  · rw [surrounds.store]
    exact sound.spares (FileStore.spares_delete foreign _ key tree)

/-- Where the host has told an id, its files settle this id. -/
theorem settled_named (surrounds : machine.Surrounds env) (sound : machine.Sound world.state)
    (told : (env.host.machineId world.state).1 = .ok id) :
    machine.Settled id (env.named world).state := by
  obtain ⟨machine', root, dataDir, same⟩ := surrounds.machineId_eq
  have whole : env.host.machineId world.state =
      (.ok id, (env.named world).state, (env.host.machineId world.state).2.2) := Prod.ext told rfl
  have sound' := sound.congr root.symm dataDir.symm
  exact (Machine.settled_of_machineId sound' (same ▸ whole)).congr root dataDir

/-- Without an id nothing is asked for but all resources. -/
theorem MaySend.eq_listing {command : Command} {request : Request} {cause : PlatformError}
    (h : MaySend env world command request)
    (untold : (env.host.machineId world.state).1 = .error cause) : request = .listing := by
  cases h with
  | attach asked => cases asked.symm.trans untold
  | refresh attached => cases attached.asked.symm.trans untold
  | detach attached => cases attached.asked.symm.trans untold
  | access attached => cases attached.asked.symm.trans untold
  | resources => rfl

/-- After the first command of a run, its files settle the id that it told, or it has told none. -/
theorem settled_or_unasked (surrounds : machine.Surrounds env) (sound : machine.Sound world.state)
    (command : Command) :
    let turn : Turn FileTree := { env, command, before := world }
    (∀ request ∈ turn.requests, request = .listing) ∨
      ∃ id, machine.Settled id turn.after.state ∧ ∀ request ∈ turn.requests, request.Bears id := by
  intro turn
  have may {request : Request} (sent : request ∈ turn.requests) :
      MaySend turn.env turn.before turn.command request := surrounds.maySend sent
  cases told : (env.host.machineId world.state).1 with
  | error cause => exact .inl fun request sent => (may sent).eq_listing told
  | ok id =>
    by_cases listing : command = .resources
    · subst listing
      refine .inl fun request sent => ?_
      cases may sent
      rfl
    · have reads : env.store.ReadsOnly := surrounds.store ▸ Store.readsOnly_files _
      have settled := settled_named surrounds sound told
      rcases settled_or_eq reads (surrounds.tells id) told settled listing with same | settled
      · have silent : turn.requests = [] :=
          Turn.requests_of_sent (.of_journal_eq (congrArg World.journal same))
        exact .inl fun request sent => by simp [silent] at sent
      · exact .inr ⟨id, settled, fun request sent => (may sent).bears told⟩

/-- **All requests of a run bear one id**, also where the machine has none when the run begins. -/
theorem requests_bear_one_id {steps : List (Environment FileTree × Command)}
    (surrounds : ∀ step ∈ steps, machine.Surrounds step.1) (sound : machine.Sound world.state) :
    ∃ id, ∀ turn ∈ turns world steps, ∀ request ∈ turn.requests, request.Bears id := by
  -- Until a command tells an id, any id will do; from there on the files settle it.
  induction steps generalizing world with
  | nil => exact ⟨"", by simp [turns]⟩
  | cons step rest ih =>
    obtain ⟨env, command⟩ := step
    obtain ⟨here, others⟩ := List.forall_mem_cons.1 surrounds
    rcases settled_or_unasked here sound command with unasked | ⟨id, settled, bears⟩
    · obtain ⟨id, later⟩ := ih others (sound_run here command world sound)
      refine ⟨id, List.forall_mem_cons.2 ⟨fun request sent => ?_, later⟩⟩
      exact unasked request sent ▸ .listing
    · refine ⟨id, List.forall_mem_cons.2 ⟨bears, fun turn mem => ?_⟩⟩
      exact (bears_of_settled others settled mem).2.2

/-- This is so where the root is named without going up and the program has no file yet. -/
theorem requests_bear_one_id_of_names {steps : List (Environment FileTree × Command)}
    (surrounds : ∀ step ∈ steps, machine.Surrounds step.1) (grounded : world.state.Grounded)
    (down : ".." ∉ PathText.names machine.root)
    (absent : world.state.node? machine.ownIdPlace = none) :
    ∃ id, ∀ turn ∈ turns world steps, ∀ request ∈ turn.requests, request.Bears id := by
  have sure : world.state.Surefooted (PathText.names machine.root) :=
    FileTree.surefooted_of_not_mem down
  exact requests_bear_one_id surrounds ⟨grounded, sure, Machine.legible_of_absent absent⟩

end Command

end Subscription
