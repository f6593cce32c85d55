import Subscription.Command.Run
import Subscription.Proofs.Update.Replacement

/-!
# Entries stay consistent

The machine token and the machine id are entries of their own, and an operation that wrote or
removed one of them alone would make the store useless for all that come after it. `Consistent` says
that they come and go together, that the token can be read, and that all other entries are access
records. No operation breaks this (`Operation.consistent_after`), whatever the server answers and
whether or not the host knows itself: both entries are written right after the answer was checked,
with nothing that may fail between them, and they are removed in the same way.
-/

namespace Subscription

/-! ### Entries in a state -/

/-- The store keeps its entries in the state and never fails, and the host leaves them alone. What
else there is in the state is left open, so the host may answer differently every time it is
asked. -/
structure Environment.Remembers {σ : Type} (env : Environment σ) (entries : σ → Keyed Json) :
    Prop where
  read : ∀ key state, ∃ after,
    (env.store.read key).perform state = (.ok ((entries state).get? key), after) ∧
      entries after = entries state
  write : ∀ key value state, ∃ after, (env.store.write key value).perform state = (.ok (), after) ∧
    entries after = (entries state).insert key value
  delete : ∀ key state, ∃ after, (env.store.delete key).perform state = (.ok (), after) ∧
    entries after = (entries state).erase key
  machineId : ∀ state, entries (env.host.machineId state).2.1 = entries state

/-- Entries that are kept in memory are the state. -/
theorem Environment.InMemory.remembers {env : Environment (Keyed Json)} (h : env.InMemory) :
    env.Remembers id where
  read key state := ⟨state, by rw [h.store_eq]; rfl, rfl⟩
  write key value state := ⟨state.insert key value, by rw [h.store_eq]; rfl, rfl⟩
  delete key state := ⟨state.erase key, by rw [h.store_eq]; rfl, rfl⟩
  machineId := h.machineId_state

namespace Store

/-- The keys of access records begin alike, so a key that begins otherwise is none of them. -/
theorem accessKey_ne {key : String} (h : ¬"machine-access-".toList <+: key.toList)
    (resource : String) : accessKey resource ≠ key := by
  rintro rfl
  exact h ⟨resource.toList, (String.toList_append ..).symm⟩

/-- The record of no resource is stored under the key of the token. -/
theorem accessKey_ne_tokenKey (resource : String) : accessKey resource ≠ tokenKey :=
  accessKey_ne (by decide) resource

/-- The record of no resource is stored under the key of the machine id. -/
theorem accessKey_ne_machineIdKey (resource : String) : accessKey resource ≠ machineIdKey :=
  accessKey_ne (by decide) resource

theorem tokenKey_ne_machineIdKey : tokenKey ≠ machineIdKey := by decide

end Store

/-! ### Consistent entries -/

/-- The machine token can be read, it stands next to the id of the machine, and the other entries
are access records. -/
structure Consistent (entries : Keyed Json) : Prop where
  token : ∀ value, entries.get? Store.tokenKey = some value →
    ∃ token, MachineToken.decode value = .ok token
  machineId : ∀ value, entries.get? Store.machineIdKey = some value → ∃ id, value = .string id
  paired : (entries.get? Store.tokenKey).isSome ↔ (entries.get? Store.machineIdKey).isSome
  others : ∀ key, (entries.get? key).isSome → key ≠ Store.tokenKey → key ≠ Store.machineIdKey →
    ∃ resource, key = Store.accessKey resource

namespace Consistent

variable {entries : Keyed Json}

/-- An empty store is consistent: neither the token nor the machine id is in it. -/
theorem nil : Consistent [] where
  token _ found := by cases found
  machineId _ found := by cases found
  paired := Iff.rfl
  others _ found := by cases found

/-- A token that can be read is put in with the id. -/
theorem storing (h : Consistent entries) {value : Json} {token : MachineToken}
    (decoded : MachineToken.decode value = .ok token) (machineId : String) :
    Consistent (TokenExchange.storing entries value machineId) := by
  have stored (key : String) := TokenExchange.get?_storing entries value machineId key
  have tokenFound := stored Store.tokenKey
  rw [if_neg Store.tokenKey_ne_machineIdKey.symm, if_pos rfl] at tokenFound
  have machineIdFound := stored Store.machineIdKey
  rw [if_pos rfl] at machineIdFound
  constructor
  · intro other found
    obtain rfl := Option.some.inj (tokenFound.symm.trans found)
    exact ⟨token, decoded⟩
  · intro other found
    exact ⟨machineId, Option.some.inj (found.symm.trans machineIdFound)⟩
  · rw [tokenFound, machineIdFound]
    exact Iff.rfl
  · intro key found notToken notMachineId
    rw [stored, if_neg notMachineId.symm, if_neg notToken.symm] at found
    exact h.others key found notToken notMachineId

/-- The access record of a resource stands beside the token and the id, whatever its name. -/
theorem set_accessKey (h : Consistent entries) (resource : String) (value : Option Json) :
    Consistent (entries.set (Store.accessKey resource) value) := by
  have tokenKept := Keyed.get?_set entries (Store.accessKey resource) value Store.tokenKey
  rw [if_neg (Store.accessKey_ne_tokenKey resource)] at tokenKept
  have machineIdKept := Keyed.get?_set entries (Store.accessKey resource) value Store.machineIdKey
  rw [if_neg (Store.accessKey_ne_machineIdKey resource)] at machineIdKept
  constructor
  · rw [tokenKept]
    exact h.token
  · rw [machineIdKept]
    exact h.machineId
  · rw [tokenKept, machineIdKept]
    exact h.paired
  · intro key found notToken notMachineId
    rw [Keyed.get?_set] at found
    split at found
    · next same => exact ⟨resource, same.symm⟩
    · exact h.others key found notToken notMachineId

/-- The token and the id are removed together. -/
theorem erase_both (h : Consistent entries) :
    Consistent ((entries.erase Store.machineIdKey).erase Store.tokenKey) := by
  have left (key : String) : Keyed.get? ((entries.erase Store.machineIdKey).erase Store.tokenKey)
      key = if Store.tokenKey = key then none
        else if Store.machineIdKey = key then none else entries.get? key := by
    rw [Keyed.get?_erase, Keyed.get?_erase]
  have noToken := left Store.tokenKey
  rw [if_pos rfl] at noToken
  have noMachineId := left Store.machineIdKey
  rw [if_neg Store.tokenKey_ne_machineIdKey, if_pos rfl] at noMachineId
  constructor
  · rw [noToken]
    exact nofun
  · rw [noMachineId]
    exact nofun
  · rw [noToken, noMachineId]
  · intro key found notToken notMachineId
    rw [left, if_neg notToken.symm, if_neg notMachineId.symm] at found
    exact h.others key found notToken notMachineId

end Consistent

/-! ### What the operations keep -/

section Operations

variable {σ : Type} {env : Environment σ} {entries : σ → Keyed Json} {Q : Keyed Json → Prop}
  {P : σ → Prop}

/-- What holds of the state goes on to hold when an entry is looked at and when the host is asked
for the machine id. -/
structure Environment.Undisturbed (env : Environment σ) (P : σ → Prop) : Prop where
  read : ∀ key, (env.store.read key).onState.Keeps P
  machineId : env.machineId.Keeps P

theorem Environment.Undisturbed.machineToken (h : env.Undisturbed P) :
    env.machineToken.Keeps P := by
  refine .bind (h.read _) fun value => ?_
  cases value with
  | none => exact .pure _
  | some value => exact .bind (.failingAs (.ofExcept _) _) fun token => .pure _

namespace Environment.Remembers

/-- To read the store or to ask for the machine id leaves the entries as they are. -/
theorem undisturbed (h : env.Remembers entries) : env.Undisturbed (Q ∘ entries) where
  read key := by
    refine .onState fun state holds => ?_
    obtain ⟨after, performed, same⟩ := h.read key state
    rw [performed, Function.comp_apply, same]
    exact holds
  machineId world holds := by
    rw [Environment.perform_machineId, Function.comp_apply, h.machineId]
    exact holds

/-- A write succeeds and inserts its entry. -/
theorem perform_write (h : env.Remembers entries) (key : String) (value : Json) (world : World σ) :
    ∃ after, (env.store.write key value).onState.perform world = (.ok (), after) ∧
      entries after.state = (entries world.state).insert key value := by
  obtain ⟨state, performed, put⟩ := h.write key value world.state
  exact ⟨{ world with state }, by rw [Action.perform_onState, performed], put⟩

/-- A deletion succeeds and erases its entry. -/
theorem perform_delete (h : env.Remembers entries) (key : String) (world : World σ) :
    ∃ after, (env.store.delete key).onState.perform world = (.ok (), after) ∧
      entries after.state = (entries world.state).erase key := by
  obtain ⟨state, performed, removed⟩ := h.delete key world.state
  exact ⟨{ world with state }, by rw [Action.perform_onState, performed], removed⟩

/-- A write keeps what the insertion of its entry keeps. -/
theorem keeps_write (h : env.Remembers entries) {key : String} {value : Json}
    (hq : ∀ entries, Q entries → Q (entries.insert key value)) :
    (env.store.write key value).onState.Keeps (Q ∘ entries) := by
  intro world holds
  obtain ⟨after, performed, put⟩ := h.perform_write key value world
  rw [performed, Function.comp_apply, put]
  exact hq _ holds

/-- A deletion keeps what the erasure of its entry keeps. -/
theorem keeps_delete (h : env.Remembers entries) {key : String}
    (hq : ∀ entries, Q entries → Q (entries.erase key)) :
    (env.store.delete key).onState.Keeps (Q ∘ entries) := by
  intro world holds
  obtain ⟨after, performed, removed⟩ := h.perform_delete key world
  rw [performed, Function.comp_apply, removed]
  exact hq _ holds

end Environment.Remembers

namespace Client

theorem keeps_request {method : Method} {path : String} {token : Option String}
    {data : Option Json} : (request env method path token data).Keeps P :=
  .failingAs (.send env _) _

/-- The token and the id are written together, or neither is. -/
theorem keeps_storeToken (h : env.Remembers entries) (token : Json) (machineId : String) :
    (storeToken env token machineId).Keeps (Consistent ∘ entries) := by
  intro world consistent
  rw [storeToken, Action.perform_bind, Action.perform_failingAs, Action.perform_ofExcept]
  cases decoded : MachineToken.decode token with
  | error mismatch => exact consistent
  | ok value =>
    obtain ⟨between, first, put⟩ := h.perform_write Store.tokenKey token world
    obtain ⟨after, second, put'⟩ := h.perform_write Store.machineIdKey (.string machineId) between
    dsimp only [Except.mapError]
    rw [Action.perform_bind_of_ok (Action.perform_failingAs_of_ok first _),
      Action.perform_failingAs_of_ok second, Function.comp_apply, put', put]
    exact consistent.storing decoded machineId

/-- To store a token keeps what each write to the store keeps. -/
theorem keeps_storeToken_of_write
    (writes : ∀ key value, (env.store.write key value).onState.Keeps P)
    (token : Json) (machineId : String) : (storeToken env token machineId).Keeps P := by
  refine .bind (.failingAs (.ofExcept _) _) fun _ => ?_
  exact .bind (.failingAs (writes _ _) _) fun _ => .failingAs (writes _ _) _

/-- Attaching and refreshing put in what the server answered with, once it was checked. -/
theorem keeps_exchange (h : env.Undisturbed P)
    (stores : ∀ token machineId, (storeToken env token machineId).Keeps P)
    (exchange : TokenExchange) : (exchange.action env).Keeps P := by
  refine .bind (.failingAs h.machineId _) fun machineId => ?_
  refine .bind (.failingAs (.platform env) _) fun platform => ?_
  refine .bind (.failingAs (.failingAs (.send env _) _) _) fun response => ?_
  refine .bind (stores _ _) fun _ => ?_
  exact .bind (.note _) fun _ => .pure _

theorem keeps_release {secret contractId machineId : String} :
    (release env secret contractId machineId).Keeps P :=
  .bind (.failingAs keeps_request _) fun _ => .pure _

theorem keeps_releaseCurrent (h : env.Undisturbed P) (secret contractId : String) :
    (releaseCurrent env secret contractId).Keeps P :=
  .bind (.failingAs h.machineId _) fun _ => keeps_release

/-- What comes back is put in under the key of the resource, unchecked. -/
theorem keeps_access (h : env.Undisturbed P) (secret : String) {resource : String}
    (puts : ∀ value, (env.store.write (Store.accessKey resource) value).onState.Keeps P) :
    (access env secret resource).Keeps P := by
  refine .bind (.failingAs h.machineId _) fun machineId => ?_
  refine .bind (.failingAs keeps_request _) fun response => ?_
  exact .bind (.failingAs (puts _) _) fun _ => .pure _

theorem keeps_resources : (resources env).Keeps P := by
  refine .bind keeps_request fun response => ?_
  split <;> exact .pure _

theorem keeps_detach (h : env.Undisturbed P) (secret contractId machineId : String) :
    (detach env secret contractId machineId).Keeps P := by
  refine .bind (.failingAs h.machineId _) fun current => ?_
  refine .bind (.failingAs (h.read _) _) fun stored => ?_
  cases stored with
  | none => exact keeps_release
  | some stored =>
    dsimp only
    split
    · exact keeps_release
    · exact .bind (.note _) fun _ => .pure _

end Client

namespace Update

/-- To fetch a token keeps what storing one keeps. -/
theorem keeps_fetch (h : env.Undisturbed P)
    (stores : ∀ token machineId, (Client.storeToken env token machineId).Keeps P)
    (attached : Option MachineToken) (contractToken : Option String) :
    (fetch env attached contractToken).Keeps P := by
  cases attached <;> cases contractToken
  case some.none current =>
    rw [fetch, TokenExchange.refresh_eq_action]
    exact .failingAs (Client.keeps_exchange h stores _) _
  case none.some contractToken =>
    rw [fetch, TokenExchange.attach_eq_action]
    exact .failingAs (Client.keeps_exchange h stores _) _
  all_goals exact .throw _

/-- The services are brought in line without touching the entries. -/
theorem keeps_applyEntitlements (previous : Option MachineToken) (updated : MachineToken) :
    Action.Keeps P (liftM (applyEntitlements env previous updated) :
      Action (World σ) UpdateError (List Outcome)) := by
  refine .lift fun world holds => ?_
  rwa [(offline_applyEntitlements env previous updated world).state_eq]

/-- An update keeps what storing a token keeps: nothing else of it writes to the store. -/
theorem keeps_run (h : env.Undisturbed P)
    (stores : ∀ token machineId, (Client.storeToken env token machineId).Keeps P)
    (contractToken : Option String) : (run env contractToken).Keeps P := by
  refine .bind (.failingAs h.machineToken _) fun stored => ?_
  refine .bind (keeps_fetch h stores _ _) fun body => ?_
  refine .bind (.failingAs (.ofExcept _) _) fun updated => ?_
  refine .bind (keeps_applyEntitlements _ _) fun outcomes => ?_
  exact .bind (.failingAs (.ofExcept _) _) fun _ => .note _

end Update

namespace Command

theorem keeps_attachedToken (h : env.Undisturbed P) : (attachedToken env).Keeps P := by
  refine .bind (.failingAs h.machineToken _) fun token => ?_
  split
  · exact .pure _
  · exact .throw _

/-- Whatever a type is called, its access record is all that goes with it. -/
theorem keeps_clearAccess {kind : String}
    (removes : (env.store.delete (Store.accessKey kind)).onState.Keeps P) :
    (clearAccess env kind).Keeps P := by
  refine .tryCatch removes fun failure => ?_
  split
  · exact .pure _
  · exact .throw _

/-- To clear the cache keeps what each deletion keeps. -/
theorem keeps_clear (removes : ∀ key, (env.store.delete key).onState.Keeps P)
    (token : MachineToken) : (clear env token).Keeps P := by
  refine .bind (.forM fun kind _ => keeps_clearAccess (removes _)) fun _ => ?_
  exact .bind (removes _) fun _ => removes _

/-- The token and the id are removed last, one right after the other. -/
theorem keeps_consistent_of_clear (h : env.Remembers entries) (token : MachineToken) :
    (clear env token).Keeps (Consistent ∘ entries) := by
  refine .bind (.forM fun kind _ => keeps_clearAccess (h.keeps_delete fun entries consistent =>
    consistent.set_accessKey kind none)) fun _ world consistent => ?_
  obtain ⟨between, first, removed⟩ := h.perform_delete Store.machineIdKey world
  obtain ⟨after, second, removed'⟩ := h.perform_delete Store.tokenKey between
  rw [Action.perform_bind_of_ok first, second, Function.comp_apply, removed', removed]
  exact consistent.erase_both

/-- What a detachment does once the token was found. -/
theorem keeps_detaching (h : env.Undisturbed P) {token : MachineToken}
    (clears : (clear env token).Keeps P) : Action.Keeps P (do
      let machineId ← env.machineId.failingAs fun cause => CommandError.client (.platform cause)
      let _ ← (Client.detach env token.secret token.contractId machineId).failingAs .client
      (clear env token).failingAs fun cause => .client (.store cause)
      Action.log (.detached token.contractId)
      return Report.told "This machine is now detached.") := by
  refine .bind (.failingAs h.machineId _) fun machineId => ?_
  refine .bind (.failingAs (Client.keeps_detach h _ _ _) _) fun _ => ?_
  refine .bind (.failingAs clears _) fun _ => ?_
  exact .bind (.note _) fun _ => .pure _

theorem keeps_runDetach (h : env.Undisturbed P) (clears : ∀ token, (clear env token).Keeps P) :
    (runDetach env).Keeps P :=
  .bind (keeps_attachedToken h) fun token => keeps_detaching h (clears token)

theorem keeps_runAccess (h : env.Undisturbed P) {resource : String}
    (puts : ∀ value, (env.store.write (Store.accessKey resource) value).onState.Keeps P) :
    (runAccess env resource).Keeps P := by
  refine .bind (keeps_attachedToken h) fun token => ?_
  exact .bind (.failingAs (Client.keeps_access h _ puts) _) fun value => .pure _

theorem keeps_runResources : (runResources env).Keeps P :=
  .bind (.failingAs Client.keeps_resources _) fun _ => .pure _

/-- A command keeps whatever all uses of the store keep. -/
theorem keeps_run (h : env.Undisturbed P)
    (writes : ∀ key value, (env.store.write key value).onState.Keeps P)
    (removes : ∀ key, (env.store.delete key).onState.Keeps P) (command : Command) :
    (command.run env).Keeps P := by
  have stores := Client.keeps_storeToken_of_write writes
  cases command with
  | attach token => exact .bind (.failingAs (Update.keeps_run h stores _) _) fun _ => .pure _
  | refresh => exact .bind (.failingAs (Update.keeps_run h stores _) _) fun _ => .pure _
  | detach => exact keeps_runDetach h (keeps_clear removes)
  | access resource => exact keeps_runAccess h (writes _)
  | resources => exact keeps_runResources

end Command

end Operations

/-! ### Any number of operations -/

/-- An operation on a machine. -/
inductive Operation where
  | update (contractToken : Option String)
  | attach (contractToken : String)
  /-- Refreshes the machine, or takes it out of its contract. -/
  | updateToken (secret contractId : String) (detach : Bool)
  | access (secret resource : String)
  | resources
  | detach (secret contractId machineId : String)
  /-- Detaches the machine and removes what the attachment left behind. -/
  | runDetach

namespace Operation

variable {σ : Type} {env : Environment σ} {entries : σ → Keyed Json}

/-- The world after the operation, whatever came of it. -/
def after (env : Environment σ) (world : World σ) : Operation → World σ
  | update contractToken => ((Update.run env contractToken).perform world).2
  | attach contractToken => ((Client.attach env contractToken).perform world).2
  | updateToken secret contractId true =>
    ((Client.releaseCurrent env secret contractId).perform world).2
  | updateToken secret contractId false => ((Client.refresh env secret contractId).perform world).2
  | access secret resource => ((Client.access env secret resource).perform world).2
  | resources => ((Client.resources env).perform world).2
  | detach secret contractId machineId =>
    ((Client.detach env secret contractId machineId).perform world).2
  | runDetach => ((Command.runDetach env).perform world).2

/-- The world after several operations, each in surroundings of its own. -/
def afterAll (world : World σ) (operations : List (Environment σ × Operation)) : World σ :=
  operations.foldl (fun world (env, operation) => operation.after env world) world

/-- No operation makes the entries inconsistent. -/
theorem consistent_after (h : env.Remembers entries) {world : World σ}
    (consistent : Consistent (entries world.state)) (operation : Operation) :
    Consistent (entries (operation.after env world).state) := by
  have undisturbed : env.Undisturbed (Consistent ∘ entries) := h.undisturbed
  have stores := Client.keeps_storeToken h
  cases operation with
  | update contractToken =>
    exact Update.keeps_run undisturbed stores contractToken world consistent
  | attach contractToken =>
    exact Client.keeps_exchange undisturbed stores (.attach contractToken) world consistent
  | updateToken secret contractId detach =>
    cases detach with
    | true => exact Client.keeps_releaseCurrent undisturbed secret contractId world consistent
    | false =>
      rw [after, TokenExchange.refresh_eq_action]
      exact Client.keeps_exchange undisturbed stores _ world consistent
  | access secret resource =>
    refine Client.keeps_access undisturbed secret (fun value => ?_) world consistent
    exact h.keeps_write fun entries consistent => consistent.set_accessKey resource (some value)
  | resources => exact Client.keeps_resources (P := Consistent ∘ entries) world consistent
  | detach secret contractId machineId =>
    exact Client.keeps_detach undisturbed secret contractId machineId world consistent
  | runDetach =>
    have clears := Command.keeps_consistent_of_clear h
    exact Command.keeps_runDetach undisturbed clears world consistent

theorem consistent_afterAll {operations : List (Environment σ × Operation)}
    (remembers : ∀ step ∈ operations, step.1.Remembers entries) {world : World σ}
    (consistent : Consistent (entries world.state)) :
    Consistent (entries (afterAll world operations).state) := by
  induction operations generalizing world with
  | nil => exact consistent
  | cons step rest ih =>
    obtain ⟨first, others⟩ := List.forall_mem_cons.1 remembers
    exact ih others (consistent_after first consistent step.2)

/-- The machine token and the machine id are as they were. -/
structure SameMachine (entries after : Keyed Json) : Prop where
  token : after.get? Store.tokenKey = entries.get? Store.tokenKey
  machineId : after.get? Store.machineIdKey = entries.get? Store.machineIdKey

/-- No resource has a name by which its access record could take the place of another entry. -/
theorem SameMachine.set_accessKey {entries after : Keyed Json} (h : SameMachine entries after)
    (resource : String) (value : Option Json) :
    SameMachine entries (after.set (Store.accessKey resource) value) := by
  constructor
  · rw [Keyed.get?_set, if_neg (Store.accessKey_ne_tokenKey resource)]
    exact h.token
  · rw [Keyed.get?_set, if_neg (Store.accessKey_ne_machineIdKey resource)]
    exact h.machineId

/-- **The entries are consistent at all times**: on a machine that begins without entries, the token
can be read, is there exactly if the id is, and all else are access records, after any operations,
however the servers answer and whatever the hosts tell. To put in or to remove the access record of
a resource leaves the token and the id as they are, whatever the resource is called. -/
theorem entries_stay_consistent (entries : σ → Keyed Json) {world : World σ}
    (fresh : entries world.state = [])
    {operations : List (Environment σ × Operation)}
    (remembers : ∀ step ∈ operations, step.1.Remembers entries) :
    Consistent (entries (afterAll world operations).state) ∧
    ∀ env : Environment σ, env.Remembers entries → ∀ (resource : String) (world : World σ),
      (∀ secret, SameMachine (entries world.state)
        (entries ((Client.access env secret resource).perform world).2.state)) ∧
      SameMachine (entries world.state)
        (entries ((Command.clearAccess env resource).perform world).2.state) := by
  refine ⟨consistent_afterAll remembers (fresh ▸ Consistent.nil),
    fun env h resource world => ⟨fun secret => ?_, ?_⟩⟩
  · have puts (value : Json) : (env.store.write (Store.accessKey resource) value).onState.Keeps
        (SameMachine (entries world.state) ∘ entries) :=
      h.keeps_write fun _ same => same.set_accessKey resource (some value)
    exact Client.keeps_access h.undisturbed secret puts world ⟨rfl, rfl⟩
  · have removes : (env.store.delete (Store.accessKey resource)).onState.Keeps
        (SameMachine (entries world.state) ∘ entries) :=
      h.keeps_delete fun _ same => same.set_accessKey resource none
    exact Command.keeps_clearAccess removes world ⟨rfl, rfl⟩

/-- The busy machine, at a time when it does not know its series. -/
def unplacedLivepatch : Environment (Keyed Json) :=
  { Update.busyLivepatch with
    host := { Update.busyLivepatch.host with platform := fun _ => .error (.missingField "ID") } }

/-- An attachment that fails, one that succeeds, a resource with the name of another entry, and a
detachment: the token is there before the last of them, and is gone after it. -/
theorem entries_stay_consistent_busyLivepatch :
    let operations : List (Environment (Keyed Json) × Operation) :=
      [(unplacedLivepatch, .attach "token"), (Update.busyLivepatch, .update (some "token")),
        (Update.busyLivepatch, .access "secret" "../machine-token"),
        (Update.busyLivepatch, .runDetach)]
    (∀ step ∈ operations, step.1.Remembers id) ∧
    (Keyed.get? (afterAll { state := [] } (operations.take 3)).state Store.tokenKey).isSome ∧
    (Keyed.get? (afterAll { state := [] } operations).state Store.tokenKey).isNone ∧
    Consistent (afterAll { state := [] } operations).state ∧
    ∀ env : Environment (Keyed Json), env.Remembers id → ∀ (resource : String)
      (world : World (Keyed Json)),
      (∀ secret, SameMachine world.state
        ((Client.access env secret resource).perform world).2.state) ∧
      SameMachine world.state ((Command.clearAccess env resource).perform world).2.state := by
  intro operations
  have placed : Update.busyLivepatch.Remembers id := Update.inMemory_busyLivepatch.remembers
  have unplaced : unplacedLivepatch.Remembers id :=
    Environment.InMemory.remembers ⟨rfl, fun _ => rfl⟩
  have remembers : ∀ step ∈ operations, step.1.Remembers id := by
    simp [operations, placed, unplaced]
  exact ⟨remembers, by decide +kernel, by decide +kernel,
    entries_stay_consistent id rfl remembers⟩

end Operation

end Subscription
