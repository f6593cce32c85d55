import Mathlib.Data.List.Induction
import Subscription.Proofs.Command.Issued

/-!
# A machine that became another

The id of a machine is stored with its token, and both are removed together. So whenever there is a
token, the stored id is the one that the host told in the latest turn that stored a token
(`Command.Bound`). A detachment compares it with the id that the host tells now, and takes the
machine out of its contract exactly if they are equal (`Command.detach_releases_same_machine`).
-/

namespace Subscription

variable {σ : Type}

/-! ### Commands that store no token -/

namespace Command

variable {env : Environment σ} {holds : σ → Store.Entries → Prop} {entries : Store.Entries}
  {world : World σ}

/-- The state holds of the machine itself what is among these entries. -/
def HoldsMachine (holds : σ → Store.Entries → Prop) (entries : Store.Entries) (state : σ) : Prop :=
  ∃ left, holds state left ∧ left Store.tokenKey = entries Store.tokenKey ∧
    left Store.machineIdKey = entries Store.machineIdKey

/-- To read the store or to ask for the machine id leaves the entries of the machine. -/
theorem undisturbed_holdsMachine (works : env.Works holds) (entries : Store.Entries) :
    env.Undisturbed (HoldsMachine holds entries) where
  read key := .onState fun _ ⟨left, held, same⟩ => ⟨left, works.store.read key held, same⟩
  machineId _ := fun ⟨left, held, same⟩ => ⟨left, works.machineId held, same⟩

/-- An access record is put in, or not, and the machine itself is left alone. -/
theorem holdsMachine_of_runAccess (works : env.Works holds) (entries : Store.Entries)
    (resource : String) : (runAccess env resource).Keeps (HoldsMachine holds entries) := by
  refine keeps_runAccess (undisturbed_holdsMachine works entries) fun value => ?_
  refine .onState fun state ⟨left, held, token, id⟩ => ?_
  cases written : ((env.store.write (Store.accessKey resource) value).perform state).1 with
  | error cause => exact ⟨left, works.store.unwritten held written, token, id⟩
  | ok =>
    obtain ⟨shown, heldAfter, -⟩ := works.store.written held written
    refine ⟨_, heldAfter, ?_, ?_⟩
    · rw [Function.update_of_ne (Store.accessKey_ne_tokenKey resource).symm, token]
    · rw [Function.update_of_ne (Store.accessKey_ne_machineIdKey resource).symm, id]

/-- A detachment removes the token, or leaves the token and the id alone. -/
theorem held_of_runDetach (works : env.Works holds) (held : holds world.state entries) :
    HoldsMachine holds entries ((Command.detach.run env).perform world).2.state ∨
    ∃ left, holds ((Command.detach.run env).perform world).2.state left ∧
      left Store.tokenKey = none := by
  have kept := keeps_takeOut works.spares entries world held
  cases taken : (takeOut env).perform world with | mk first between =>
  rw [taken] at kept
  cases first with
  | error failure =>
    rw [perform_detach_of_error taken]
    exact .inl ⟨entries, kept, rfl, rfl⟩
  | ok token =>
    rw [perform_detach_of_ok taken]
    cases cleared : (clear env token).perform between with | mk removal last =>
    obtain ⟨left, heldAfter, removed, stopped⟩ := perform_clear works.spares kept cleared
    cases removal with
    | ok => exact .inr ⟨left, heldAfter, (removed rfl).2.1⟩
    | error cause =>
      -- A store that works never fails to remove the token, so the id cannot be gone before it.
      obtain ⟨same, -, id | ⟨state, shown, stuck, failed⟩⟩ := stopped cause rfl
      · exact .inl ⟨left, heldAfter, same, id⟩
      · cases failed.symm.trans (works.store.deletes stuck (.inl rfl))

end Command

/-! ### Turns that store a token -/

/-- The command of the turn gets a machine token, and the server answered with one. -/
def Turn.StoresToken (turn : Turn σ) : Prop :=
  ((∃ contractToken, turn.command = .attach contractToken) ∨ turn.command = .refresh) ∧
    World.Tokened turn.env.server turn.before turn.after

/-- The machine token that is stored as this value is the one that the server answered with in the
turn, when the host told this id. -/
structure Turn.Issued (turn : Turn σ) (value : Json) (machineId : String) : Prop where
  asked : (turn.env.host.machineId turn.before.state).1 = .ok machineId
  answered : ∃ request response, turn.exchanges = [(request, .ok response)] ∧
    (response.body.Restorable → value = response.body)

/-- What becomes in a turn of the entries that belong to the machine itself. -/
inductive Turn.Course (turn : Turn σ) (entries left : Store.Entries) : Prop
  | kept (unstored : ¬turn.StoresToken) (token : left Store.tokenKey = entries Store.tokenKey)
      (machineId : left Store.machineIdKey = entries Store.machineIdKey)
  | cleared (unstored : ¬turn.StoresToken) (token : left Store.tokenKey = none)
  | stored {machineId : String} (stores : turn.StoresToken)
      (issued : ∀ value, left Store.tokenKey = some value → turn.Issued value machineId)
      (machineId : left Store.machineIdKey = some (.string machineId))

namespace Turn

variable {turn : Turn σ} {holds : σ → Store.Entries → Prop} {entries : Store.Entries}

/-- An attachment or a refreshment goes as the update that it carries out. -/
theorem course_of_update (contractToken : Option String)
    (fetches : (∃ contractToken, turn.command = .attach contractToken) ∨ turn.command = .refresh)
    (same : turn.after = ((Update.run turn.env contractToken).perform turn.before).2)
    (works : turn.env.Works holds) (held : holds turn.before.state entries) :
    ∃ left, holds turn.after.state left ∧ turn.Course entries left := by
  have course := Update.course works held contractToken
  rw [← same] at course
  cases course with
  | kept held untokened => exact ⟨entries, held, .kept (fun stores => untokened stores.2) rfl rfl⟩
  | @stored request response token machineId shown one decoded asked restored held =>
    have stores : turn.StoresToken :=
      ⟨fetches, request, response, token, one ▸ List.mem_singleton_self _, decoded⟩
    refine ⟨_, held, .stored stores (fun value there => ⟨asked, request, response, one, ?_⟩)
      (Function.update_self ..)⟩
    rw [Store.Entries.issued, Function.update_of_ne Store.tokenKey_ne_machineIdKey,
      Function.update_self] at there
    intro restorable
    exact Option.some.inj (there.symm.trans (restored restorable))

/-- A turn that leaves alone what is held of the machine stores no token. -/
theorem course_of_holdsMachine (unstored : ¬turn.StoresToken)
    (kept : Command.HoldsMachine holds entries turn.after.state) :
    ∃ left, holds turn.after.state left ∧ turn.Course entries left := by
  obtain ⟨left, held, token, machineId⟩ := kept
  exact ⟨left, held, .kept unstored token machineId⟩

/-- Whatever a turn comes to, it has one of these courses. -/
theorem course (works : turn.env.Works holds) (held : holds turn.before.state entries) :
    ∃ left, holds turn.after.state left ∧ turn.Course entries left := by
  have begun : Command.HoldsMachine holds entries turn.before.state := ⟨entries, held, rfl, rfl⟩
  obtain ⟨env, command, before⟩ := turn
  cases command with
  | attach contractToken =>
    exact course_of_update (some contractToken) (.inl ⟨_, rfl⟩)
      (Action.perform_bind_pure _ _ _) works held
  | refresh => exact course_of_update none (.inr rfl) (Action.perform_bind_pure _ _ _) works held
  | detach =>
    have unstored : ¬Turn.StoresToken ⟨env, .detach, before⟩ := by
      rintro ⟨⟨_, ⟨⟩⟩ | ⟨⟨⟩⟩, -⟩
    rcases Command.held_of_runDetach works held with kept | ⟨left, held, gone⟩
    · exact course_of_holdsMachine unstored kept
    · exact ⟨left, held, .cleared unstored gone⟩
  | access resource =>
    have keeps := Command.holdsMachine_of_runAccess works entries resource
    refine course_of_holdsMachine ?_ (keeps before begun)
    rintro ⟨⟨_, ⟨⟩⟩ | ⟨⟨⟩⟩, -⟩
  | resources =>
    refine course_of_holdsMachine ?_ (Command.keeps_runResources before begun)
    rintro ⟨⟨_, ⟨⟩⟩ | ⟨⟨⟩⟩, -⟩

end Turn

/-! ### Runs -/

namespace Command

variable {env : Environment σ} {holds : σ → Store.Entries → Prop} {entries : Store.Entries}
  {world : World σ}

/-- The last of the turns that stored a token. -/
def Latest (run : List (Turn σ)) (last : Turn σ) : Prop :=
  ∃ earlier later, run = earlier ++ last :: later ∧ last.StoresToken ∧
    ∀ turn ∈ later, ¬turn.StoresToken

/-- A turn that stores a token is the latest one that did. -/
theorem Latest.of_storesToken {turn : Turn σ} (stores : turn.StoresToken) (run : List (Turn σ)) :
    Latest (run ++ [turn]) turn :=
  ⟨run, [], rfl, stores, by simp⟩

/-- A turn that stores no token leaves the latest one that did. -/
theorem Latest.concat {run : List (Turn σ)} {last turn : Turn σ} (h : Latest run last)
    (unstored : ¬turn.StoresToken) : Latest (run ++ [turn]) last := by
  obtain ⟨earlier, later, rfl, stores, others⟩ := h
  refine ⟨earlier, later ++ [turn], by simp, stores, fun other mem => ?_⟩
  rcases List.mem_append.1 mem with before | now
  · exact others other before
  · exact List.mem_singleton.1 now ▸ unstored

/-- If there is a token, it was issued in the latest turn that stored one, and the stored id is the
one that the host told then. -/
def Bound (run : List (Turn σ)) (entries : Store.Entries) : Prop :=
  ∀ value, entries Store.tokenKey = some value → ∃ last machineId, Latest run last ∧
    last.Issued value machineId ∧ entries Store.machineIdKey = some (.string machineId)

/-- The id stays bound to the token through a further turn. -/
theorem Bound.concat {run : List (Turn σ)} {turn : Turn σ} {left : Store.Entries}
    (h : Bound run entries) (course : turn.Course entries left) : Bound (run ++ [turn]) left := by
  intro value there
  cases course with
  | kept unstored token machineId =>
    obtain ⟨last, issued, latest, issuing, stored⟩ := h value (token ▸ there)
    exact ⟨last, issued, latest.concat unstored, issuing, machineId.trans stored⟩
  | cleared unstored gone => cases gone.symm.trans there
  | stored stores issued machineId =>
    exact ⟨turn, _, .of_storesToken stores run, issued value there, machineId⟩

/-- The id is bound to the token in every run from no entries on. -/
theorem bound_turns {steps : List (Environment σ × Command)}
    (works : ∀ step ∈ steps, step.1.Works holds) (held : holds world.state fun _ => none) :
    ∃ left, holds (afterAll world steps).state left ∧ Bound (turns world steps) left := by
  -- The turn that a token is bound to is sought from the end, so the induction is on the last turn.
  induction steps using List.reverseRec with
  | nil => exact ⟨_, held, by rintro value ⟨⟩⟩
  | append_singleton steps step ih =>
    obtain ⟨env, command⟩ := step
    obtain ⟨before, now⟩ := List.forall_mem_append.1 works
    obtain ⟨entries, heldBefore, bound⟩ := ih before
    let turn : Turn σ := { env, command, before := afterAll world steps }
    have working : turn.env.Works holds := now (env, command) (List.mem_singleton_self _)
    obtain ⟨left, heldAfter, course⟩ := turn.course working heldBefore
    rw [turns_concat, afterAll_concat]
    exact ⟨left, heldAfter, bound.concat course⟩

/-! ### Detaching the same machine or another -/

variable {token : MachineToken} {issued current : String}

/-- What a detachment does once it has compared the id that is stored with the one that the host
tells. -/
def releaseIfSame (env : Environment σ) (token : MachineToken) (issued current : String) :
    Action (World σ) ClientError Json :=
  if issued = current then Client.release env token.secret token.contractId current
  else Action.log (.identityChanged issued current) >>= fun _ => pure (.object [])

/-- A detachment compares the stored id with the one the host tells before it asks for the
release. -/
theorem perform_clientDetach (works : env.Works holds) (held : holds world.state entries)
    (stored : entries Store.machineIdKey = some (.string issued))
    (asked : (env.host.machineId world.state).1 = .ok current) (token : MachineToken) :
    (Client.detach env token.secret token.contractId current).perform world =
      (releaseIfSame env token issued current).perform (env.named world) := by
  have named := Environment.perform_machineId_eq asked
  have read : (env.store.read Store.machineIdKey).onState.perform (env.named world) =
      (.ok (some (.string issued)), env.named world) := by
    have found := works.store.finds (works.machineId held) (.inr rfl) stored
    exact Prod.ext found (congrArg (World.mk · _) (works.reads _ _))
  rw [Client.detach, Action.perform_bind_of_ok (Action.perform_failingAs_of_ok named _),
    Action.perform_bind_of_ok (Action.perform_failingAs_of_ok read _)]
  rfl

/-- The host is asked for the id twice. -/
theorem perform_takeOut (works : env.Works holds) (held : holds world.state entries)
    (stored : entries Store.machineIdKey = some (.string issued))
    (attached : env.AttachedAs world.state token current) :
    (takeOut env).perform world =
      ((releaseIfSame env token issued current).failingAs .client >>=
        fun _ => pure token).perform (env.named (env.named world)) := by
  have gated := perform_attachedToken works.reads attached.found
  have chosen : (some token).filter MachineToken.isAttached = some token := by
    simp [Option.filter_some, MachineToken.isAttached, attached.secret]
  rw [chosen] at gated
  have named := Environment.perform_machineId_eq attached.asked
  have again : (env.host.machineId (env.named world).state).1 = .ok current :=
    (works.steady world.state).trans attached.asked
  have compared := perform_clientDetach works (works.machineId held) stored again token
  rw [takeOut, Action.perform_bind_of_ok gated,
    Action.perform_bind_of_ok (Action.perform_failingAs_of_ok named _), Action.perform_bind,
    Action.perform_failingAs, compared, Action.perform_bind, Action.perform_failingAs]

/-- The same machine is taken out of its contract with one request. -/
theorem sent_takeOut (works : env.Works holds) (held : holds world.state entries)
    (stored : entries Store.machineIdKey = some (.string current))
    (attached : env.AttachedAs world.state token current) :
    World.Sent world ((takeOut env).perform world).2
      [.release token.secret token.contractId current] := by
  have sent := env.sent_send (.release token.secret token.contractId current)
    (env.named (env.named world))
  have released : World.Sent _ ((Client.release env token.secret token.contractId current).perform
      (env.named (env.named world))).2 _ := Action.sent_bind sent fun _ => .pure _
  rw [perform_takeOut works held stored attached, releaseIfSame, if_pos rfl]
  refine (env.sent_machineId world).trans ((env.sent_machineId _).trans ?_)
  exact Action.sent_bind released fun _ => .pure _

/-- Another machine is left in its contract, and no request is sent. -/
theorem perform_takeOut_of_ne (works : env.Works holds) (held : holds world.state entries)
    (stored : entries Store.machineIdKey = some (.string issued))
    (attached : env.AttachedAs world.state token current) (other : issued ≠ current) :
    ∃ after, (takeOut env).perform world = (.ok token, after) ∧ World.Sent world after [] := by
  rw [perform_takeOut works held stored attached, releaseIfSame, if_neg other]
  refine ⟨_, rfl, (env.sent_machineId world).trans ((env.sent_machineId _).trans ?_)⟩
  exact ⟨[.logged (.identityChanged issued current)], rfl, rfl⟩

/-- Nothing is sent once a machine was taken out of its contract. -/
theorem sent_detach {sent : List Request}
    (h : World.Sent world ((takeOut env).perform world).2 sent) :
    World.Sent world ((Command.detach.run env).perform world).2 sent := by
  rw [run, runDetach_eq]
  refine Action.sent_bind h fun token => ?_
  refine .bind (.failingAs (quiet_clear env token) _) fun _ => ?_
  exact .bind (.log _) fun _ => .pure _

/-- The command succeeded, and all that an attachment with this token leaves behind is removed. -/
def Cleared (turn : Turn σ) (holds : σ → Store.Entries → Prop) (token : MachineToken) : Prop :=
  (∃ report, turn.result = .ok report) ∧ ∃ entries left, holds turn.before.state entries ∧
    holds turn.after.state left ∧
    turn.env.store.Removes holds (LeftBehind turn.env.processors token) entries left ∧
    left Store.tokenKey = none ∧ left Store.machineIdKey = none

/-- The command failed of an access record that the store could not remove, whose key it accepts. -/
def Stuck (turn : Turn σ) (holds : σ → Store.Entries → Prop) (token : MachineToken) : Prop :=
  ∃ cause kind state entries, turn.result = .error (.client (.store cause)) ∧
    kind ∈ accessTypes turn.env.processors token ∧ holds state entries ∧
    ((turn.env.store.delete (Store.accessKey kind)).perform state).1 = .error cause ∧
    ∀ rejected, cause ≠ .invalidKey rejected

/-- Where a machine was not taken out of its contract, its entries are removed nevertheless. -/
theorem cleared_or_stuck (works : env.Works holds) (held : holds world.state entries)
    {after : World σ} (taken : (takeOut env).perform world = (.ok token, after)) :
    let turn : Turn σ := { env, command := .detach, before := world }
    Cleared turn holds token ∨ Stuck turn holds token := by
  intro turn
  have ran := perform_detach_of_ok taken
  have kept := keeps_takeOut works.spares entries world held
  rw [taken] at kept
  cases cleared : (clear env token).perform after with | mk removal last =>
  obtain ⟨left, heldAfter, removed, stopped⟩ := perform_clear works.spares kept cleared
  rw [cleared] at ran
  cases removal with
  | ok =>
    have ended : turn.after = reported token.contractId last := congrArg Prod.snd ran
    refine .inl ⟨⟨_, congrArg Prod.fst ran⟩, entries, left, held, ?_, removed rfl⟩
    rw [ended]
    exact heldAfter
  | error cause =>
    obtain ⟨-, ⟨key, state, entries, behind, shown, failed, counts⟩, -⟩ := stopped cause rfl
    rcases leftBehind_iff.1 behind with ⟨kind, mem, rfl⟩ | ofMachine
    · exact .inr ⟨cause, kind, state, entries, congrArg Prod.fst ran, mem, shown, failed,
        fun rejected => counts kind rejected rfl⟩
    · cases failed.symm.trans (works.store.deletes shown ofMachine.symm)

/-- **A machine is taken out of its contract exactly if it is the one that was put in.** In every
run from no entries on, whatever the servers answer and whatever ids the hosts tell: the token of an
attached machine was issued in the latest turn that stored one. If the id is now what it was then, a
detachment sends one request, for the contract of the token and this id. If it is another, nothing
is sent, and all that the attachment left behind is removed; this can only fail of an access record
that the store cannot remove. -/
theorem detach_releases_same_machine {steps : List (Environment σ × Command)}
    (works : ∀ step ∈ steps, step.1.Works holds) (held : holds world.state fun _ => none)
    (now : env.Works holds) (attached : env.AttachedAs (afterAll world steps).state token current) :
    let turn : Turn σ := { env, command := .detach, before := afterAll world steps }
    ∃ last value issued, Latest (turns world steps) last ∧ last.Issued value issued ∧
      MachineToken.decode value = .ok token ∧
      (current = issued → turn.requests = [.release token.secret token.contractId current]) ∧
      (current ≠ issued → turn.requests = [] ∧
        (Cleared turn holds token ∨ Stuck turn holds token)) := by
  intro turn
  obtain ⟨entries, heldBefore, bound⟩ := bound_turns works held
  have found := Environment.perform_machineToken now.reads (afterAll world steps)
  rw [attached.found] at found
  obtain ⟨value, there, decoded⟩ := stored_of_machineToken now.spares heldBefore found
  obtain ⟨last, issued, latest, issuing, stored⟩ := bound value there
  refine ⟨last, value, issued, latest, issuing, decoded, fun same => ?_, fun other => ?_⟩
  · subst same
    exact Turn.requests_of_sent (sent_detach (sent_takeOut now heldBefore stored attached))
  · obtain ⟨after, taken, silent⟩ :=
      perform_takeOut_of_ne now heldBefore stored attached (Ne.symm other)
    refine ⟨Turn.requests_of_sent (sent_detach ?_), cleared_or_stuck now heldBefore taken⟩
    rw [taken]
    exact silent

/-- In memory everything works, if the host tells an id without changing it. -/
theorem works_inMemory {env : Environment (Keyed Json)} (h : env.InMemory) :
    env.Works fun state entries => state.get? = entries where
  store := h.store_eq ▸ Store.works_memory
  reads := h.readsOnly
  machineId {state entries} held := by rwa [h.machineId_state]
  steady state := by rw [h.machineId_state]

/-- The busy machine, with another id. -/
def renamedLivepatch : Environment (Keyed Json) :=
  { Update.busyLivepatch with
    host := { Update.busyLivepatch.host with
      machineId := fun entries => (.ok "other", entries, []) } }

/-- A machine is attached, becomes another, and is detached: nothing is sent. -/
theorem detach_releases_same_machine_renamed :
    let steps := [(Update.busyLivepatch, Command.attach "token"), (renamedLivepatch, .resources)]
    let world : World (Keyed Json) := { state := [] }
    let turn : Turn (Keyed Json) :=
      { env := renamedLivepatch, command := .detach, before := afterAll world steps }
    let holds : Keyed Json → Store.Entries → Prop := fun state entries => state.get? = entries
    ∃ token, renamedLivepatch.AttachedAs (afterAll world steps).state token "other" ∧
      turn.requests.length = 0 ∧ turn.result.isOk = true ∧ turn.after.state.length = 0 ∧
      ∃ last value issued, Latest (turns world steps) last ∧ last.Issued value issued ∧
        MachineToken.decode value = .ok token ∧
        ("other" = issued → turn.requests = [.release token.secret token.contractId "other"]) ∧
        ("other" ≠ issued → turn.requests = [] ∧
          (Cleared turn holds token ∨ Stuck turn holds token)) := by
  intro steps world turn holds
  have busy : Update.busyLivepatch.Works holds := works_inMemory Update.inMemory_busyLivepatch
  have renamed : renamedLivepatch.Works holds := works_inMemory ⟨rfl, fun _ => rfl⟩
  have works : ∀ step ∈ steps, step.1.Works holds := by simp [steps, busy, renamed]
  have secret : ((renamedLivepatch.storedToken (afterAll world steps).state).toOption.join.any
      MachineToken.isAttached) = true := by decide +kernel
  cases found : renamedLivepatch.storedToken (afterAll world steps).state with
  | error cause =>
    rw [found] at secret
    cases secret
  | ok stored =>
    rw [found] at secret
    obtain ⟨token, rfl, holder⟩ := any_isAttached_iff.1 secret
    have attached : renamedLivepatch.AttachedAs (afterAll world steps).state token "other" :=
      ⟨found, holder, rfl⟩
    exact ⟨token, attached, by decide +kernel, by decide +kernel, by decide +kernel,
      detach_releases_same_machine works rfl renamed attached⟩

/-! ### Records that cannot be removed -/

section Files

variable {dir : Path} {env : Environment FileTree} {entries : Store.Entries}
  {world : World FileTree}

/-- Where a type is so long that its access record cannot be a file, the record cannot be removed
either. -/
theorem clearAccess_of_wide (store : env.store = Store.files dir)
    (held : FileStore.HoldsEntries dir world.state entries) {key kind : String}
    (there : entries key ≠ none) (valid : FileStore.isValidKey (Store.accessKey kind) = true)
    (wide : ¬FileTree.NameFits dir (FileStore.fileName (Store.accessKey kind))) :
    ∃ after, (clearAccess env kind).perform world = (.error (.file .nameTooLong), after) := by
  have failed := Store.files_delete_of_wide held there valid wide
  rw [← store] at failed
  rw [clearAccess, Action.perform_tryCatch, Action.perform_onState, failed]
  exact ⟨_, rfl⟩

/-- Where the file of every access record has a name that fits, they are all removed. -/
theorem not_stuck_of_fits {turn : Turn FileTree} {token : MachineToken}
    (store : turn.env.store = Store.files dir)
    (fits : ∀ kind ∈ accessTypes turn.env.processors token,
      FileTree.NameFits dir (FileStore.temporaryName (Store.accessKey kind))) :
    ¬Stuck turn (FileStore.HoldsEntries dir) token := by
  rintro ⟨cause, kind, tree, entries, -, mem, ⟨contents, held, -⟩, failed, counts⟩
  rw [store] at failed
  cases valid : FileStore.isValidKey (Store.accessKey kind) with
  | false =>
    have rejected : (Store.Operation.delete (Store.accessKey kind)).step (.files dir) tree = _ :=
      FileStore.step_of_not_valid (.delete (Store.accessKey kind)) valid tree
    have given : ((Store.files dir).delete (Store.accessKey kind)).perform tree = _ :=
      Store.Operation.done_eq_error rejected
    rw [given] at failed
    exact counts _ (Except.error.inj failed).symm
  | true =>
    obtain ⟨after, ⟨_, -, -, wide⟩ | ⟨given, -⟩⟩ :=
      Store.files_delete_cases held (Store.accessKey kind)
    · exact wide valid (fits kind mem)
    · rw [given] at failed
      cases failed

/-- Such a machine, once it has become another, is detached without fail and without a request. -/
theorem cleared_of_fits {token : MachineToken} {issued current : String}
    (works : env.Works (FileStore.HoldsEntries dir)) (store : env.store = Store.files dir)
    (held : FileStore.HoldsEntries dir world.state entries)
    (stored : entries Store.machineIdKey = some (.string issued))
    (attached : env.AttachedAs world.state token current) (other : issued ≠ current)
    (fits : ∀ kind ∈ accessTypes env.processors token,
      FileTree.NameFits dir (FileStore.temporaryName (Store.accessKey kind))) :
    let turn : Turn FileTree := { env, command := .detach, before := world }
    turn.requests = [] ∧ Cleared turn (FileStore.HoldsEntries dir) token := by
  intro turn
  obtain ⟨after, taken, silent⟩ := perform_takeOut_of_ne works held stored attached other
  have sent : World.Sent world ((takeOut env).perform world).2 [] := by
    rw [taken]
    exact silent
  refine ⟨Turn.requests_of_sent (sent_detach sent), ?_⟩
  exact (cleared_or_stuck works held taken).resolve_right (not_stuck_of_fits store fits)

/-- A type whose access record would have a file name that is too long. -/
def longKind : String := String.ofList (List.replicate 240 'a')

theorem isValidKey_longKind : FileStore.isValidKey (Store.accessKey longKind) = true := by
  refine Store.isValidKey_accessKey fun c mem => ?_
  have letters : longKind.toList = List.replicate 240 'a' := String.toList_ofList
  rw [letters] at mem
  rw [List.eq_of_mem_replicate mem]
  decide

/-- A machine token that grants this type. -/
def longToken : Json :=
  let record := .object [("type", .string longKind)]
  let contract := .object [("id", .string "contract"), ("resourceEntitlements", .array [record])]
  .object [("machineToken", .string "secret"),
    ("machineTokenInfo", .object [("contractInfo", contract)])]

/-- A machine with its entries in files, whose server answers everything with this token. -/
def filedMachine (machineId : String) : Environment FileTree where
  store := .files ["lib", "contracts"]
  host := {
    platform := fun _ => .ok Update.noble
    machineId := fun tree => (.ok machineId, tree, []) }
  server _ _ := ([], .ok { body := longToken, headers := [] })
  processors := []

theorem works_filedMachine (machineId : String) :
    (filedMachine machineId).Works (FileStore.HoldsEntries ["lib", "contracts"]) where
  store := by
    refine Store.works_files ?_
    rintro key (rfl | rfl) <;> decide +kernel
  reads := Store.readsOnly_files _
  machineId held := held
  steady _ := rfl

theorem restorable_longToken : longToken.Restorable :=
  ⟨by decide +kernel, by simp [longToken, Json.IsWhole, Json.ItemsWhole, Json.MembersWhole],
    by decide +kernel⟩

/-- On a machine without files, an attachment stores the token. -/
theorem held_attach_filedMachine (machineId : String) {token : MachineToken}
    (decoded : MachineToken.decode longToken = .ok token) :
    ∃ entries, FileStore.HoldsEntries ["lib", "contracts"]
        ((Command.attach "token").run (filedMachine machineId) |>.perform
          { state := [] }).2.state entries ∧
      entries Store.tokenKey = some longToken ∧
      entries Store.machineIdKey = some (.string machineId) := by
  let world : World FileTree := { state := [] }
  have works := works_filedMachine machineId
  have read : ((Store.files ["lib", "contracts"]).read Store.tokenKey).perform [] =
      (.ok none, []) := by
    rcases Store.files_read_cases FileStore.empty_contracts.holds Store.tokenKey with
      ⟨cause, -, wide⟩ | ⟨given, -⟩
    · exact absurd (by decide +kernel) (wide (Store.isValidKey_of_machine (.inl rfl)))
    · exact given
  have found : (filedMachine machineId).storedToken world.state = .ok none := by
    change (filedMachine machineId).storedToken [] = _
    rw [Environment.storedToken, filedMachine, read]
  have nothing : FileStore.HoldsEntries ["lib", "contracts"] world.state fun _ => none :=
    FileStore.empty_contracts.holdsEntries
  have chosen : Update.exchangeFor none (some "token") = .ok (.attach "token") := rfl
  obtain ⟨shown, held, restored⟩ :=
    Update.stored_of_answer works nothing found chosen rfl rfl rfl decoded
  have same : ((Command.attach "token").run (filedMachine machineId) |>.perform world).2 =
      ((Update.run (filedMachine machineId) (some "token")).perform world).2 :=
    Action.perform_bind_pure _ _ world
  rw [← same] at held
  refine ⟨_, held, ?_, Function.update_self ..⟩
  rw [Store.Entries.issued, Function.update_of_ne Store.tokenKey_ne_machineIdKey,
    Function.update_self, restored restorable_longToken]

/-- A machine whose token grants a type with such a name is attached, becomes another, and is
detached: nothing is sent, but the detachment fails, and the token stays. -/
theorem detach_fails_of_longKind :
    let turn : Turn FileTree :=
      { env := filedMachine "other"
        command := .detach
        before := afterAll { state := [] } [(filedMachine "machine", .attach "token")] }
    FileStore.HoldsEntries ["lib", "contracts"] [] (fun _ => none) ∧
    ∃ token, turn.env.AttachedAs turn.before.state token "other" ∧ turn.requests = [] ∧
      turn.result = .error (.client (.store (.file .nameTooLong))) ∧
      turn.env.storedToken turn.after.state = .ok (some token) := by
  intro turn
  have works : turn.env.Works (FileStore.HoldsEntries ["lib", "contracts"]) :=
    works_filedMachine "other"
  have known : ((MachineToken.decode longToken).toOption.any fun token =>
      token.isAttached ∧ accessTypes [] token = [longKind]) = true := by decide +kernel
  cases decoded : MachineToken.decode longToken with
  | error mismatch =>
    rw [decoded] at known
    cases known
  | ok token =>
  rw [decoded] at known
  obtain ⟨holder, granted⟩ : token.isAttached ∧ accessTypes [] token = [longKind] :=
    of_decide_eq_true known
  obtain ⟨entries, held, there, stored⟩ := held_attach_filedMachine "machine" decoded
  have storedToken_of_held {state : FileTree} {left : Store.Entries}
      (shown : FileStore.HoldsEntries ["lib", "contracts"] state left)
      (same : left Store.tokenKey = some longToken) :
      turn.env.storedToken state = .ok (some token) := by
    rw [Environment.storedToken, works.store.finds shown (.inl rfl) same]
    dsimp only
    rw [decoded]
    rfl
  have attached : turn.env.AttachedAs turn.before.state token "other" :=
    ⟨storedToken_of_held held there, by simpa [MachineToken.isAttached] using holder, rfl⟩
  obtain ⟨after, taken, silent⟩ : ∃ after, (takeOut turn.env).perform turn.before = _ ∧ _ :=
    perform_takeOut_of_ne works held stored attached (by decide)
  have kept := keeps_takeOut works.spares entries turn.before held
  rw [taken] at kept
  have tokenShown : entries Store.tokenKey ≠ none := there ▸ Option.some_ne_none _
  have filed : turn.env.store = .files ["lib", "contracts"] := rfl
  obtain ⟨uncleared, first⟩ :=
    clearAccess_of_wide filed kept tokenShown isValidKey_longKind (by decide +kernel)
  cases cleared : (clear turn.env token).perform after with | mk removal last =>
  obtain ⟨left, heldAfter, -, stopped⟩ := perform_clear works.spares kept cleared
  have failed : removal = .error (.file .nameTooLong) := by
    rw [clear, show accessTypes turn.env.processors token = [longKind] from granted] at cleared
    change ((clearAccess turn.env longKind >>= fun _ => pure ()) >>= _).perform after = _ at cleared
    rw [Action.perform_bind_of_error (Action.perform_bind_of_error first _)] at cleared
    exact (congrArg Prod.fst cleared).symm
  have ran := perform_detach_of_ok taken
  rw [cleared, failed] at ran
  have silence : World.Sent turn.before ((takeOut turn.env).perform turn.before).2 [] := by
    rw [taken]
    exact silent
  refine ⟨FileStore.empty_contracts.holdsEntries, token, attached,
    Turn.requests_of_sent (sent_detach silence), congrArg Prod.fst ran, ?_⟩
  have ended : turn.after = last := congrArg Prod.snd ran
  rw [ended]
  exact storedToken_of_held heldAfter ((stopped _ failed).1.trans there)

end Files

end Command

end Subscription
