import Subscription.Proofs.Consistency
import Subscription.Proofs.Store.Faults

/-!
# A machine is detached, or can be detached again

A detachment first takes the machine out of its contract (`Command.takeOut`), which removes nothing,
and then removes what the attachment left behind, the token last. It may fail at any point. Until
the token is gone it can be repeated, and the token is removed by the very last step that can fail
(`Command.detach_keeps_token_or_clears`).
-/

namespace Subscription

variable {σ : Type}

/-- To look at an entry, to fail to remove one and to ask for the machine id change no entry. -/
structure Environment.Spares (env : Environment σ) (holds : σ → Store.Entries → Prop) : Prop where
  store : env.store.Spares holds
  machineId : ∀ {state entries}, holds state entries →
    holds (env.host.machineId state).2.1 entries

theorem Environment.Spares.undisturbed {env : Environment σ} {holds : σ → Store.Entries → Prop}
    (h : env.Spares holds) (entries : Store.Entries) :
    env.Undisturbed fun state => holds state entries where
  read key := .onState fun _ held => h.store.read key held
  machineId _ held := h.machineId held

/-! ### What an attachment leaves behind -/

namespace Command

/-- The key is that of an entry which an attachment with this token leaves behind: the token, the id
of the machine, and the access records of all types that are registered or that the token grants. -/
inductive LeftBehind (processors : Keyed Processor) (token : MachineToken) : String → Prop
  | token : LeftBehind processors token Store.tokenKey
  | machineId : LeftBehind processors token Store.machineIdKey
  | registered {kind : String} : kind ∈ processors.keys →
      LeftBehind processors token (Store.accessKey kind)
  | granted {record : Entitlement} {kind : String} : record ∈ token.entitlements →
      record.kind = some kind → LeftBehind processors token (Store.accessKey kind)

variable {processors : Keyed Processor} {token : MachineToken} {key : String}

/-- The types to clear are those with a processor and those that the token names. -/
theorem mem_accessTypes {kind : String} : kind ∈ accessTypes processors token ↔
    kind ∈ processors.keys ∨ ∃ record ∈ token.entitlements, record.kind = some kind := by
  rw [accessTypes, Keyed.mem_keys_ofList]
  simp

theorem leftBehind_iff : LeftBehind processors token key ↔
    (∃ kind ∈ accessTypes processors token, key = Store.accessKey kind) ∨
      key = Store.machineIdKey ∨ key = Store.tokenKey := by
  constructor
  · rintro (_ | _ | registered | ⟨granted, named⟩)
    · exact .inr (.inr rfl)
    · exact .inr (.inl rfl)
    · exact .inl ⟨_, mem_accessTypes.2 (.inl registered), rfl⟩
    · exact .inl ⟨_, mem_accessTypes.2 (.inr ⟨_, granted, named⟩), rfl⟩
  · rintro (⟨kind, mem, rfl⟩ | rfl | rfl)
    · rcases mem_accessTypes.1 mem with registered | ⟨record, granted, named⟩
      · exact .registered registered
      · exact .granted granted named
    · exact .machineId
    · exact .token

/-! ### Removing it -/

variable {env : Environment σ} {holds : σ → Store.Entries → Prop} {entries : Store.Entries}
  {world after : World σ}

/-- The store failed to remove an entry that an attachment with this token leaves behind. That the
key of an access record was rejected does not count. -/
def Stopped (env : Environment σ) (holds : σ → Store.Entries → Prop) (token : MachineToken)
    (cause : StoreError) : Prop :=
  ∃ key state entries, LeftBehind env.processors token key ∧ holds state entries ∧
    ((env.store.delete key).perform state).1 = .error cause ∧
    ∀ kind rejected, key = Store.accessKey kind → cause ≠ .invalidKey rejected

/-- The access record of a type is removed like any entry, but a rejected key is no failure. -/
theorem perform_clearAccess (spares : env.Spares holds) {kind : String}
    (mem : kind ∈ accessTypes env.processors token) (held : holds world.state entries) :
    (∃ left, ((clearAccess env kind).perform world).1 = .ok () ∧
      holds ((clearAccess env kind).perform world).2.state left ∧
      env.store.Removes holds (· = Store.accessKey kind) entries left) ∨
    ∃ cause, ((clearAccess env kind).perform world).1 = .error cause ∧
      holds ((clearAccess env kind).perform world).2.state entries ∧
      Stopped env holds token cause := by
  rw [clearAccess, Action.perform_tryCatch, Action.perform_onState]
  cases deleted : (env.store.delete (Store.accessKey kind)).perform world.state with
  | mk result state =>
    have ended : ((env.store.delete (Store.accessKey kind)).perform world.state).1 = result := by
      rw [deleted]
    cases result with
    | ok value =>
      have removed := spares.store.removed held ended
      rw [deleted] at removed
      exact .inl ⟨_, rfl, removed, .one entries _⟩
    | error cause =>
      have kept := spares.store.unremoved held ended
      rw [deleted] at kept
      have stopped (counts : ∀ rejected, cause ≠ .invalidKey rejected) :
          Stopped env holds token cause :=
        ⟨_, _, _, leftBehind_iff.2 (.inl ⟨kind, mem, rfl⟩), held, ended,
          fun _ rejected _ => counts rejected⟩
      cases cause with
      | invalidKey rejected =>
        exact .inl ⟨entries, rfl, kept, .rejected ⟨_, _, rejected, held, rfl, ended⟩⟩
      | file | malformed | unexpected => exact .inr ⟨_, rfl, kept, stopped fun _ => nofun⟩

/-- The access records are removed one after another, up to the first failure. -/
theorem perform_clearAll (spares : env.Spares holds) {kinds : List String}
    (mem : ∀ kind ∈ kinds, kind ∈ accessTypes env.processors token)
    (held : holds world.state entries) {result : Except StoreError PUnit}
    (performed : (kinds.forM (clearAccess env)).perform world = (result, after)) :
    ∃ left, holds after.state left ∧
      (result = .ok () → env.store.Removes holds
        (fun key => ∃ kind ∈ kinds, key = Store.accessKey kind) entries left) ∧
      ∀ cause, result = .error cause →
        (∀ key, (∀ kind, key ≠ Store.accessKey kind) → left key = entries key) ∧
        Stopped env holds token cause := by
  -- The first failure ends the loop, and until then nothing but access records was removed.
  induction kinds generalizing world entries with
  | nil =>
    obtain ⟨rfl, rfl⟩ := Prod.mk.inj performed
    refine ⟨entries, held, fun _ => ?_, nofun⟩
    simpa using Store.Removes.nothing entries
  | cons kind rest ih =>
    obtain ⟨first, later⟩ := List.forall_mem_cons.1 mem
    change (clearAccess env kind >>= fun _ => rest.forM (clearAccess env)).perform world = _
      at performed
    rw [Action.perform_bind] at performed
    rcases perform_clearAccess spares first held with
      ⟨between, ended, shown, removes⟩ | ⟨cause, ended, shown, stopped⟩
    · rw [← Prod.eta ((clearAccess env kind).perform world), ended] at performed
      obtain ⟨left, heldAfter, removed, failed⟩ := ih later shown performed
      refine ⟨left, heldAfter, fun done => ?_, fun cause failure => ?_⟩
      · simpa using removes.trans (removed done)
      · obtain ⟨kept, stopped⟩ := failed cause failure
        refine ⟨fun key other => ?_, stopped⟩
        rw [kept key other, removes.others key (other kind)]
    · rw [← Prod.eta ((clearAccess env kind).perform world), ended] at performed
      obtain ⟨rfl, rfl⟩ := Prod.mk.inj performed
      refine ⟨entries, shown, nofun, fun other same => ⟨fun _ _ => rfl, ?_⟩⟩
      exact Except.error.inj same ▸ stopped

/-- What an attachment leaves behind is removed, the token last, up to the first failure. The id is
gone before the token only if it is the token that cannot be removed. -/
theorem perform_clear (spares : env.Spares holds) (held : holds world.state entries)
    {result : Except StoreError Unit}
    (performed : (clear env token).perform world = (result, after)) :
    ∃ left, holds after.state left ∧
      (result = .ok () → env.store.Removes holds (LeftBehind env.processors token) entries left ∧
        left Store.tokenKey = none ∧ left Store.machineIdKey = none) ∧
      ∀ cause, result = .error cause →
        left Store.tokenKey = entries Store.tokenKey ∧ Stopped env holds token cause ∧
        (left Store.machineIdKey = entries Store.machineIdKey ∨
          ∃ state entries, holds state entries ∧
            ((env.store.delete Store.tokenKey).perform state).1 = .error cause) := by
  -- No access record goes under one of the two keys that are removed after them.
  have tokenSpared (kind : String) := (Store.accessKey_ne_tokenKey kind).symm
  have idSpared (kind : String) := (Store.accessKey_ne_machineIdKey kind).symm
  rw [clear, Action.perform_bind] at performed
  cases cleared : ((accessTypes env.processors token).forM (clearAccess env)).perform world with
  | mk records between =>
  obtain ⟨first, heldBetween, removed, failed⟩ :=
    perform_clearAll spares (fun _ mem => mem) held cleared
  rw [cleared] at performed
  cases records with
  | error cause =>
    obtain ⟨rfl, rfl⟩ := Prod.mk.inj performed
    obtain ⟨kept, stopped⟩ := failed cause rfl
    refine ⟨first, heldBetween, nofun, fun other same => ⟨kept _ tokenSpared, ?_,
      .inl (kept _ idSpared)⟩⟩
    exact Except.error.inj same ▸ stopped
  | ok =>
    have records := removed rfl
    have tokenKept : first Store.tokenKey = entries Store.tokenKey :=
      records.others _ fun ⟨kind, _, same⟩ => tokenSpared kind same
    have idKept : first Store.machineIdKey = entries Store.machineIdKey :=
      records.others _ fun ⟨kind, _, same⟩ => idSpared kind same
    dsimp only at performed
    rw [Action.perform_bind, Action.perform_onState] at performed
    cases ended : ((env.store.delete Store.machineIdKey).perform between.state).1 with
    | error cause =>
      rw [ended] at performed
      obtain ⟨rfl, rfl⟩ := Prod.mk.inj performed
      refine ⟨first, spares.store.unremoved heldBetween ended, nofun, fun other same => ?_⟩
      obtain rfl := Except.error.inj same
      exact ⟨tokenKept, ⟨_, _, _, .machineId, heldBetween, ended,
        fun kind _ same => absurd same (idSpared kind)⟩, .inl idKept⟩
    | ok =>
      rw [ended] at performed
      have second := spares.store.removed heldBetween ended
      dsimp only at performed
      rw [Action.perform_onState] at performed
      obtain ⟨same, rfl⟩ := Prod.mk.inj performed
      cases result with
      | error cause =>
        refine ⟨_, spares.store.unremoved second same, nofun, fun other equal => ?_⟩
        obtain rfl := Except.error.inj equal
        refine ⟨?_, ⟨_, _, _, .token, second, same, fun kind _ equal =>
          absurd equal (tokenSpared kind)⟩, .inr ⟨_, _, second, same⟩⟩
        rw [Function.update_of_ne Store.tokenKey_ne_machineIdKey, tokenKept]
      | ok =>
        refine ⟨_, spares.store.removed second same, fun _ => ⟨?_, ?_, ?_⟩, nofun⟩
        · have all := (records.trans (.one _ Store.machineIdKey)).trans (.one _ Store.tokenKey)
          have same : LeftBehind env.processors token = fun key =>
              ((∃ kind ∈ accessTypes env.processors token, key = Store.accessKey kind) ∨
                key = Store.machineIdKey) ∨ key = Store.tokenKey := by
            funext key
            rw [eq_iff_iff, leftBehind_iff, or_assoc]
          exact same ▸ all
        · exact Function.update_self ..
        · rw [Function.update_of_ne Store.tokenKey_ne_machineIdKey.symm, Function.update_self]

/-! ### Detaching -/

/-- All that is done before anything is removed. The token that is left behind is given. -/
def takeOut (env : Environment σ) : Action (World σ) CommandError MachineToken := do
  let token ← attachedToken env
  let machineId ← env.machineId.failingAs fun cause => .client (.platform cause)
  let _ ← (Client.detach env token.secret token.contractId machineId).failingAs .client
  return token

/-- A detachment takes the machine out of its contract and then clears the cache. -/
theorem runDetach_eq (env : Environment σ) : runDetach env = takeOut env >>= fun token => do
    (clear env token).failingAs fun cause => .client (.store cause)
    Action.log (.detached token.contractId)
    return .told "This machine is now detached." := by
  simp only [takeOut, bind_assoc, pure_bind]
  rfl

/-- A machine that cannot be taken out of its contract is not detached. -/
theorem perform_detach_of_error {failure : CommandError}
    (taken : (takeOut env).perform world = (.error failure, after)) :
    (Command.detach.run env).perform world = (.error failure, after) := by
  rw [run, runDetach_eq, Action.perform_bind_of_error taken]

/-- The world after a detachment was logged. -/
def reported (contractId : String) (world : World σ) : World σ :=
  { world with journal := world.journal ++ [.logged (.detached contractId)] }

/-- Once a machine was taken out of its contract, it is detached if all can be removed. -/
theorem perform_detach_of_ok (taken : (takeOut env).perform world = (.ok token, after)) :
    (Command.detach.run env).perform world =
      match (clear env token).perform after with
      | (.ok (), last) => (.ok (.told "This machine is now detached."),
          reported token.contractId last)
      | (.error cause, last) => (.error (.client (.store cause)), last) := by
  rw [run, runDetach_eq, Action.perform_bind_of_ok taken, Action.perform_bind,
    Action.perform_failingAs]
  rcases (clear env token).perform after with ⟨_ | _, last⟩ <;> rfl

/-- To take the machine out of its contract keeps the entries. -/
theorem keeps_takeOut (spares : env.Spares holds) (entries : Store.Entries) :
    (takeOut env).Keeps fun state => holds state entries := by
  have undisturbed := spares.undisturbed entries
  refine .bind (keeps_attachedToken undisturbed) fun token => ?_
  refine .bind (.failingAs undisturbed.machineId _) fun machineId => ?_
  exact .bind (.failingAs (Client.keeps_detach undisturbed _ _ _) _) fun _ => .pure _

/-- A token that is found is the one that is held. -/
theorem stored_of_machineToken (spares : env.Spares holds) (held : holds world.state entries)
    (performed : env.machineToken.perform world = (.ok (some token), after)) :
    ∃ value, entries Store.tokenKey = some value ∧ MachineToken.decode value = .ok token := by
  obtain ⟨found, between, read, given⟩ := Action.of_perform_bind_ok performed
  have same := spares.store.found held (congrArg Prod.fst read)
  cases found with
  | none => cases given
  | some value =>
    obtain ⟨decoded, _, decodes, returned⟩ := Action.of_perform_bind_ok given
    obtain rfl : decoded = token := Option.some.inj (Except.ok.inj (congrArg Prod.fst returned))
    exact ⟨value, same.symm, congrArg Prod.fst (Action.of_perform_failingAs_ok decodes)⟩

/-- The token that a detachment works with is the one that is held, and it has a secret. -/
theorem stored_of_takeOut (spares : env.Spares holds) (held : holds world.state entries)
    (performed : (takeOut env).perform world = (.ok token, after)) :
    ∃ value, entries Store.tokenKey = some value ∧ MachineToken.decode value = .ok token ∧
      token.secret ≠ "" := by
  obtain ⟨current, between, gated, rest⟩ := Action.of_perform_bind_ok performed
  obtain ⟨_, _, _, rest⟩ := Action.of_perform_bind_ok rest
  obtain ⟨_, _, _, returned⟩ := Action.of_perform_bind_ok rest
  obtain rfl : current = token := Except.ok.inj (congrArg Prod.fst returned)
  obtain ⟨stored, _, read, chosen⟩ := Action.of_perform_bind_ok gated
  cases filtered : stored.filter MachineToken.isAttached with
  | none =>
    rw [filtered] at chosen
    cases congrArg Prod.fst chosen
  | some other =>
    rw [filtered] at chosen
    obtain rfl : other = current := Except.ok.inj (congrArg Prod.fst chosen)
    obtain ⟨rfl, secret⟩ := Option.filter_eq_some_iff.1 filtered
    obtain ⟨value, there, decoded⟩ :=
      stored_of_machineToken spares held (Action.of_perform_failingAs_ok read)
    exact ⟨value, there, decoded, by simpa [MachineToken.isAttached] using secret⟩

/-- **A failed detachment can be repeated, and one that succeeds removes all that was left behind.**
The store may fail at any time, as long as it spares its entries; neither the server nor the host is
restricted. Whatever the detachment fails of, the token stays. If it fails before anything is
removed, all entries stay. After that it fails only of an entry that the store cannot remove, and an
access record whose key is rejected is none of these. If it succeeds, the entries that an attachment
leaves behind are gone, but for any whose key is rejected, and all others are as they were. -/
theorem detach_keeps_token_or_clears (spares : env.Spares holds)
    (held : holds world.state entries) {result : Except CommandError Report}
    (ran : (Command.detach.run env).perform world = (result, after)) :
    (∀ failure, result = .error failure →
      ∃ left, holds after.state left ∧ left Store.tokenKey = entries Store.tokenKey) ∧
    (∀ failure, ((takeOut env).perform world).1 = .error failure →
      result = .error failure ∧ holds after.state entries) ∧
    (∀ token failure, ((takeOut env).perform world).1 = .ok token → result = .error failure →
      ∃ cause, failure = .client (.store cause) ∧ Stopped env holds token cause) ∧
    ∀ report, result = .ok report → ∃ value token left, entries Store.tokenKey = some value ∧
      MachineToken.decode value = .ok token ∧ token.secret ≠ "" ∧ holds after.state left ∧
      env.store.Removes holds (LeftBehind env.processors token) entries left ∧
      left Store.tokenKey = none ∧ left Store.machineIdKey = none ∧
      ((∀ key, env.store.Rejects holds key (entries key) → entries key = none) →
        ∀ key, LeftBehind env.processors token key → left key = none) := by
  have kept := keeps_takeOut spares entries world held
  -- Nothing is removed before the token is taken out, and nothing but entries after that.
  cases taken : (takeOut env).perform world with | mk first between =>
  rw [taken] at kept
  cases first with
  | error cause =>
    obtain ⟨rfl, rfl⟩ := Prod.mk.inj ((perform_detach_of_error taken).symm.trans ran)
    refine ⟨fun _ _ => ⟨entries, kept, rfl⟩, fun failure same => ?_, ?_, ?_⟩
    · exact ⟨congrArg Except.error (Except.error.inj same), kept⟩
    · rintro token failure ⟨⟩
    · rintro report ⟨⟩
  | ok token =>
    cases cleared : (clear env token).perform between with | mk removal last =>
    obtain ⟨left, heldAfter, removed, stopped⟩ := perform_clear spares kept cleared
    rw [perform_detach_of_ok taken, cleared] at ran
    cases removal with
    | error cause =>
      obtain ⟨rfl, rfl⟩ := Prod.mk.inj ran
      obtain ⟨same, stopped, -⟩ := stopped cause rfl
      refine ⟨fun _ _ => ⟨left, heldAfter, same⟩, ?_, fun other failure equal failed => ?_, ?_⟩
      · rintro failure ⟨⟩
      · obtain rfl := Except.ok.inj equal
        exact ⟨cause, (Except.error.inj failed).symm, stopped⟩
      · rintro report ⟨⟩
    | ok =>
      obtain ⟨rfl, rfl⟩ := Prod.mk.inj ran
      obtain ⟨removes, token_gone, machineId_gone⟩ := removed rfl
      obtain ⟨value, there, decoded, secret⟩ := stored_of_takeOut spares held taken
      refine ⟨?_, ?_, ?_, fun _ _ => ⟨value, token, left, there, decoded, secret, heldAfter,
        removes, token_gone, machineId_gone, fun allowed key mem => ?_⟩⟩
      · rintro failure ⟨⟩
      · rintro failure ⟨⟩
      · rintro token failure _ ⟨⟩
      · rcases removes.gone key mem with gone | ⟨rejected, same⟩
        · exact gone
        · exact same.trans (allowed key rejected)

/-- A store in memory that fails to remove the machine id. -/
def stuckStore : Store (Keyed Json) :=
  { Store.memory with
    delete := fun key =>
      if key = Store.machineIdKey then
        Action.ofStep fun entries => (.error (.file .isDirectory), entries)
      else Store.memory.delete key }

theorem spares_stuckStore : stuckStore.Spares fun state entries => state.get? = entries where
  read _ h := h
  found h read := Store.works_memory.found h read
  removed {state entries key} h removed := by
    by_cases same : key = Store.machineIdKey
    · simp only [stuckStore, if_pos same] at removed
      cases removed
    · simp only [stuckStore, if_neg same] at removed ⊢
      exact Store.works_memory.removed h removed
  unremoved {state entries key cause} h failed := by
    by_cases same : key = Store.machineIdKey
    · simp only [stuckStore, if_pos same]
      exact h
    · simp only [stuckStore, if_neg same] at failed
      cases failed

/-- With such a store a detachment fails midway: an access record is gone, the token is there. -/
theorem detach_keeps_token_or_clears_stuck :
    let env : Environment (Keyed Json) := { Update.busyLivepatch with store := stuckStore }
    let token := Update.livepatchToken "stable" []
    let world : World (Keyed Json) := { state := [(Store.accessKey "livepatch", .null),
      (Store.machineIdKey, .string "machine"), (Store.tokenKey, token)] }
    let ended := (Command.detach.run env).perform world
    (env.Spares fun state entries => state.get? = entries) ∧
    ended.1.isOk = false ∧ ended.2.journal.requests.length = 1 ∧
    ended.2.state.get? (Store.accessKey "livepatch") = none ∧
    ended.2.state.get? Store.tokenKey = some token := by
  intro env token world ended
  have spares : env.Spares fun state entries => state.get? = entries := ⟨spares_stuckStore, id⟩
  have failed : ended.1.isOk = false := by decide +kernel
  have gone : (ended.2.state.get? (Store.accessKey "livepatch")).isNone = true := by decide +kernel
  obtain ⟨kept, -⟩ := detach_keeps_token_or_clears spares rfl (Prod.eta ended).symm
  refine ⟨spares, failed, by decide +kernel, Option.isNone_iff_eq_none.1 gone, ?_⟩
  cases result : ended.1 with
  | ok report =>
    rw [result] at failed
    cases failed
  | error cause =>
    obtain ⟨left, rfl, same⟩ := kept cause result
    exact same

end Command

end Subscription
