import Subscription.Command.Run
import Subscription.Proofs.Update.Replacement

/-!
# Commands and whether the machine is attached

Whether a machine is attached is asked in three places: by whoever wants to know, by an update, and
by the commands that are about the stored token. All three look at the same entry, and nothing is
done before it was looked at. So a command that does not fit the machine (`Command.Misplaced`) ends
in the world that it began in, with the exit code of a misuse, and no other command ends with that
code (`exit_code_of_attachment`). This holds for any store that can be read without being changed;
what else of it fails shows in the code of a failure only.
-/

namespace Subscription

variable {σ : Type}

/-! ### The stored token -/

/-- To look at an entry leaves the state as it is. -/
def Store.ReadsOnly (store : Store σ) : Prop :=
  ∀ key state, ((store.read key).perform state).2 = state

theorem Store.readsOnly_memory : Store.memory.ReadsOnly := fun _ _ => rfl

theorem Store.readsOnly_files (dir : Path) : (Store.files dir).ReadsOnly := fun _ _ => rfl

namespace Environment

/-- The machine token that is found in a state, if there is one. -/
def storedToken (env : Environment σ) (state : σ) : Except StoreError (Option MachineToken) :=
  match ((env.store.read Store.tokenKey).perform state).1 with
  | .error cause => .error cause
  | .ok none => .ok none
  | .ok (some value) => ((MachineToken.decode value).mapError .unexpected).map some

variable {env : Environment σ} {world : World σ} {stored : Option MachineToken}

/-- To look for the stored token changes nothing. -/
theorem perform_machineToken (reads : env.store.ReadsOnly) (world : World σ) :
    env.machineToken.perform world = (env.storedToken world.state, world) := by
  have read : (env.store.read Store.tokenKey).onState.perform world =
      (((env.store.read Store.tokenKey).perform world.state).1, world) := by
    rw [Action.perform_onState, reads]
  rw [machineToken, Action.perform_bind, read, storedToken]
  rcases ((env.store.read Store.tokenKey).perform world.state).1 with cause | _ | value
  · rfl
  · rfl
  · dsimp only
    rw [Action.perform_bind, Action.perform_failingAs, Action.perform_ofExcept]
    cases MachineToken.decode value <;> rfl

theorem perform_isAttached (reads : env.store.ReadsOnly)
    (found : env.storedToken world.state = .ok stored) :
    env.isAttached.perform world = (.ok (stored.any MachineToken.isAttached), world) := by
  have read := perform_machineToken reads world
  rw [found] at read
  rw [isAttached, Action.perform_bind_of_ok read]
  rfl

end Environment

/-- The stored token belongs to a machine that is attached: it has a secret. -/
def Attached (stored : Option MachineToken) : Prop :=
  ∃ token, stored = some token ∧ token.secret ≠ ""

theorem any_isAttached_iff {stored : Option MachineToken} :
    stored.any MachineToken.isAttached = true ↔ Attached stored := by
  cases stored <;> simp [Attached, MachineToken.isAttached]

/-- A machine is attached if a stored token passes the test of its secret. -/
theorem attached_iff_filter_eq_some {stored : Option MachineToken} :
    Attached stored ↔ ∃ token, stored.filter MachineToken.isAttached = some token := by
  cases stored <;> simp [Attached, MachineToken.isAttached, Option.filter_some]

theorem not_attached_iff_filter_eq_none {stored : Option MachineToken} :
    ¬Attached stored ↔ stored.filter MachineToken.isAttached = none := by
  cases stored <;> simp [Attached, MachineToken.isAttached, Option.filter_some]

/-- Entries that are kept in memory can be read without being changed. -/
theorem Environment.InMemory.readsOnly {env : Environment (Keyed Json)} (h : env.InMemory) :
    env.store.ReadsOnly := by
  rw [h.store_eq]
  exact Store.readsOnly_memory

theorem Environment.InMemory.storedToken_eq {env : Environment (Keyed Json)} (h : env.InMemory)
    (entries : Keyed Json) :
    env.storedToken entries = (Update.storedToken entries).mapError .unexpected := by
  have read : ((Store.memory.read Store.tokenKey).perform entries).1 =
      .ok (entries.get? Store.tokenKey) := rfl
  rw [storedToken, h.store_eq, read, Update.storedToken]
  cases entries.get? Store.tokenKey with
  | none => rfl
  | some value =>
    dsimp only
    cases MachineToken.decode value <;> rfl

theorem Environment.InMemory.perform_isAttached {env : Environment (Keyed Json)} (h : env.InMemory)
    {world : World (Keyed Json)} {token : MachineToken}
    (stored : Update.storedToken world.state = .ok (some token)) :
    env.isAttached.perform world = (.ok token.isAttached, world) := by
  have found := h.storedToken_eq world.state
  rw [stored] at found
  exact Environment.perform_isAttached h.readsOnly found

/-! ### Updates -/

namespace Update

variable {env : Environment σ} {world : World σ} {stored : Option MachineToken}
  {contractToken : Option String}

/-- What an update does with the machine token that it was given. -/
def serve (env : Environment σ) (attached : Option MachineToken) (body : Json) :
    Action (World σ) UpdateError Unit := do
  let updated ← (Action.ofExcept (MachineToken.decode body)).failingAs fun mismatch =>
    .ofClient (.invalidResponse mismatch)
  let outcomes ← applyEntitlements env attached updated
  (Action.ofExcept (Outcome.summary outcomes)).failingAs .failed
  Action.log (.updated updated.contractId outcomes.length)

/-- An update looks at the stored token first, and fails with it. -/
theorem perform_run_unreadable (reads : env.store.ReadsOnly) {cause : StoreError}
    (found : env.storedToken world.state = .error cause) (contractToken : Option String) :
    (run env contractToken).perform world = (.error (.ofClient (.store cause)), world) := by
  have read := Environment.perform_machineToken reads world
  rw [found] at read
  rw [run, Action.perform_bind_of_error (Action.perform_failingAs_of_error read _)]

/-- An update looks at the stored token once, then fetches and serves. -/
theorem perform_run (reads : env.store.ReadsOnly) (found : env.storedToken world.state = .ok stored)
    (contractToken : Option String) :
    (run env contractToken).perform world =
      (fetch env (stored.filter MachineToken.isAttached) contractToken >>=
        serve env (stored.filter MachineToken.isAttached)).perform world := by
  have read := Environment.perform_machineToken reads world
  rw [found] at read
  rw [run, Action.perform_bind_of_ok (Action.perform_failingAs_of_ok read _)]
  rfl

/-- The failure is no misuse. -/
def NoMisuse (failure : UpdateError) : Prop := ∃ notice, failure = .failed notice

/-- A call that does not fit the machine is noticed as soon as the token was looked at. -/
theorem perform_run_misused (reads : env.store.ReadsOnly)
    (found : env.storedToken world.state = .ok stored) {cause : Misuse}
    (chosen : exchangeFor (stored.filter MachineToken.isAttached) contractToken = .error cause) :
    (run env contractToken).perform world = (.error (.misuse cause), world) := by
  have fetched :=
    perform_fetch env (stored.filter MachineToken.isAttached) contractToken world
  rw [chosen] at fetched
  rw [perform_run reads found, Action.perform_bind_of_error fetched]

theorem failsWith_fetch {attached : Option MachineToken} {exchange : TokenExchange}
    (chosen : exchangeFor attached contractToken = .ok exchange) :
    (fetch env attached contractToken).FailsWith NoMisuse := by
  cases attached <;> cases contractToken
  case none.none | some.some => cases chosen
  all_goals exact .failingAs fun cause => ⟨cause.notice, rfl⟩

/-- A call that fits the machine does not end in a misuse. -/
theorem noMisuse_of_run (reads : env.store.ReadsOnly)
    (found : env.storedToken world.state = .ok stored) {exchange : TokenExchange}
    (chosen : exchangeFor (stored.filter MachineToken.isAttached) contractToken = .ok exchange)
    {failure : UpdateError}
    (failed : ((run env contractToken).perform world).1 = .error failure) : NoMisuse failure := by
  rw [perform_run reads found] at failed
  refine Action.FailsWith.bind (failsWith_fetch chosen) (fun body => ?_) world failure failed
  refine .bind (.failingAs fun mismatch => ⟨_, rfl⟩) fun updated => ?_
  refine .bind (.lift _) fun outcomes => ?_
  exact .bind (.failingAs fun notice => ⟨notice, rfl⟩) fun _ => .log _

/-- An update with a contract token is refused exactly on an attached machine. -/
theorem alreadyAttached_iff (reads : env.store.ReadsOnly)
    (found : env.storedToken world.state = .ok stored) (token : String) :
    ((run env (some token)).perform world).1 = .error (.misuse .alreadyAttached) ↔
      Attached stored := by
  constructor
  · intro refused
    by_contra detached
    rw [not_attached_iff_filter_eq_none] at detached
    obtain ⟨notice, same⟩ := noMisuse_of_run reads found (by rw [detached]; rfl) refused
    cases same
  · intro attached
    obtain ⟨current, kept⟩ := attached_iff_filter_eq_some.1 attached
    rw [perform_run_misused reads found (by rw [kept]; rfl)]

/-- An update without a contract token is refused exactly on a machine that is not attached. -/
theorem notAttached_iff (reads : env.store.ReadsOnly)
    (found : env.storedToken world.state = .ok stored) :
    ((run env none).perform world).1 = .error (.misuse .notAttached) ↔ ¬Attached stored := by
  constructor
  · intro refused attached
    obtain ⟨current, kept⟩ := attached_iff_filter_eq_some.1 attached
    obtain ⟨notice, same⟩ := noMisuse_of_run reads found (by rw [kept]; rfl) refused
    cases same
  · intro detached
    rw [not_attached_iff_filter_eq_none] at detached
    rw [perform_run_misused reads found (by rw [detached]; rfl)]

end Update

/-! ### The list of resources -/

/-- The request that lists all resources. -/
def Request.listing : Request where
  method := .get
  path := Request.resourcesRoute
  headers := Request.headersFor none
  data := none

namespace Client

variable {env : Environment σ} {world : World σ}

theorem resources_eq (env : Environment σ) :
    resources env = (env.send Request.listing).failingAs ApiError.ofNetwork >>= fun response =>
      match response.body.member? "resources" with
      | some (.array resources) => pure resources
      | _ => pure [] := rfl

theorem resources_of_error {cause : NetworkError}
    (answer : (env.server world.journal Request.listing).2 = .error cause) :
    ((resources env).perform world).1 = .error (.ofNetwork cause) := by
  have sent := Environment.perform_send env Request.listing world
  rw [answer] at sent
  rw [resources_eq, Action.perform_bind_of_error (Action.perform_failingAs_of_error sent _)]

/-- Whatever the server answers, a listing is made of it: an answer without one counts as empty. -/
theorem resources_of_ok {response : Response}
    (answer : (env.server world.journal Request.listing).2 = .ok response) :
    ∃ listed, ((resources env).perform world).1 = .ok listed := by
  have sent := Environment.perform_send env Request.listing world
  rw [answer] at sent
  rw [resources_eq, Action.perform_bind_of_ok (Action.perform_failingAs_of_ok sent _)]
  split <;> exact ⟨_, rfl⟩

end Client

/-! ### Commands -/

namespace Command

variable {env : Environment σ} {world : World σ} {stored : Option MachineToken}

/-- The command does not fit the machine: an attached one is not attached again, and one that is
not attached has nothing to be refreshed, detached or asked for. -/
def Misplaced (attached : Prop) : Command → Prop
  | .attach _ => attached
  | .refresh | .detach | .access _ => ¬attached
  | .resources => False

/-- The detach and the access commands take the stored token or say that there is none. -/
theorem perform_attachedToken (reads : env.store.ReadsOnly)
    (found : env.storedToken world.state = .ok stored) :
    (attachedToken env).perform world =
      ((stored.filter MachineToken.isAttached).elim (.error .notAttached) .ok, world) := by
  have read := Environment.perform_machineToken reads world
  rw [found] at read
  rw [attachedToken, Action.perform_bind_of_ok (Action.perform_failingAs_of_ok read _)]
  cases stored.filter MachineToken.isAttached <;> rfl

/-- What becomes of the command if it does not fit the machine. -/
def misplacement : Command → CommandError
  | .attach _ => .update (.misuse .alreadyAttached)
  | .refresh => .update (.misuse .notAttached)
  | .detach | .access _ | .resources => .notAttached

/-- An attachment in the wrong place has code 2 for every command. -/
theorem code_misplacement (command : Command) : command.misplacement.code = 2 := by
  cases command <;> rfl

/-- A command that does not fit the machine ends where it began. -/
theorem perform_misplaced (reads : env.store.ReadsOnly)
    (found : env.storedToken world.state = .ok stored) {command : Command}
    (misplaced : command.Misplaced (Attached stored)) :
    (command.run env).perform world = (.error command.misplacement, world) := by
  have gated := perform_attachedToken reads found
  -- An update finds out by itself, the other commands when they look for a token to use.
  cases command with
  | attach token =>
    obtain ⟨current, kept⟩ := attached_iff_filter_eq_some.1 misplaced
    have refused : (Update.run env (some token)).perform world =
        (.error (.misuse .alreadyAttached), world) :=
      Update.perform_run_misused reads found (by rw [kept]; rfl)
    rw [run, runAttach, Action.perform_bind_of_error (Action.perform_failingAs_of_error refused _)]
    rfl
  | refresh =>
    have refused : (Update.run env none).perform world =
        (.error (.misuse .notAttached), world) :=
      Update.perform_run_misused reads found
        (by rw [not_attached_iff_filter_eq_none.1 misplaced]; rfl)
    rw [run, runRefresh, Action.perform_bind_of_error (Action.perform_failingAs_of_error refused _)]
    rfl
  | detach =>
    rw [not_attached_iff_filter_eq_none.1 misplaced] at gated
    rw [run, runDetach, Action.perform_bind_of_error gated]
    rfl
  | access resource =>
    rw [not_attached_iff_filter_eq_none.1 misplaced] at gated
    rw [run, runAccess, Action.perform_bind_of_error gated]
    rfl
  | resources => cases misplaced

/-- The failure is of the usual kind. -/
def Usual (failure : CommandError) : Prop := failure.code = 1

theorem failsWith_detached (env : Environment σ) (token : MachineToken) :
    (do
      let machineId ← env.machineId.failingAs fun cause => .client (.platform cause)
      let _ ← (Client.detach env token.secret token.contractId machineId).failingAs .client
      (clear env token).failingAs fun cause => .client (.store cause)
      Action.log (.detached token.contractId)
      return .told "This machine is now detached." :
        Action (World σ) CommandError Report).FailsWith Usual := by
  refine .bind (.failingAs fun cause => rfl) fun machineId => ?_
  refine .bind (.failingAs fun cause => rfl) fun _ => ?_
  refine .bind (.failingAs fun cause => rfl) fun _ => ?_
  exact .bind (.log _) fun _ => .pure _

/-- An update that fits the machine fails in the usual way. -/
theorem failsWith_updated (reads : env.store.ReadsOnly)
    (found : env.storedToken world.state = .ok stored) {contractToken : Option String}
    {exchange : TokenExchange}
    (chosen : Update.exchangeFor (stored.filter MachineToken.isAttached) contractToken =
      .ok exchange) {report : Report} {failure : CommandError}
    (failed : (((Update.run env contractToken).failingAs .update >>= fun _ =>
      (pure report : Action (World σ) CommandError Report)).perform world).1 = .error failure) :
    Usual failure := by
  rw [Action.perform_bind, Action.perform_failingAs] at failed
  cases ran : ((Update.run env contractToken).perform world).1 with
  | ok value =>
    rw [ran] at failed
    cases failed
  | error cause =>
    rw [ran] at failed
    obtain ⟨notice, rfl⟩ := Update.noMisuse_of_run reads found chosen ran
    obtain rfl := Except.error.inj failed
    rfl

/-- A command that fits the machine fails in the usual way, or for the want of resources. -/
theorem code_of_fitting (reads : env.store.ReadsOnly)
    (found : env.storedToken world.state = .ok stored) {command : Command}
    (fits : ¬command.Misplaced (Attached stored)) {failure : CommandError}
    (failed : ((command.run env).perform world).1 = .error failure) :
    failure.code = if command = .resources then 3 else 1 := by
  have gated := perform_attachedToken reads found
  -- A command that fits gets past its gate, so it fails of something behind that.
  cases command with
  | attach token =>
    rw [Misplaced, not_attached_iff_filter_eq_none] at fits
    rw [if_neg (by simp)]
    rw [run, runAttach] at failed
    exact failsWith_updated reads found (by rw [fits]; rfl) failed
  | refresh =>
    obtain ⟨current, kept⟩ := attached_iff_filter_eq_some.1 (not_not.1 fits)
    rw [if_neg (by simp)]
    rw [run, runRefresh] at failed
    exact failsWith_updated reads found (by rw [kept]; rfl) failed
  | detach =>
    obtain ⟨current, kept⟩ := attached_iff_filter_eq_some.1 (not_not.1 fits)
    rw [kept] at gated
    rw [if_neg (by simp)]
    rw [run, runDetach, Action.perform_bind_of_ok gated] at failed
    exact failsWith_detached env current world failure failed
  | access resource =>
    obtain ⟨current, kept⟩ := attached_iff_filter_eq_some.1 (not_not.1 fits)
    rw [kept] at gated
    rw [if_neg (by simp)]
    rw [run, runAccess, Action.perform_bind_of_ok gated] at failed
    have usual : Action.FailsWith Usual (do
        let value ← (Client.access env current.secret resource).failingAs .client
        return .shown value : Action (World σ) CommandError Report) :=
      .bind (.failingAs fun cause => rfl) fun value => .pure _
    exact usual world failure failed
  | resources =>
    rw [if_pos rfl]
    have unlisted : Action.FailsWith (fun failure => failure.code = 3) (runResources env) :=
      .bind (.failingAs fun cause => rfl) fun resources => .pure _
    exact unlisted world failure failed

/-- The resources are listed exactly if the request for them is answered. -/
theorem runResources_fails_iff (env : Environment σ) (world : World σ) :
    (∃ failure, ((runResources env).perform world).1 = .error failure) ↔
      ∃ cause, (env.server world.journal Request.listing).2 = .error cause := by
  rw [runResources, Action.perform_bind, Action.perform_failingAs]
  cases answer : (env.server world.journal Request.listing).2 with
  | error cause =>
    rw [Client.resources_of_error answer]
    exact iff_of_true ⟨_, rfl⟩ ⟨cause, rfl⟩
  | ok response =>
    obtain ⟨listed, found⟩ := Client.resources_of_ok answer
    rw [found]
    refine iff_of_false ?_ ?_ <;>
    · rintro ⟨failure, failed⟩
      cases failed

/-- What all who ask are told about whether the machine is attached. -/
structure AgreeOn (env : Environment σ) (world : World σ) (attached : Prop) : Prop where
  /-- Whoever wants to know. -/
  asked : ∃ verdict, env.isAttached.perform world = (.ok verdict, world) ∧
    (verdict = true ↔ attached)
  /-- The commands that are about the stored token. -/
  held : (∃ token, (attachedToken env).perform world = (.ok token, world)) ↔ attached
  unheld : (attachedToken env).perform world = (.error .notAttached, world) ↔ ¬attached
  /-- An update with a contract token. -/
  attachedAgain : ∀ token, ((Update.run env (some token)).perform world).1 =
    .error (.misuse .alreadyAttached) ↔ attached
  /-- An update without one. -/
  refreshed : ((Update.run env none).perform world).1 = .error (.misuse .notAttached) ↔ ¬attached

/-- All who ask are told the same about whether the machine is attached. -/
theorem agreeOn_attached (reads : env.store.ReadsOnly)
    (found : env.storedToken world.state = .ok stored) : AgreeOn env world (Attached stored) where
  asked := ⟨_, Environment.perform_isAttached reads found, any_isAttached_iff⟩
  held := by
    rw [perform_attachedToken reads found, attached_iff_filter_eq_some]
    cases stored.filter MachineToken.isAttached <;> simp
  unheld := by
    rw [perform_attachedToken reads found, not_attached_iff_filter_eq_none]
    cases stored.filter MachineToken.isAttached <;> simp
  attachedAgain := Update.alreadyAttached_iff reads found
  refreshed := Update.notAttached_iff reads found

/-- **Attachment gates every command**. Where the token is absent or can be decoded, the exit code
is 2 exactly for a command that does not fit the machine. It leaves the world as it was, so nothing
was sent and no entry was changed. The exit code is 3 exactly for the list of resources when the
request for it fails. Every other failure has the exit code 1, whatever fails, and all who ask
whether the machine is attached are told the same. -/
theorem exit_code_of_attachment (reads : env.store.ReadsOnly)
    (found : env.storedToken world.state = .ok stored) {command : Command}
    {result : Except CommandError Report} {after : World σ}
    (ran : (command.run env).perform world = (result, after)) :
    ((Program.finished result).code = 2 ↔ command.Misplaced (Attached stored)) ∧
    (command.Misplaced (Attached stored) → after = world) ∧
    ((Program.finished result).code = 3 ↔ command = .resources ∧
      ∃ cause, (env.server world.journal Request.listing).2 = .error cause) ∧
    (∀ failure, result = .error failure → (Program.finished result).code ≠ 2 →
      (Program.finished result).code ≠ 3 → (Program.finished result).code = 1) ∧
    ((Program.finished result).code = 0 ↔ ∃ report, result = .ok report) ∧
    AgreeOn env world (Attached stored) := by
  have agree := agreeOn_attached reads found
  -- A misplaced command ends before it asks the server, so only one that fits can have code 3.
  by_cases misplaced : command.Misplaced (Attached stored)
  · obtain ⟨rfl, rfl⟩ := Prod.mk.inj (ran.symm.trans (perform_misplaced reads found misplaced))
    have finished : (Program.finished (.error command.misplacement)).code = 2 :=
      code_misplacement command
    refine ⟨iff_of_true finished misplaced, fun _ => rfl, iff_of_false (by simp [finished]) ?_,
      fun _ _ other => absurd finished other, by simp [finished], agree⟩
    rintro ⟨rfl, -⟩
    exact misplaced
  · have unlisted := runResources_fails_iff env world
    cases result with
    | error failure =>
      have code := code_of_fitting reads found misplaced (congrArg Prod.fst ran)
      have finished : (Program.finished (.error failure)).code = failure.code := rfl
      rw [finished, code]
      by_cases same : command = .resources
      · subst same
        have failed := unlisted.1 ⟨failure, congrArg Prod.fst ran⟩
        simp [misplaced, failed, agree]
      · simp [misplaced, same, agree]
    | ok report =>
      have finished : (Program.finished (.ok report)).code = 0 := by cases report <;> rfl
      rw [finished]
      refine ⟨by simp [misplaced], fun contrary => absurd contrary misplaced,
        iff_of_false (by decide) ?_, ?_, by simp, agree⟩
      · rintro ⟨rfl, failed⟩
        obtain ⟨failure, other⟩ := unlisted.2 failed
        cases (congrArg Prod.fst ran).symm.trans other
      · intro failure contrary
        cases contrary

/-- With a token that has no secret the machine is not attached, and cannot be detached. -/
theorem exit_code_of_attachment_bare :
    let world : World (Keyed Json) := { state := [(Store.tokenKey, Update.bareToken "")] }
    let contract : Contract := { id := "contract", entitlements := [] }
    let stored : MachineToken := { secret := "", info := { contract } }
    let ended := (Command.detach.run Update.busyLivepatch).perform world
    Update.busyLivepatch.store.ReadsOnly ∧
    Update.busyLivepatch.storedToken world.state = .ok (some stored) ∧
    Command.detach.Misplaced (Attached (some stored)) ∧
    (Program.finished ended.1).code = 2 ∧ ended.2 = world ∧
    AgreeOn Update.busyLivepatch world (Attached (some stored)) := by
  intro world contract stored ended
  have reads : Update.busyLivepatch.store.ReadsOnly := Store.readsOnly_memory
  have found : Update.busyLivepatch.storedToken world.state = .ok (some stored) := rfl
  have misplaced : Command.detach.Misplaced (Attached (some stored)) := by
    rintro ⟨token, ⟨⟩, secret⟩
    exact secret rfl
  have ran : (Command.detach.run Update.busyLivepatch).perform world = (ended.1, ended.2) := rfl
  obtain ⟨code, unchanged, -, -, -, agree⟩ := exit_code_of_attachment reads found ran
  exact ⟨reads, found, misplaced, code.2 misplaced, unchanged misplaced, agree⟩

end Command

end Subscription
