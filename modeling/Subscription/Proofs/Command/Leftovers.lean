import Mathlib.Data.List.Induction
import Subscription.Proofs.Command.Issued

/-!
# What a detachment leaves

The access record of a resource is kept for whatever resource it was asked for, and a detachment
removes the records of the types that are registered or that the token grants. So what is left after
it are access records of other resources (`Command.detach_leaves_records_of_others`). Each of them
can be traced to the turn that it was kept in, and no detachment after that one named its resource:
every turn keeps the entries traceable (`Turn.entries_after`), and hence so does every run
(`Command.traced_turns`).
-/

namespace Subscription

variable {σ : Type}

/-- The store does as it is told, to look at an entry leaves the state as it is, and to ask for the
machine id changes no entry. -/
structure Environment.Faithful (env : Environment σ) (holds : σ → Store.Entries → Prop) : Prop where
  store : env.store.Faithful holds
  reads : env.store.ReadsOnly
  machineId : ∀ {state entries}, holds state entries →
    holds (env.host.machineId state).2.1 entries

theorem Environment.Faithful.spares {env : Environment σ} {holds : σ → Store.Entries → Prop}
    (h : env.Faithful holds) : env.Spares holds := ⟨h.store.toSpares, h.machineId⟩

/-! ### What single commands do to the entries -/

namespace Command

variable {env : Environment σ} {holds : σ → Store.Entries → Prop} {entries : Store.Entries}
  {world after : World σ}

/-- The state holds these entries, but for those of the machine itself. -/
def KeepsRecords (holds : σ → Store.Entries → Prop) (entries : Store.Entries) (state : σ) : Prop :=
  ∃ left, holds state left ∧ ∀ key, ¬Store.IsOfMachine key → left key = entries key

/-- To read the store or to ask for the machine id touches no record. -/
theorem undisturbed_keepsRecords (faithful : env.Faithful holds) (entries : Store.Entries) :
    env.Undisturbed (KeepsRecords holds entries) where
  read key := .onState fun _ ⟨left, held, same⟩ => ⟨left, faithful.store.read key held, same⟩
  machineId _ := fun ⟨left, held, same⟩ => ⟨left, faithful.machineId held, same⟩

/-- A write of what belongs to the machine itself touches no record, and neither does one that
fails. -/
theorem keeps_write (faithful : env.Faithful holds) {key : String}
    (ofMachine : Store.IsOfMachine key) (value : Json) :
    (env.store.write key value).onState.Keeps (KeepsRecords holds entries) := by
  refine .onState fun state ⟨left, held, same⟩ => ?_
  cases written : ((env.store.write key value).perform state).1 with
  | error cause => exact ⟨left, faithful.store.unwritten held written, same⟩
  | ok =>
    obtain ⟨shown, heldAfter, -⟩ := faithful.store.written held written
    refine ⟨_, heldAfter, fun other different => ?_⟩
    have elsewhere : other ≠ key := fun here => different (here ▸ ofMachine)
    rw [Function.update_of_ne elsewhere, same other different]

/-- An update writes no other entries than those of the machine itself. -/
theorem keepsRecords_update (faithful : env.Faithful holds) (contractToken : Option String) :
    (Update.run env contractToken).Keeps (KeepsRecords holds entries) := by
  refine Update.keeps_run (undisturbed_keepsRecords faithful entries) (fun token id => ?_) _
  refine .bind (.failingAs (.ofExcept _) _) fun _ => ?_
  refine .bind (.failingAs (keeps_write faithful (.inl rfl) _) _) fun _ => ?_
  exact .failingAs (keeps_write faithful (.inr rfl) _) _

/-- The state holds some of these entries. -/
def Thinned (holds : σ → Store.Entries → Prop) (entries : Store.Entries) (state : σ) : Prop :=
  ∃ left, holds state left ∧ ∀ key, left key = none ∨ left key = entries key

/-- A deletion thins the entries out, or it fails and changes nothing. -/
theorem keeps_delete (faithful : env.Faithful holds) (key : String) :
    (env.store.delete key).onState.Keeps (Thinned holds entries) := by
  refine .onState fun state ⟨left, held, thinner⟩ => ?_
  cases removed : ((env.store.delete key).perform state).1 with
  | error cause => exact ⟨left, faithful.store.unremoved held removed, thinner⟩
  | ok =>
    refine ⟨_, faithful.store.removed held removed, fun other => ?_⟩
    by_cases here : other = key
    · rw [here, Function.update_self]
      exact .inl rfl
    · rw [Function.update_of_ne here]
      exact thinner other

/-- Whatever a detachment comes to, it only removes entries. -/
theorem thinned_runDetach (faithful : env.Faithful holds) :
    (runDetach env).Keeps (Thinned holds entries) := by
  have undisturbed : env.Undisturbed (Thinned holds entries) :=
    ⟨fun key => .onState fun _ ⟨left, held, same⟩ => ⟨left, faithful.store.read key held, same⟩,
      fun _ ⟨left, held, same⟩ => ⟨left, faithful.machineId held, same⟩⟩
  exact keeps_runDetach undisturbed (keeps_clear fun key => keeps_delete faithful key)

/-- No two resources share the key of their access records. -/
theorem accessKey_injective {resource other : String}
    (same : Store.accessKey resource = Store.accessKey other) : resource = other := by
  have letters := congrArg String.toList same
  rw [Store.accessKey, Store.accessKey, String.toList_append, String.toList_append] at letters
  exact String.toList_injective (List.append_cancel_left letters)

/-- Of the access records, those of the types that are registered or granted are left behind. -/
theorem leftBehind_accessKey {processors : Keyed Processor} {token : MachineToken}
    {resource : String} : LeftBehind processors token (Store.accessKey resource) ↔
      resource ∈ accessTypes processors token := by
  rw [leftBehind_iff]
  constructor
  · rintro (⟨kind, mem, same⟩ | same | same)
    · exact accessKey_injective same ▸ mem
    · exact absurd same (Store.accessKey_ne_machineIdKey resource)
    · exact absurd same (Store.accessKey_ne_tokenKey resource)
  · exact fun mem => .inl ⟨resource, mem, rfl⟩

/-- The token that a detachment works with is the one that was stored. -/
theorem storedToken_of_takeOut (reads : env.store.ReadsOnly) {token : MachineToken}
    (performed : (takeOut env).perform world = (.ok token, after)) :
    env.storedToken world.state = .ok (some token) ∧ token.secret ≠ "" := by
  obtain ⟨current, between, gated, rest⟩ := Action.of_perform_bind_ok performed
  obtain ⟨_, _, _, rest⟩ := Action.of_perform_bind_ok rest
  obtain ⟨_, _, _, returned⟩ := Action.of_perform_bind_ok rest
  obtain rfl : current = token := Except.ok.inj (congrArg Prod.fst returned)
  obtain ⟨found, secret, -⟩ := stored_of_attachedToken reads gated
  exact ⟨found, secret⟩

/-- A detachment that succeeds removes what an attachment with the stored token leaves behind, and
nothing else. -/
theorem cleared_of_detach (faithful : env.Faithful holds) (held : holds world.state entries)
    {report : Report} (succeeded : ((Command.detach.run env).perform world).1 = .ok report) :
    ∃ token left, env.storedToken world.state = .ok (some token) ∧ token.secret ≠ "" ∧
      holds ((Command.detach.run env).perform world).2.state left ∧
      (∀ key, LeftBehind env.processors token key → left key = none) ∧
      ∀ key, ¬LeftBehind env.processors token key → left key = entries key := by
  have kept := keeps_takeOut faithful.spares entries world held
  cases taken : (takeOut env).perform world with | mk first between =>
  rw [taken] at kept
  cases first with
  | error cause =>
    rw [perform_detach_of_error taken] at succeeded
    cases succeeded
  | ok token =>
    obtain ⟨found, secret⟩ := storedToken_of_takeOut faithful.reads taken
    cases cleared : (clear env token).perform between with | mk removal last =>
    obtain ⟨left, heldAfter, removed, -⟩ := perform_clear faithful.spares kept cleared
    have ran := perform_detach_of_ok taken
    rw [cleared] at ran
    cases removal with
    | error cause =>
      rw [ran] at succeeded
      cases succeeded
    | ok =>
      obtain ⟨removes, -, -⟩ := removed rfl
      rw [ran]
      refine ⟨token, left, found, secret, heldAfter, fun key behind => ?_, removes.others⟩
      rcases removes.gone key behind with gone | ⟨⟨state, others, _, shown, same, rejected⟩, kept⟩
      · exact gone
      · -- A key that is rejected has never had an entry.
        exact kept.trans (same.symm.trans (faithful.store.unused shown rejected))

end Command

/-! ### What a turn does to the entries -/

namespace Turn

/-- The access record of the resource was kept in the turn, as this value: the server answered with
it. -/
structure Recorded (turn : Turn σ) (resource : String) (entry : Json) : Prop where
  asked : turn.command = .access resource
  succeeded : ∃ report, turn.result = .ok report
  answered : ∃ request response, turn.exchanges = [(request, .ok response)] ∧
    (response.body.Restorable → entry = response.body)

/-- The turn is a detachment that succeeded, and an attachment with the token that was stored leaves
an entry under the key. -/
structure Clears (turn : Turn σ) (key : String) : Prop where
  detaches : turn.command = .detach
  succeeded : ∃ report, turn.result = .ok report
  leftBehind : ∃ token, turn.env.storedToken turn.before.state = .ok (some token) ∧
    Command.LeftBehind turn.env.processors token key

variable {turn : Turn σ} {holds : σ → Store.Entries → Prop} {entries : Store.Entries}

/-- Every entry is one of the machine itself, or the access record that was kept in the turn, or it
was there before and the turn has not cleared it. -/
def Accounts (turn : Turn σ) (entries left : Store.Entries) : Prop :=
  ∀ key entry, left key = some entry → Store.IsOfMachine key ∨
    (∃ resource, key = Store.accessKey resource ∧ turn.Recorded resource entry) ∨
    (entries key = some entry ∧ ¬turn.Clears key)

/-- A turn that wrote only what belongs to the machine accounts for every entry. -/
theorem Accounts.of_kept {left : Store.Entries} (other : turn.command ≠ .detach)
    (kept : ∀ key, ¬Store.IsOfMachine key → left key = entries key) :
    turn.Accounts entries left := by
  intro key entry there
  by_cases ofMachine : Store.IsOfMachine key
  · exact .inl ofMachine
  · exact .inr (.inr ⟨(kept key ofMachine).symm.trans there, fun clears => other clears.detaches⟩)

end Turn

section Turns

variable {env : Environment σ} {holds : σ → Store.Entries → Prop} {entries : Store.Entries}
  {world : World σ}

/-- What is done with the access record that the server answers with. -/
def Client.keepAccess (env : Environment σ) (resource : String) (response : Response) :
    Action (World σ) ClientError Json := do
  (env.store.write (Store.accessKey resource) response.body).onState.failingAs .store
  return response.body

theorem Client.perform_access {machineId : String} (secret resource : String)
    (asked : (env.host.machineId world.state).1 = .ok machineId) :
    (access env secret resource).perform world =
      let answered := env.answered (.inquiry secret resource machineId) (env.named world)
      match (env.server (env.named world).journal (.inquiry secret resource machineId)).2 with
      | .error failure => (.error (.api (.ofNetwork failure)), answered)
      | .ok response => (keepAccess env resource response).perform answered := by
  have named := Environment.perform_machineId_eq asked
  have same : access env secret resource = env.machineId.failingAs .platform >>= fun machineId =>
      ((env.send (.inquiry secret resource machineId)).failingAs ApiError.ofNetwork).failingAs
        ClientError.api >>= keepAccess env resource := rfl
  rw [same, Action.perform_bind_of_ok (Action.perform_failingAs_of_ok named _),
    Action.perform_bind, Action.perform_failingAs, Action.perform_failingAs,
    Environment.perform_send]
  cases (env.server (env.named world).journal (.inquiry secret resource machineId)).2 <;> rfl

/-- Only the access record that was asked for is put in, as it was answered. -/
theorem Client.kept_of_access (faithful : env.Faithful holds) (held : holds world.state entries)
    (secret resource : String) :
    ∃ left, holds ((access env secret resource).perform world).2.state left ∧
      (left = entries ∨ ∃ request response shown,
        ((access env secret resource).perform world).1 = .ok response.body ∧
        World.exchanges env.server world ((access env secret resource).perform world).2 =
          [(request, .ok response)] ∧
        left = Function.update entries (Store.accessKey resource) shown ∧
        (response.body.Restorable → shown = some response.body)) := by
  have heldNamed : holds (env.named world).state entries := faithful.machineId held
  cases asked : (env.host.machineId world.state).1 with
  | error cause =>
    have named := Environment.perform_machineId_eq asked
    rw [access, Action.perform_bind_of_error (Action.perform_failingAs_of_error named _)]
    exact ⟨entries, heldNamed, .inl rfl⟩
  | ok machineId =>
  have performed := perform_access secret resource asked
  let request := Request.inquiry secret resource machineId
  have one := exchanges_answered env request world
  cases answer : (env.server (env.named world).journal request).2 with
  | error failure =>
    rw [answer] at performed
    rw [performed]
    exact ⟨entries, heldNamed, .inl rfl⟩
  | ok response =>
    rw [answer] at performed one
    have written := Action.perform_onState
      (env.store.write (Store.accessKey resource) response.body)
      (env.answered request (env.named world))
    cases result : ((env.store.write (Store.accessKey resource) response.body).perform
        (env.answered request (env.named world)).state).1 with
    | error cause =>
      rw [result] at written
      have failed : (keepAccess env resource response).perform
          (env.answered request (env.named world)) = _ :=
        Action.perform_bind_of_error (Action.perform_failingAs_of_error written _) _
      rw [performed]
      dsimp only
      rw [failed]
      exact ⟨entries, faithful.store.unwritten heldNamed result, .inl rfl⟩
    | ok =>
      rw [result] at written
      obtain ⟨shown, heldAfter, restored⟩ := faithful.store.written heldNamed result
      have kept : (keepAccess env resource response).perform
          (env.answered request (env.named world)) = _ :=
        Action.perform_bind_of_ok (Action.perform_failingAs_of_ok written _) _
      rw [performed]
      dsimp only
      rw [kept]
      refine ⟨_, heldAfter, .inr ⟨request, response, shown, rfl, ?_, rfl, restored⟩⟩
      -- Writing the record adds nothing to what was exchanged.
      exact ((sent_answered env request world).exchanges_eq (.of_journal_eq rfl) _).trans one

/-- An access record that is kept is accounted for. -/
theorem Turn.accounts_access (faithful : env.Faithful holds) (held : holds world.state entries)
    (resource : String) :
    let turn : Turn σ := { env, command := .access resource, before := world }
    ∃ left, holds turn.after.state left ∧ turn.Accounts entries left := by
  intro turn
  have other : turn.command ≠ .detach := nofun
  have ran : (turn.command.run env).perform world =
      (Command.runAccess env resource).perform world := rfl
  cases gated : (Command.attachedToken env).perform world with | mk gate between =>
  cases gate with
  | error cause =>
    have kept : (Command.attachedToken env).Keeps fun state => holds state entries :=
      Command.keeps_attachedToken (faithful.spares.undisturbed entries)
    have heldAfter := kept world held
    rw [gated] at heldAfter
    rw [Command.runAccess, Action.perform_bind_of_error gated] at ran
    refine ⟨entries, ?_, .of_kept other fun _ _ => rfl⟩
    rw [Turn.after, ran]
    exact heldAfter
  | ok token =>
    obtain ⟨-, -, rfl⟩ := Command.stored_of_attachedToken faithful.reads gated
    rw [Command.runAccess, Action.perform_bind_of_ok gated] at ran
    have ended : turn.after = ((Client.access env token.secret resource).perform between).2 := by
      rw [Turn.after, ran]
      exact Action.perform_bind_pure _ Report.shown _
    obtain ⟨left, heldAfter, same | ⟨request, response, shown, value, one, rfl, restored⟩⟩ :=
      Client.kept_of_access faithful held token.secret resource
    · refine ⟨left, ended ▸ heldAfter, .of_kept other fun _ _ => by rw [same]⟩
    · have succeeded : turn.result = .ok (.shown response.body) := by
        have answered : ((Client.access env token.secret resource).failingAs
            CommandError.client).perform between = (.ok response.body, _) :=
          Action.perform_failingAs_of_ok (Prod.ext value rfl) _
        rw [Turn.result, ran, Action.perform_bind_of_ok answered]
        rfl
      refine ⟨_, ended ▸ heldAfter, fun key entry there => ?_⟩
      -- Only the record of the resource was written, and that as it was answered.
      by_cases here : key = Store.accessKey resource
      · subst here
        rw [Function.update_self] at there
        refine .inr (.inl ⟨resource, rfl, rfl, ⟨_, succeeded⟩, request, response, ?_, ?_⟩)
        · rw [Turn.exchanges, ended]
          exact one
        · exact fun restorable => Option.some.inj (there.symm.trans (restored restorable))
      · rw [Function.update_of_ne here] at there
        exact .inr (.inr ⟨there, fun clears => other clears.detaches⟩)

/-- A detachment only removes entries, and if it succeeds it removes all that it clears. -/
theorem Turn.accounts_detach (faithful : env.Faithful holds) (held : holds world.state entries) :
    let turn : Turn σ := { env, command := .detach, before := world }
    ∃ left, holds turn.after.state left ∧ turn.Accounts entries left := by
  intro turn
  cases ended : turn.result with
  | error failure =>
    obtain ⟨left, heldAfter, thinner⟩ :=
      Command.thinned_runDetach faithful world ⟨entries, held, fun _ => .inr rfl⟩
    refine ⟨left, heldAfter, fun key entry there => .inr (.inr ⟨?_, fun clears => ?_⟩)⟩
    · rcases thinner key with gone | same
      · cases gone.symm.trans there
      · exact same.symm.trans there
    · obtain ⟨report, succeeded⟩ := clears.succeeded
      cases ended.symm.trans succeeded
  | ok report =>
    obtain ⟨token, left, found, -, heldAfter, gone, others⟩ :=
      Command.cleared_of_detach faithful held ended
    refine ⟨left, heldAfter, fun key entry there => .inr (.inr ⟨?_, fun clears => ?_⟩)⟩
    · by_cases behind : Command.LeftBehind env.processors token key
      · cases (gone key behind).symm.trans there
      · exact (others key behind).symm.trans there
    · obtain ⟨other, stored, behind⟩ := clears.leftBehind
      obtain rfl : token = other := Option.some.inj (Except.ok.inj (found.symm.trans stored))
      cases (gone key behind).symm.trans there

/-- Whatever a turn comes to, the entries after it are accounted for. -/
theorem Turn.entries_after {turn : Turn σ} (faithful : turn.env.Faithful holds)
    (held : holds turn.before.state entries) :
    ∃ left, holds turn.after.state left ∧ turn.Accounts entries left := by
  obtain ⟨env, command, before⟩ := turn
  have begun : Command.KeepsRecords holds entries before.state := ⟨entries, held, fun _ _ => rfl⟩
  cases command with
  | attach contractToken =>
    have keeps : (Command.runAttach env contractToken).Keeps (Command.KeepsRecords holds entries) :=
      .bind (.failingAs (Command.keepsRecords_update faithful _) _) fun _ => .pure _
    obtain ⟨left, heldAfter, kept⟩ := keeps before begun
    exact ⟨left, heldAfter, .of_kept nofun kept⟩
  | refresh =>
    have keeps : (Command.runRefresh env).Keeps (Command.KeepsRecords holds entries) :=
      .bind (.failingAs (Command.keepsRecords_update faithful _) _) fun _ => .pure _
    obtain ⟨left, heldAfter, kept⟩ := keeps before begun
    exact ⟨left, heldAfter, .of_kept nofun kept⟩
  | detach => exact accounts_detach faithful held
  | access resource => exact accounts_access faithful held resource
  | resources =>
    obtain ⟨left, heldAfter, kept⟩ := Command.keeps_runResources before begun
    exact ⟨left, heldAfter, .of_kept nofun kept⟩

end Turns

/-! ### Runs -/

namespace Command

variable {env : Environment σ} {holds : σ → Store.Entries → Prop} {entries : Store.Entries}
  {world : World σ}

/-- The access record was kept in a turn of the run, and no turn after it cleared it. -/
def KeptIn (run : List (Turn σ)) (resource : String) (entry : Json) : Prop :=
  ∃ earlier turn later, run = earlier ++ turn :: later ∧ turn.Recorded resource entry ∧
    ∀ other ∈ later, ¬other.Clears (Store.accessKey resource)

/-- A record that a further turn does not clear goes on to be kept. -/
theorem KeptIn.concat {run : List (Turn σ)} {turn : Turn σ} {resource : String} {entry : Json}
    (h : KeptIn run resource entry) (spared : ¬turn.Clears (Store.accessKey resource)) :
    KeptIn (run ++ [turn]) resource entry := by
  obtain ⟨earlier, keeping, later, rfl, recorded, others⟩ := h
  refine ⟨earlier, keeping, later ++ [turn], by simp, recorded, fun other mem => ?_⟩
  rcases List.mem_append.1 mem with before | now
  · exact others other before
  · exact List.mem_singleton.1 now ▸ spared

/-- Every entry that is not one of the machine itself is an access record that was kept in a turn of
the run and not cleared since. -/
def Traced (run : List (Turn σ)) (entries : Store.Entries) : Prop :=
  ∀ key entry, entries key = some entry → Store.IsOfMachine key ∨
    ∃ resource, key = Store.accessKey resource ∧ KeptIn run resource entry

/-- Entries stay traced through a further turn that accounts for what it leaves. -/
theorem Traced.concat {run : List (Turn σ)} {turn : Turn σ} {left : Store.Entries}
    (h : Traced run entries) (accounts : turn.Accounts entries left) :
    Traced (run ++ [turn]) left := by
  intro key entry there
  rcases accounts key entry there with ofMachine | ⟨resource, rfl, recorded⟩ | ⟨before, spared⟩
  · exact .inl ofMachine
  · exact .inr ⟨resource, rfl, run, turn, [], rfl, recorded, by simp⟩
  · rcases h key entry before with ofMachine | ⟨resource, rfl, kept⟩
    · exact .inl ofMachine
    · exact .inr ⟨resource, rfl, kept.concat spared⟩

/-- In every run from no entries on, all entries can be traced. -/
theorem traced_turns {steps : List (Environment σ × Command)}
    (faithful : ∀ step ∈ steps, step.1.Faithful holds) (held : holds world.state fun _ => none) :
    ∃ entries, holds (afterAll world steps).state entries ∧ Traced (turns world steps) entries := by
  -- A record is traced to the last turn that kept it, so the induction is on the last turn.
  induction steps using List.reverseRec with
  | nil => exact ⟨_, held, by rintro key entry ⟨⟩⟩
  | append_singleton steps step ih =>
    obtain ⟨env, command⟩ := step
    obtain ⟨before, now⟩ := List.forall_mem_append.1 faithful
    obtain ⟨entries, heldBefore, traced⟩ := ih before
    let turn : Turn σ := { env, command, before := afterAll world steps }
    have obeying : turn.env.Faithful holds := now (env, command) (List.mem_singleton_self _)
    obtain ⟨left, heldAfter, accounts⟩ := turn.entries_after obeying heldBefore
    rw [turns_concat, afterAll_concat]
    exact ⟨left, heldAfter, traced.concat accounts⟩

/-- **A detachment leaves no more than the access records of resources that are neither registered
nor granted.** In every run from no entries on, whatever the servers answer and whichever processors
are registered: a detachment that succeeds removes the token, the id of the machine, and the access
records of all types that are registered then or that the token stored then grants. All other
entries stay as they were, and each of them is the access record of another resource, kept in a turn
of the run and not cleared by any detachment since. -/
theorem detach_leaves_records_of_others {steps : List (Environment σ × Command)}
    (faithful : ∀ step ∈ steps, step.1.Faithful holds) (held : holds world.state fun _ => none)
    (now : env.Faithful holds) {report : Report} :
    let turn : Turn σ := { env, command := .detach, before := afterAll world steps }
    turn.result = .ok report → ∃ token entries left,
      env.storedToken turn.before.state = .ok (some token) ∧ token.secret ≠ "" ∧
      holds turn.before.state entries ∧ holds turn.after.state left ∧
      left Store.tokenKey = none ∧ left Store.machineIdKey = none ∧
      (∀ kind ∈ accessTypes env.processors token, left (Store.accessKey kind) = none) ∧
      (∀ resource ∉ accessTypes env.processors token,
        left (Store.accessKey resource) = entries (Store.accessKey resource)) ∧
      ∀ key entry, left key = some entry → ∃ resource, key = Store.accessKey resource ∧
        resource ∉ accessTypes env.processors token ∧
        KeptIn (turns world steps) resource entry := by
  intro turn succeeded
  obtain ⟨entries, heldBefore, traced⟩ := traced_turns faithful held
  obtain ⟨token, left, found, secret, heldAfter, gone, others⟩ :=
    cleared_of_detach now heldBefore succeeded
  have accessGone (kind : String) (mem : kind ∈ accessTypes env.processors token) :
      left (Store.accessKey kind) = none := gone _ (leftBehind_iff.2 (.inl ⟨kind, mem, rfl⟩))
  refine ⟨token, entries, left, found, secret, heldBefore, heldAfter, gone _ .token,
    gone _ .machineId, accessGone, fun resource unnamed => ?_, fun key entry there => ?_⟩
  · exact others _ fun behind => unnamed (leftBehind_accessKey.1 behind)
  · -- What is left was not cleared now, so it is traced to the turn that kept it.
    have spared : ¬LeftBehind env.processors token key := fun behind => by
      cases (gone key behind).symm.trans there
    rcases traced key entry ((others key spared).symm.trans there) with
      (rfl | rfl) | ⟨resource, rfl, kept⟩
    · exact absurd .token spared
    · exact absurd .machineId spared
    · exact ⟨resource, rfl, fun mem => spared (leftBehind_accessKey.2 mem), kept⟩

/-- A machine whose server answers every request with the token of a contract without services. -/
def bareMachine : Environment (Keyed Json) :=
  { Update.busyLivepatch with
    server := fun _ _ => ([], .ok { body := Update.bareToken "secret", headers := [] }) }

theorem faithful_bareMachine : bareMachine.Faithful fun state entries => state.get? = entries where
  store := Store.faithful_memory
  reads := Store.readsOnly_memory
  machineId := id

/-- The commands of an operator who asks for two access records. -/
def twoRecords : List (Environment (Keyed Json) × Command) :=
  [(bareMachine, .attach "token"), (bareMachine, .access "livepatch"), (bareMachine, .access "foo")]

/-- The record of the registered service is removed, and the other one stays. -/
theorem detach_leaves_records_of_others_twoRecords :
    let turn : Turn (Keyed Json) :=
      { env := bareMachine, command := .detach, before := afterAll { state := [] } twoRecords }
    turn.result.isOk = true ∧ turn.after.state.length = 1 ∧
    ∃ token left, bareMachine.storedToken turn.before.state = .ok (some token) ∧
      turn.after.state.get? = left ∧ left Store.tokenKey = none ∧
      left Store.machineIdKey = none ∧ left (Store.accessKey "livepatch") = none ∧
      ∀ key entry, left key = some entry → ∃ resource, key = Store.accessKey resource ∧
        resource ∉ accessTypes bareMachine.processors token ∧
        KeptIn (turns { state := [] } twoRecords) resource entry := by
  intro turn
  have faithful : ∀ step ∈ twoRecords,
      step.1.Faithful fun state entries => state.get? = entries := by
    simp [twoRecords, faithful_bareMachine]
  have succeeded : turn.result.isOk = true := by decide +kernel
  refine ⟨succeeded, by decide +kernel, ?_⟩
  cases result : turn.result with
  | error failure =>
    rw [result] at succeeded
    cases succeeded
  | ok report =>
    obtain ⟨token, entries, left, found, -, -, shown, noToken, noId, gone, -, traced⟩ :=
      detach_leaves_records_of_others faithful rfl faithful_bareMachine result
    have registered : "livepatch" ∈ accessTypes bareMachine.processors token :=
      mem_accessTypes.2 (.inl (by decide))
    exact ⟨token, left, found, shown, noToken, noId, gone _ registered, traced⟩

/-- Not all is removed that was kept since the machine was attached: the access record of a resource
that is neither registered nor granted is there after the detachment has succeeded. -/
theorem detach_leaves_record_of_unnamed :
    let attached : World (Keyed Json) :=
      afterAll { state := [] } [(bareMachine, .attach "token")]
    let turn : Turn (Keyed Json) :=
      { env := bareMachine, command := .detach, before := afterAll { state := [] } twoRecords }
    (attached.state.get? (Store.accessKey "foo")).isNone = true ∧ turn.result.isOk = true ∧
    (turn.after.state.get? (Store.accessKey "foo")).isSome = true := by
  decide +kernel

end Command

end Subscription
