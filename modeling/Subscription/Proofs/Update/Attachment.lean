import Subscription.Proofs.Command.Gate

/-!
# What an update leaves a machine as

A machine is attached if the stored token has a secret, and the commands that need an attached
machine are refused otherwise (`Command.refused_iff`). An update stores every token that decodes,
and a token without a secret does. So after an update that succeeds the machine is attached exactly
if the server answered with a secret.
-/

namespace Subscription

/-! ### Commands that need an attached machine -/

namespace Command

/-- The command is for attached machines only. -/
def NeedsAttachment : Command → Prop
  | .refresh | .detach | .access _ => True
  | .attach _ | .resources => False

/-- The command is refused because the machine is not attached. -/
def Refused {σ : Type} (env : Environment σ) (command : Command) (world : World σ) : Prop :=
  ((command.run env).perform world).1 = .error .notAttached ∨
    ((command.run env).perform world).1 = .error (.update (.misuse .notAttached))

section Refusals

variable {env : Environment (Keyed Json)} {world : World (Keyed Json)} {token : MachineToken}

theorem code_of_refused {command : Command} (refused : command.Refused env world) :
    ∃ failure, ((command.run env).perform world).1 = .error failure ∧ failure.code = 2 := by
  rcases refused with failed | failed <;> exact ⟨_, failed, rfl⟩

/-- **The commands for attached machines** are refused exactly if the stored token has no secret. -/
theorem refused_iff (h : env.InMemory)
    (stored : Update.storedToken world.state = .ok (some token)) {command : Command}
    (needs : command.NeedsAttachment) : command.Refused env world ↔ token.isAttached = false := by
  have found := h.storedToken_eq world.state
  rw [stored] at found
  have attached : Attached (some token) ↔ token.isAttached = true :=
    any_isAttached_iff.symm
  have misplaced : command.Misplaced (Attached (some token)) ↔ token.isAttached = false := by
    rw [attached]
    cases command <;> simp [Misplaced, NeedsAttachment] at needs ⊢
  rw [← misplaced]
  -- Code 2 is that of misplaced commands alone, so a refusal says that the command does not fit.
  constructor
  · intro refused
    by_contra fits
    obtain ⟨failure, failed, code⟩ := code_of_refused refused
    have other := code_of_fitting h.readsOnly found fits failed
    rw [code] at other
    split at other <;> contradiction
  · intro misplaced
    have ended := congrArg Prod.fst (perform_misplaced h.readsOnly found misplaced)
    cases command with
    | attach | resources => cases needs
    | refresh => exact .inr ended
    | detach | access => exact .inl ended

end Refusals

end Command

namespace Update

/-! ### After a success -/

/-- The token that is stored after an update that goes as far as the services is the one that the
server answered with. -/
theorem Ran.answered {env : Environment (Keyed Json)} {contractToken : Option String}
    {world after : World (Keyed Json)} {result : Except UpdateError Unit}
    (h : Ran env contractToken world result after) (reached : ReachedServices result) :
    ∃ (request : Request) (headers : Headers) (body : Json) (token : MachineToken),
      World.exchanges env.server world after = [(request, .ok { body, headers })] ∧
      MachineToken.decode body = .ok token ∧ storedToken after.state = .ok (some token) := by
  rcases h.kept_or_replaced with kept | ⟨-, request, headers, body, token, one, decoded, replaced⟩
  · exact absurd reached kept.unreached
  · exact ⟨request, headers, body, token, one, decoded,
      storedToken_eq_ok_some_iff.2 ⟨body, replaced.token, decoded⟩⟩

/-- **A success attaches a machine exactly if the server answered with a secret.** The token of the
answer is stored either way; without a secret it is that of a machine that is not attached, and the
commands for attached machines are refused from then on. -/
theorem attached_iff_answered_with_secret {env : Environment (Keyed Json)} (h : env.InMemory)
    {contractToken : Option String} {world after : World (Keyed Json)}
    (ran : (run env contractToken).perform world = (.ok (), after)) :
    ∃ (request : Request) (headers : Headers) (body : Json) (token : MachineToken),
      World.exchanges env.server world after = [(request, .ok { body, headers })] ∧
      MachineToken.decode body = .ok token ∧
      env.isAttached.perform after = (.ok (decide (token.secret ≠ "")), after) ∧
      ∀ command : Command, command.NeedsAttachment →
        (command.Refused env after ↔ token.secret = "") := by
  have course := Update.ran h contractToken world
  rw [ran] at course
  obtain ⟨request, headers, body, token, one, decoded, stored⟩ := course.answered (.inl rfl)
  refine ⟨request, headers, body, token, one, decoded, h.perform_isAttached stored,
    fun command needs => ?_⟩
  rw [Command.refused_iff h stored needs, MachineToken.isAttached, decide_eq_false_iff_not,
    not_ne_iff]

/-- A machine whose server hands out one bare token. -/
def bare (secret : String) : Environment (Keyed Json) :=
  { busyLivepatch with
    server := fun _ _ => ([], .ok { body := bareToken secret, headers := [] }) }

/-- A machine that got a secret can be refreshed. -/
theorem attached_iff_answered_with_secret_bare :
    let after := ((run (bare "secret") (some "token")).perform { state := [] }).2
    (bare "secret").InMemory ∧
    (run (bare "secret") (some "token")).perform { state := [] } = (.ok (), after) ∧
    ∃ (request : Request) (headers : Headers) (body : Json) (token : MachineToken),
      World.exchanges (bare "secret").server { state := [] } after =
        [(request, .ok { body, headers })] ∧
      MachineToken.decode body = .ok token ∧
      (bare "secret").isAttached.perform after = (.ok (decide (token.secret ≠ "")), after) ∧
      ∀ command : Command, command.NeedsAttachment →
        (command.Refused (bare "secret") after ↔ token.secret = "") := by
  intro after
  have memory : (bare "secret").InMemory := ⟨rfl, fun _ => rfl⟩
  have told : ((run (bare "secret") (some "token")).perform { state := [] }).1 = .ok () := by
    decide +kernel
  have ran : (run (bare "secret") (some "token")).perform { state := [] } = (.ok (), after) :=
    Prod.ext told rfl
  exact ⟨memory, ran, attached_iff_answered_with_secret memory ran⟩

/-- An attachment without a secret succeeds, and the machine is not attached after it. -/
theorem succeeds_unattached :
    let after := ((run (bare "") (some "token")).perform { state := [] }).2
    (bare "").InMemory ∧
    (run (bare "") (some "token")).perform { state := [] } = (.ok (), after) ∧
    (bare "").isAttached.perform after = (.ok false, after) ∧
    ∀ command : Command, command.NeedsAttachment → command.Refused (bare "") after := by
  intro after
  have memory : (bare "").InMemory := ⟨rfl, fun _ => rfl⟩
  have told : ((run (bare "") (some "token")).perform { state := [] }).1 = .ok () := by
    decide +kernel
  have course := Update.ran memory (some "token") { state := [] }
  obtain ⟨_, _, _, token, -, -, stored⟩ := course.answered (.inl told)
  have tokens : ∀ token ∈ (storedToken after.state).toOption.join,
      token.isAttached = false := by decide +kernel
  have secretless : token.isAttached = false := tokens token (mem_storedToken stored)
  refine ⟨memory, Prod.ext told rfl, ?_, fun command needs =>
    (Command.refused_iff memory stored needs).2 secretless⟩
  rw [memory.perform_isAttached stored, secretless]

end Update

end Subscription
