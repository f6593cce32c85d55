import Subscription.Command.Run
import Subscription.Proofs.Update.Course

/-!
# What an action sends

`World.Sent` says which requests were sent between two worlds. Nearly all parts of an operation send
nothing (`Action.Quiet`), and an operation has one part that may send a request. So what an
operation sends is found by going along it up to this part, and what stands behind it does not
matter (`Action.Sends.bind_of_quiet`, `Action.Sends.bind`).
-/

namespace Subscription

variable {σ ε ε' α β : Type}

/-! ### Between two worlds -/

namespace World

variable {first second third : World σ} {earlier later : List Request}

/-- From the first world on, these requests were sent. -/
def Sent (first second : World σ) (sent : List Request) : Prop :=
  ∃ news : Journal, second.journal = first.journal ++ news ∧ news.requests = sent

namespace Sent

/-- Nothing has been sent yet. -/
theorem refl (world : World σ) : Sent world world [] := ⟨[], by simp, rfl⟩

/-- Worlds with one journal have no request between them. -/
theorem of_journal_eq (h : second.journal = first.journal) : Sent first second [] :=
  ⟨[], by simp [h], rfl⟩

theorem of_offline (h : Offline first second) : Sent first second [] := h.journal_eq

/-- The requests of two stretches follow each other. -/
theorem trans (h : Sent first second earlier) (h' : Sent second third later) :
    Sent first third (earlier ++ later) := by
  obtain ⟨news, journal, rfl⟩ := h
  obtain ⟨news', journal', rfl⟩ := h'
  exact ⟨news ++ news', by simp [journal', journal], Journal.requests_append ..⟩

/-- What sends nothing has no part in what was exchanged. -/
theorem exchanges_eq (h : Sent first second earlier) (h' : Sent second third []) (server : Server) :
    exchanges server first third = exchanges server first second := by
  obtain ⟨news, journal, -⟩ := h
  obtain ⟨news', journal', quiet⟩ := h'
  exact exchanges_append_quiet server journal journal' quiet

end Sent

end World

namespace Environment

theorem sent_machineId (env : Environment σ) (world : World σ) :
    World.Sent world (env.machineId.perform world).2 [] :=
  ⟨_, rfl, Journal.requests_logged _⟩

/-- One send is one request, answered or not. -/
theorem sent_send (env : Environment σ) (request : Request) (world : World σ) :
    World.Sent world ((env.send request).perform world).2 [request] :=
  ⟨_, rfl, congrArg (request :: ·) (Journal.requests_logged _)⟩

end Environment

namespace Action

/-! ### Parts that send nothing -/

/-- Whatever comes of the action, no request is sent. -/
def Quiet (action : Action (World σ) ε α) : Prop :=
  ∀ world, World.Sent world (action.perform world).2 []

namespace Quiet

/-- Work that writes nothing into the journal sends nothing. -/
theorem of_journal_eq {action : Action (World σ) ε α}
    (h : ∀ world, (action.perform world).2.journal = world.journal) : Quiet action :=
  fun world => .of_journal_eq (h world)

theorem pure (value : α) : Quiet (Pure.pure value : Action (World σ) ε α) :=
  of_journal_eq fun _ => rfl

theorem throw (failure : ε) : Quiet (throw failure : Action (World σ) ε α) :=
  of_journal_eq fun _ => rfl

theorem ofExcept (result : Except ε α) : Quiet (Action.ofExcept result : Action (World σ) ε α) :=
  of_journal_eq fun _ => rfl

theorem onState (action : Action σ ε α) : Quiet action.onState :=
  of_journal_eq fun _ => rfl

theorem platform (env : Environment σ) : Quiet env.platform :=
  of_journal_eq fun _ => rfl

theorem machineId (env : Environment σ) : Quiet env.machineId := env.sent_machineId

/-- Occurrences none of which is a request keep an action quiet. -/
theorem note {occurrences : List Occurrence} (h : Journal.requests occurrences = []) :
    Quiet (Action.note occurrences : Action (World σ) ε Unit) :=
  fun _ => ⟨occurrences, rfl, h⟩

theorem log (event : LogEvent) : Quiet (Action.log event : Action (World σ) ε Unit) := note rfl

/-- A sequence of quiet actions is quiet. -/
theorem bind {action : Action (World σ) ε α} {next : α → Action (World σ) ε β}
    (h : Quiet action) (hnext : ∀ value, Quiet (next value)) : Quiet (action >>= next) := by
  intro world
  have first := h world
  rw [perform_bind]
  cases performed : action.perform world with | mk result after =>
  rw [performed] at first
  cases result with
  | ok value => exact first.trans (hnext value after)
  | error failure => exact first

theorem failingAs {action : Action (World σ) ε α} (h : Quiet action) (wrap : ε → ε') :
    Quiet (action.failingAs wrap) := h

theorem tryCatch {action : Action (World σ) ε α} {handler : ε → Action (World σ) ε α}
    (h : Quiet action) (hhandler : ∀ failure, Quiet (handler failure)) :
    Quiet (tryCatch action handler) := by
  intro world
  have first := h world
  rw [perform_tryCatch]
  cases performed : action.perform world with | mk result after =>
  rw [performed] at first
  cases result with
  | ok value => exact first
  | error failure => exact first.trans (hhandler failure after)

theorem lift {work : StateM (World σ) α}
    (h : ∀ world, World.Offline world (StateT.run work world).2) :
    Quiet (liftM work : Action (World σ) ε α) :=
  fun world => .of_offline (h world)

/-- A loop of quiet rounds is quiet. -/
theorem forM {items : List β} {action : β → Action (World σ) ε PUnit}
    (h : ∀ item ∈ items, Quiet (action item)) : Quiet (items.forM action) := by
  induction items with
  | nil => exact pure _
  | cons item rest ih =>
    obtain ⟨first, others⟩ := List.forall_mem_cons.1 h
    exact bind first fun _ => ih others

end Quiet

/-- What stands behind the part that sends does not matter. -/
theorem sent_bind {action : Action (World σ) ε α} {next : α → Action (World σ) ε β}
    {world : World σ} {sent : List Request} (h : World.Sent world (action.perform world).2 sent)
    (hnext : ∀ value, Quiet (next value)) :
    World.Sent world ((action >>= next).perform world).2 sent := by
  rw [perform_bind]
  cases performed : action.perform world with | mk result after =>
  rw [performed] at h
  cases result with
  | ok value => exact List.append_nil sent ▸ h.trans (hnext value after)
  | error failure => exact h

/-! ### The part that sends a request -/

/-- From this world on, the action sends no request or one, and that is one of these. -/
def Sends (P : Request → Prop) (action : Action (World σ) ε α) (world : World σ) : Prop :=
  ∃ sent, World.Sent world (action.perform world).2 sent ∧ sent.length ≤ 1 ∧
    ∀ request ∈ sent, P request

namespace Sends

variable {P : Request → Prop} {world : World σ}

/-- An action that ends where it began has sent nothing. -/
theorem of_eq {action : Action (World σ) ε α} (h : (action.perform world).2 = world) :
    Sends P action world :=
  ⟨[], .of_journal_eq (congrArg World.journal h), Nat.zero_le _, by simp⟩

theorem congr {action other : Action (World σ) ε α}
    (same : action.perform world = other.perform world) (h : Sends P other world) :
    Sends P action world := by
  rwa [Sends, same]

/-- An action that sends nothing sends only what is allowed. -/
theorem of_quiet {action : Action (World σ) ε α} (h : Quiet action) : Sends P action world :=
  ⟨[], h world, Nat.zero_le _, by simp⟩

theorem send (env : Environment σ) {request : Request} (h : P request) :
    Sends P (env.send request) world :=
  ⟨[request], env.sent_send request world, Nat.le_refl _, by simpa using h⟩

theorem failingAs {action : Action (World σ) ε α} (h : Sends P action world) (wrap : ε → ε') :
    Sends P (action.failingAs wrap) world := h

/-- Where the first part sends nothing, the second is all that matters, from the world that the
first leaves. -/
theorem bind_of_quiet {action : Action (World σ) ε α} {next : α → Action (World σ) ε β}
    (h : Quiet action) (hnext : ∀ value after, action.perform world = (.ok value, after) →
      Sends P (next value) after) : Sends P (action >>= next) world := by
  have first := h world
  rw [Sends, perform_bind]
  cases performed : action.perform world with | mk result after =>
  rw [performed] at first
  cases result with
  | ok value =>
    obtain ⟨sent, second, one, allowed⟩ := hnext value after performed
    exact ⟨sent, first.trans second, one, allowed⟩
  | error failure => exact ⟨[], first, Nat.zero_le _, by simp⟩

/-- Where the second part sends nothing, the first is all that matters. -/
theorem bind {action : Action (World σ) ε α} {next : α → Action (World σ) ε β}
    (h : Sends P action world) (hnext : ∀ value, Quiet (next value)) :
    Sends P (action >>= next) world := by
  obtain ⟨sent, first, one, allowed⟩ := h
  exact ⟨sent, sent_bind first hnext, one, allowed⟩

end Sends

end Action

/-! ### Operations that send nothing -/

section Operations

variable (env : Environment σ)

/-- The stored token is read without a request. -/
theorem Environment.quiet_machineToken : env.machineToken.Quiet := by
  refine .bind (.onState _) fun value => ?_
  cases value with
  | none => exact .pure _
  | some value => exact .bind (.failingAs (.ofExcept _) _) fun token => .pure _

/-- A token is stored without a request. -/
theorem Client.quiet_storeToken (token : Json) (machineId : String) :
    (storeToken env token machineId).Quiet := by
  refine .bind (.failingAs (.ofExcept _) _) fun _ => ?_
  exact .bind (.failingAs (.onState _) _) fun _ => .failingAs (.onState _) _

theorem Command.quiet_attachedToken : (attachedToken env).Quiet := by
  refine .bind (.failingAs env.quiet_machineToken _) fun token => ?_
  split
  · exact .pure _
  · exact .throw _

/-- The cache is cleared without a request. -/
theorem Command.quiet_clear (token : MachineToken) : (clear env token).Quiet := by
  refine .bind (.forM fun kind _ => .tryCatch (.onState _) fun failure => ?_) fun _ =>
    .bind (.onState _) fun _ => .onState _
  split
  · exact .pure _
  · exact .throw _

end Operations

end Subscription
