import Subscription.Environment

/-!
# Performing actions

What each way of building an action gives and which world it leaves, as equations for
`Action.perform`. With them an operation is performed step by step: a step that fails ends it, and
the world stays as the steps before have left it.
-/

namespace Subscription

namespace Action

variable {σ ε ε' α β : Type}

/-! ### Control -/

/-- The next action goes on from the state that the first leaves, unless the first fails. -/
theorem perform_bind (action : Action σ ε α) (next : α → Action σ ε β) (state : σ) :
    (action >>= next).perform state =
      match action.perform state with
      | (.ok value, after) => (next value).perform after
      | (.error failure, after) => (.error failure, after) := by
  simp only [perform, ExceptT.run_bind, StateT.run_bind]
  rcases StateT.run (ExceptT.run action) state with ⟨_ | _, _⟩ <;> rfl

/-- After a success the next action is performed on the state the first one left. -/
theorem perform_bind_of_ok {action : Action σ ε α} {state after : σ} {value : α}
    (h : action.perform state = (.ok value, after)) (next : α → Action σ ε β) :
    (action >>= next).perform state = (next value).perform after := by
  rw [perform_bind, h]

/-- After a failure nothing more is performed. -/
theorem perform_bind_of_error {action : Action σ ε α} {state after : σ} {failure : ε}
    (h : action.perform state = (.error failure, after)) (next : α → Action σ ε β) :
    (action >>= next).perform state = (.error failure, after) := by
  rw [perform_bind, h]

/-- Renaming failures changes neither the value nor the state left behind. -/
theorem perform_failingAs (action : Action σ ε α) (wrap : ε → ε') (state : σ) :
    (action.failingAs wrap).perform state =
      ((action.perform state).1.mapError wrap, (action.perform state).2) := rfl

theorem perform_failingAs_of_ok {action : Action σ ε α} {state after : σ} {value : α}
    (h : action.perform state = (.ok value, after)) (wrap : ε → ε') :
    (action.failingAs wrap).perform state = (.ok value, after) := by
  rw [perform_failingAs, h]
  rfl

/-- A failure is wrapped; what the action did stands. -/
theorem perform_failingAs_of_error {action : Action σ ε α} {state after : σ} {failure : ε}
    (h : action.perform state = (.error failure, after)) (wrap : ε → ε') :
    (action.failingAs wrap).perform state = (.error (wrap failure), after) := by
  rw [perform_failingAs, h]
  rfl

/-- Where both parts of an action succeed, the second goes on from what the first gave. -/
theorem of_perform_bind_ok {action : Action σ ε α} {next : α → Action σ ε β} {state after : σ}
    {value : β} (h : (action >>= next).perform state = (.ok value, after)) :
    ∃ first between, action.perform state = (.ok first, between) ∧
      (next first).perform between = (.ok value, after) := by
  rw [perform_bind] at h
  cases performed : action.perform state with | mk result between =>
  rw [performed] at h
  cases result with
  | ok first => exact ⟨first, between, rfl, h⟩
  | error failure => cases congrArg Prod.fst h

/-- A success under a wrapped failure is a success of the action itself. -/
theorem of_perform_failingAs_ok {action : Action σ ε α} {wrap : ε → ε'} {state after : σ}
    {value : α} (h : (action.failingAs wrap).perform state = (.ok value, after)) :
    action.perform state = (.ok value, after) := by
  rw [perform_failingAs] at h
  cases performed : action.perform state with | mk result between =>
  rw [performed] at h
  cases result with
  | ok first =>
    obtain ⟨same, rfl⟩ := Prod.mk.inj h
    rw [Except.ok.inj same]
  | error failure => cases congrArg Prod.fst h

/-- To go on to a known value leaves the state as it is. -/
theorem perform_bind_pure (action : Action σ ε α) (value : α → β) (state : σ) :
    ((action >>= fun result => pure (value result)).perform state).2 =
      (action.perform state).2 := by
  rw [perform_bind]
  rcases action.perform state with ⟨_ | _, after⟩ <;> rfl

/-- A failure that is caught goes on from the state that it leaves. -/
theorem perform_tryCatch (action : Action σ ε α) (handler : ε → Action σ ε α) (state : σ) :
    (tryCatch action handler).perform state =
      match action.perform state with
      | (.ok value, after) => (.ok value, after)
      | (.error failure, after) => (handler failure).perform after := by
  simp only [perform, ExceptT.run_tryCatch, StateT.run_bind]
  rcases StateT.run (ExceptT.run action) state with ⟨_ | _, _⟩ <;> rfl

/-- Work that cannot fail, as part of an action. -/
theorem perform_lift (work : StateM σ α) (state : σ) :
    (liftM work : Action σ ε α).perform state =
      (.ok (StateT.run work state).1, (StateT.run work state).2) := rfl

/-! ### Failures -/

/-- All failures of the action are of this kind. -/
def FailsWith (P : ε → Prop) (action : Action σ ε α) : Prop :=
  ∀ state failure, (action.perform state).1 = .error failure → P failure

namespace FailsWith

variable {P : ε → Prop}

theorem pure (value : α) : FailsWith P (Pure.pure value : Action σ ε α) := by
  rintro state failure ⟨⟩

/-- What can fail in a sequence is what can fail in one of its parts. -/
theorem bind {action : Action σ ε α} {next : α → Action σ ε β} (h : FailsWith P action)
    (hnext : ∀ value, FailsWith P (next value)) : FailsWith P (action >>= next) := by
  intro state failure failed
  rw [perform_bind] at failed
  cases performed : action.perform state with | mk result after =>
  rw [performed] at failed
  cases result with
  | ok value => exact hnext value after failure failed
  | error cause =>
    obtain rfl : cause = failure := Except.error.inj failed
    exact h state cause (by rw [performed])

/-- After the wrapping, every failure is a wrapped one. -/
theorem failingAs {action : Action σ ε' α} {wrap : ε' → ε} (h : ∀ cause, P (wrap cause)) :
    FailsWith P (action.failingAs wrap) := by
  intro state failure failed
  rw [perform_failingAs] at failed
  cases result : (action.perform state).1 with
  | ok value =>
    rw [result] at failed
    cases failed
  | error cause =>
    rw [result] at failed
    exact Except.error.inj failed ▸ h cause

theorem log (event : LogEvent) : FailsWith P (log event : Action (World σ) ε Unit) := by
  rintro world failure ⟨⟩

theorem lift (work : StateM σ α) : FailsWith P (liftM work : Action σ ε α) := by
  rintro state failure ⟨⟩

end FailsWith

/-! ### The world -/

/-- To note nothing is to do nothing. -/
theorem note_nil : (note [] : Action (World σ) ε Unit) = pure () := by
  funext world
  change (Except.ok (), { world with journal := world.journal ++ [] }) = (Except.ok (), world)
  rw [List.append_nil]

@[simp] theorem perform_log (event : LogEvent) (world : World σ) :
    (log event : Action (World σ) ε Unit).perform world =
      (.ok (), { world with journal := world.journal ++ [.logged event] }) := rfl

@[simp] theorem perform_ofExcept (result : Except ε α) (world : World σ) :
    (ofExcept result).perform world = (result, world) := rfl

@[simp] theorem perform_onState (action : Action σ ε α) (world : World σ) :
    action.onState.perform world =
      ((action.perform world.state).1, { world with state := (action.perform world.state).2 }) :=
  rfl

end Action

namespace Environment

variable {σ : Type}

@[simp] theorem perform_platform (env : Environment σ) (world : World σ) :
    env.platform.perform world = (env.host.platform world.state, world) := rfl

/-- To ask for the machine id can change the state and write log lines; it sends nothing. -/
@[simp] theorem perform_machineId (env : Environment σ) (world : World σ) :
    env.machineId.perform world =
      ((env.host.machineId world.state).1,
        { state := (env.host.machineId world.state).2.1
          journal := world.journal ++ (env.host.machineId world.state).2.2.map .logged }) := rfl

/-- The server answers from the journal as it stands before the request is added to it. -/
@[simp] theorem perform_send (env : Environment σ) (request : Request) (world : World σ) :
    (env.send request).perform world =
      ((env.server world.journal request).2,
        { world with journal := world.journal ++
            .requested request :: (env.server world.journal request).1.map .logged }) := rfl

/-- A processor sees the journal as it stands before its own call is added to it. -/
@[simp] theorem perform_call (processor : Processor) (kind : String) (about : ProcessorCall)
    (world : World σ) :
    (call processor kind about).perform world =
      ((processor world.journal about).2,
        { world with journal := world.journal ++
            (processor world.journal about).1.map .logged ++
            [.processed kind about (processor world.journal about).2] }) := rfl

end Environment

/-! ### What is kept -/

namespace Action

variable {σ ε ε' α β : Type}

/-- Whatever comes of the action, what holds of the state goes on to hold. -/
def Keeps (P : σ → Prop) (action : Action (World σ) ε α) : Prop :=
  ∀ world, P world.state → P (action.perform world).2.state

namespace Keeps

variable {P : σ → Prop}

/-- Work that leaves the state alone keeps what holds of it. -/
theorem of_state_eq {action : Action (World σ) ε α}
    (h : ∀ world, (action.perform world).2.state = world.state) : Keeps P action := by
  intro world holds
  rwa [h world]

theorem pure (value : α) : Keeps P (Pure.pure value : Action (World σ) ε α) :=
  of_state_eq fun _ => rfl

theorem throw (failure : ε) : Keeps P (throw failure : Action (World σ) ε α) :=
  of_state_eq fun _ => rfl

theorem ofExcept (result : Except ε α) : Keeps P (Action.ofExcept result) :=
  of_state_eq fun _ => rfl

theorem note (occurrences : List Occurrence) :
    Keeps P (Action.note occurrences : Action (World σ) ε Unit) :=
  of_state_eq fun _ => rfl

theorem platform (env : Environment σ) : Keeps P env.platform :=
  of_state_eq fun _ => rfl

theorem send (env : Environment σ) (request : Request) : Keeps P (env.send request) :=
  of_state_eq fun _ => rfl

/-- What holds after the first part holds at the end, if the second part keeps it. -/
theorem after_bind {action : Action (World σ) ε α} {next : α → Action (World σ) ε β}
    {world : World σ} (first : P (action.perform world).2.state)
    (hnext : ∀ value, Keeps P (next value)) : P ((action >>= next).perform world).2.state := by
  rw [perform_bind]
  cases performed : action.perform world with | mk result after =>
  rw [performed] at first
  cases result with
  | ok value => exact hnext value after first
  | error failure => exact first

theorem bind {action : Action (World σ) ε α} {next : α → Action (World σ) ε β}
    (h : Keeps P action) (hnext : ∀ value, Keeps P (next value)) : Keeps P (action >>= next) :=
  fun world holds => after_bind (h world holds) hnext

theorem failingAs {action : Action (World σ) ε α} (h : Keeps P action) (wrap : ε → ε') :
    Keeps P (action.failingAs wrap) := h

/-- An action on the state keeps what every performance of it keeps. -/
theorem onState {action : Action σ ε α}
    (h : ∀ state, P state → P (action.perform state).2) : Keeps P action.onState :=
  fun world => h world.state

/-- A handler starts in a state that the failed action has kept as well. -/
theorem tryCatch {action : Action (World σ) ε α} {handler : ε → Action (World σ) ε α}
    (h : Keeps P action) (hhandler : ∀ failure, Keeps P (handler failure)) :
    Keeps P (tryCatch action handler) := by
  intro world holds
  have first := h world holds
  rw [perform_tryCatch]
  cases performed : action.perform world with | mk result after =>
  rw [performed] at first
  cases result with
  | ok value => exact first
  | error failure => exact hhandler failure after first

theorem lift {work : StateM (World σ) α}
    (h : ∀ world, P world.state → P (StateT.run work world).2.state) :
    Keeps P (liftM work : Action (World σ) ε α) := h

/-- A loop keeps what each of its rounds keeps. -/
theorem forM {items : List β} {action : β → Action (World σ) ε PUnit}
    (h : ∀ item ∈ items, Keeps P (action item)) : Keeps P (items.forM action) := by
  induction items with
  | nil => exact pure _
  | cons item rest ih =>
    obtain ⟨first, others⟩ := List.forall_mem_cons.1 h
    exact bind first fun _ => ih others

end Keeps

end Action

end Subscription
