import Subscription.Proofs.Journal

/-!
# Two runs side by side

Work that is done in two worlds is compared step by step. A `Likeness` says what is alike in the two
worlds: the states by one relation, the journals so far by another, and what each step adds to them
by a third. `Action.Alike` says that two actions, from worlds that are alike, give values that are
related or the same failure and leave worlds that are alike again. There is one rule for each way of
building an action, so two operations are compared along their `do` blocks; only where they ask
their surroundings there is something to show.
-/

namespace Subscription

variable {σ ε ε' α α' β β' : Type}

/-! ### What is alike -/

/-- What is alike in two runs. -/
structure Likeness (σ : Type) where
  states : σ → σ → Prop
  /-- The journals up to some point. -/
  pasts : Journal → Journal → Prop
  /-- What is added to the journals from there on. -/
  news : Journal → Journal → Prop
  same : ∀ added, news added added
  append : ∀ {a a' b b'}, news a a' → news b b' → news (a ++ b) (a' ++ b')
  extend : ∀ {past past' a a'}, pasts past past' → news a a' → pasts (past ++ a) (past' ++ a')

namespace Likeness

variable {like : Likeness σ}

/-- Two worlds are alike. -/
structure Worlds (like : Likeness σ) (world world' : World σ) : Prop where
  states : like.states world.state world'.state
  pasts : like.pasts world.journal world'.journal

/-- From two worlds on, these two worlds were reached in the same way. -/
structure Leads (like : Likeness σ) (world world' after after' : World σ) : Prop where
  states : like.states after.state after'.state
  news : ∃ added added' : Journal, after.journal = world.journal ++ added ∧
    after'.journal = world'.journal ++ added' ∧ like.news added added'

namespace Worlds

variable {world world' after after' : World σ}

theorem leads (h : like.Worlds world world') : like.Leads world world' world world' :=
  ⟨h.states, [], [], (List.append_nil _).symm, (List.append_nil _).symm, like.same []⟩

theorem of_leads (h : like.Worlds world world') (leads : like.Leads world world' after after') :
    like.Worlds after after' := by
  obtain ⟨states, added, added', journal, journal', news⟩ := leads
  refine ⟨states, ?_⟩
  rw [journal, journal']
  exact like.extend h.pasts news

/-- What is added to the journals alone. -/
theorem leads_append (h : like.Worlds world world') {added added' : Journal}
    (news : like.news added added') : like.Leads world world'
      { world with journal := world.journal ++ added }
      { world' with journal := world'.journal ++ added' } :=
  ⟨h.states, added, added', rfl, rfl, news⟩

end Worlds

/-- Two stretches of the runs make up one: what each adds to the journals is added in turn. -/
theorem Leads.trans {world world' between between' after after' : World σ}
    (first : like.Leads world world' between between')
    (second : like.Leads between between' after after') :
    like.Leads world world' after after' := by
  obtain ⟨-, added, added', journal, journal', news⟩ := first
  obtain ⟨states, later, later', journals, journals', others⟩ := second
  refine ⟨states, added ++ later, added' ++ later', ?_, ?_, like.append news others⟩
  · rw [journals, journal, List.append_assoc]
  · rw [journals', journal', List.append_assoc]

/-- From worlds that are alike, both steps give results that are related and lead to worlds that are
alike again. -/
def Steps (like : Likeness σ) (relates : α → α' → Prop) (step : World σ → α × World σ)
    (step' : World σ → α' × World σ) : Prop :=
  ∀ world world', like.Worlds world world' → relates (step world).1 (step' world').1 ∧
    like.Leads world world' (step world).2 (step' world').2

end Likeness

/-- Both results are values that are related, or both are the same failure. -/
inductive Both (relates : α → α' → Prop) : Except ε α → Except ε α' → Prop
  | ok {value : α} {value' : α'} (related : relates value value') :
      Both relates (.ok value) (.ok value')
  | error (failure : ε) : Both relates (.error failure) (.error failure)

namespace Both

variable {relates : α → α' → Prop}

theorem of_eq {result result' : Except ε α} (h : result = result') : Both Eq result result' := by
  subst h
  cases result with
  | ok value => exact .ok rfl
  | error failure => exact .error failure

theorem eq {result result' : Except ε α} (h : Both Eq result result') : result = result' := by
  cases h with
  | ok same => rw [same]
  | error failure => rfl

theorem mapError {result : Except ε α} {result' : Except ε α'} (h : Both relates result result')
    (wrap : ε → ε') : Both relates (result.mapError wrap) (result'.mapError wrap) := by
  cases h with
  | ok related => exact .ok related
  | error failure => exact .error (wrap failure)

end Both

/-! ### Actions -/

namespace Action

variable {like : Likeness σ} {relates : α → α' → Prop}

/-- From worlds that are alike, both actions give values that are related or fail in the same way,
and leave worlds that are alike again. -/
def Alike (like : Likeness σ) (relates : α → α' → Prop) (action : Action (World σ) ε α)
    (action' : Action (World σ) ε α') : Prop :=
  like.Steps (Both relates) action.perform action'.perform

namespace Alike

theorem pure {value : α} {value' : α'} (h : relates value value') :
    Alike like relates (Pure.pure value : Action (World σ) ε α) (Pure.pure value') :=
  fun _ _ worlds => ⟨.ok h, worlds.leads⟩

theorem throw (failure : ε) : Alike like relates (throw failure : Action (World σ) ε α)
    (throw failure : Action (World σ) ε α') :=
  fun _ _ worlds => ⟨.error failure, worlds.leads⟩

theorem ofExcept {result : Except ε α} {result' : Except ε α'} (h : Both relates result result') :
    Alike like relates (Action.ofExcept result) (Action.ofExcept result') :=
  fun _ _ worlds => ⟨h, worlds.leads⟩

theorem note (added : Journal) : Alike like Eq (Action.note added : Action (World σ) ε Unit)
    (Action.note added) :=
  fun _ _ worlds => ⟨.ok rfl, worlds.leads_append (like.same added)⟩

theorem log (event : LogEvent) : Alike like Eq (Action.log event : Action (World σ) ε Unit)
    (Action.log event) := note _

/-- Actions on the state are alike if they are on any two like states. -/
theorem onState {action : Action σ ε α} {action' : Action σ ε α'}
    (h : ∀ state state', like.states state state' →
      Both relates (action.perform state).1 (action'.perform state').1 ∧
      like.states (action.perform state).2 (action'.perform state').2) :
    Alike like relates action.onState action'.onState := by
  intro world world' worlds
  have ⟨results, states⟩ := h world.state world'.state worlds.states
  exact ⟨results, states, [], [], (List.append_nil _).symm, (List.append_nil _).symm, like.same []⟩

theorem platform {env env' : Environment σ}
    (h : ∀ state state', like.states state state' →
      env.host.platform state = env'.host.platform state') :
    Alike like Eq env.platform env'.platform :=
  fun world world' worlds => ⟨.of_eq (h world.state world'.state worlds.states), worlds.leads⟩

/-- The host tells the same, leaves states that are alike, and logs alike. -/
theorem machineId {env env' : Environment σ}
    (h : ∀ state state', like.states state state' →
      (env.host.machineId state).1 = (env'.host.machineId state').1 ∧
      like.states (env.host.machineId state).2.1 (env'.host.machineId state').2.1 ∧
      like.news ((env.host.machineId state).2.2.map .logged)
        ((env'.host.machineId state').2.2.map .logged)) :
    Alike like Eq env.machineId env'.machineId := by
  intro world world' worlds
  have ⟨told, states, news⟩ := h world.state world'.state worlds.states
  exact ⟨.of_eq told, states, _, _, rfl, rfl, news⟩

/-- The server gives answers that are related, and what is logged about them is alike. -/
theorem send {env env' : Environment σ} {request : Request} {responds : Response → Response → Prop}
    (h : ∀ past past', like.pasts past past' →
      Both responds (env.server past request).2 (env'.server past' request).2 ∧
      like.news (.requested request :: (env.server past request).1.map .logged)
        (.requested request :: (env'.server past' request).1.map .logged)) :
    Alike like responds (env.send request) (env'.send request) := by
  intro world world' worlds
  have ⟨answers, news⟩ := h world.journal world'.journal worlds.pasts
  exact ⟨answers, worlds.leads_append news⟩

/-- A processor that takes the call in the same way in both worlds. -/
theorem call {processor : Processor} (kind : String) {about : ProcessorCall}
    (h : ∀ past past', like.pasts past past' → processor past about = processor past' about) :
    Alike like Eq (Environment.call processor kind about : Action (World σ) ProcessFailure Unit)
      (Environment.call processor kind about) := by
  intro world world' worlds
  have same := h world.journal world'.journal worlds.pasts
  refine ⟨.of_eq ?_, worlds.states, _, _, List.append_assoc .., List.append_assoc .., ?_⟩
  · rw [Environment.perform_call, Environment.perform_call, same]
  · rw [same]
    exact like.same _

/-- Runs stay alike through a sequence if related values are followed by like actions. -/
theorem bind {relates' : β → β' → Prop} {action : Action (World σ) ε α}
    {action' : Action (World σ) ε α'} {next : α → Action (World σ) ε β}
    {next' : α' → Action (World σ) ε β'} (h : Alike like relates action action')
    (hnext : ∀ value value', relates value value' →
      Alike like relates' (next value) (next' value')) :
    Alike like relates' (action >>= next) (action' >>= next') := by
  intro world world' worlds
  have ⟨results, leads⟩ := h world world' worlds
  rw [perform_bind, perform_bind]
  cases performed : action.perform world with | mk result after =>
  cases performed' : action'.perform world' with | mk result' after' =>
  rw [performed, performed'] at results leads
  cases results with
  | ok related =>
    have ⟨results, further⟩ := hnext _ _ related after after' (worlds.of_leads leads)
    exact ⟨results, leads.trans further⟩
  | error failure => exact ⟨.error failure, leads⟩

/-- The second action goes on from the same value on both sides. -/
theorem bind_eq {relates' : β → β' → Prop} {action action' : Action (World σ) ε α}
    {next : α → Action (World σ) ε β} {next' : α → Action (World σ) ε β'}
    (h : Alike like Eq action action')
    (hnext : ∀ value, Alike like relates' (next value) (next' value)) :
    Alike like relates' (action >>= next) (action' >>= next') :=
  h.bind fun value _ same => same ▸ hnext value

/-- Both runs wrap their failure in the same way, so like failures stay alike. -/
theorem failingAs {action : Action (World σ) ε α} {action' : Action (World σ) ε α'}
    (h : Alike like relates action action') (wrap : ε → ε') :
    Alike like relates (action.failingAs wrap) (action'.failingAs wrap) := by
  intro world world' worlds
  have ⟨results, leads⟩ := h world world' worlds
  exact ⟨results.mapError wrap, leads⟩

/-- Like actions fail with one failure, so that one handler takes over on both sides. -/
theorem tryCatch {action action' : Action (World σ) ε α}
    {handler handler' : ε → Action (World σ) ε α} (h : Alike like Eq action action')
    (hhandler : ∀ failure, Alike like Eq (handler failure) (handler' failure)) :
    Alike like Eq (tryCatch action handler) (tryCatch action' handler') := by
  intro world world' worlds
  have ⟨results, leads⟩ := h world world' worlds
  rw [perform_tryCatch, perform_tryCatch]
  cases performed : action.perform world with | mk result after =>
  cases performed' : action'.perform world' with | mk result' after' =>
  rw [performed, performed'] at results leads
  cases results with
  | ok related => exact ⟨.ok related, leads⟩
  | error failure =>
    have ⟨results, further⟩ := hhandler failure after after' (worlds.of_leads leads)
    exact ⟨results, leads.trans further⟩

/-- Loops stay alike if their rounds do. -/
theorem forM {items : List β} {action action' : β → Action (World σ) ε PUnit}
    (h : ∀ item, Alike like Eq (action item) (action' item)) :
    Alike like Eq (items.forM action) (items.forM action') := by
  induction items with
  | nil => exact pure rfl
  | cons item rest ih => exact (h item).bind_eq fun _ => ih

/-- Work that cannot fail, as part of an action. -/
theorem lift {work : StateM (World σ) α} {work' : StateM (World σ) α'}
    (h : like.Steps relates (StateT.run work) (StateT.run work')) :
    Alike like relates (liftM work : Action (World σ) ε α) (liftM work') := by
  intro world world' worlds
  have ⟨related, leads⟩ := h world world' worlds
  exact ⟨.ok related, leads⟩

end Alike

end Action

/-! ### Loops that cannot fail -/

/-- The items are taken one after another, each from where those before it have led. -/
theorem run_mapM_cons_eq (work : β → StateM (World σ) α) (item : β) (rest : List β)
    (world : World σ) : StateT.run ((item :: rest).mapM work) world =
      let first := StateT.run (work item) world
      let others := StateT.run (rest.mapM work) first.2
      (first.1 :: others.1, others.2) := by
  rw [List.mapM_cons]
  rfl

/-- One item after another, on both sides. -/
theorem Likeness.Steps.mapM {like : Likeness σ} {work work' : β → StateM (World σ) α}
    (h : ∀ item, like.Steps Eq (StateT.run (work item)) (StateT.run (work' item)))
    (items : List β) :
    like.Steps Eq (StateT.run (items.mapM work)) (StateT.run (items.mapM work')) := by
  induction items with
  | nil => exact fun _ _ worlds => ⟨rfl, worlds.leads⟩
  | cons item rest ih =>
    intro world world' worlds
    have ⟨first, leads⟩ := h item world world' worlds
    have ⟨others, further⟩ := ih _ _ (worlds.of_leads leads)
    rw [run_mapM_cons_eq, run_mapM_cons_eq]
    dsimp only
    rw [first, others]
    exact ⟨rfl, leads.trans further⟩

end Subscription
