import Subscription.Host.Platform
import Subscription.Log
import Subscription.Store.Basic

/-!
# The world a machine works in

A `World` is a state, which stores and hosts read and change, with a `Journal` of what happened: the
events logged, the requests sent, the processors called. An `Environment` says how the world around
the machine behaves: its store, its host, the contract server, and the processors of its services.
Server and processors may answer by all that happened before, so their behaviour is not restricted
in any way; they do not touch the state.
-/

namespace Subscription

/-! ### What happened -/

/-- Something that happened. -/
inductive Occurrence where
  | logged (event : LogEvent)
  | requested (request : Request)
  /-- The processor registered for `kind` was called. -/
  | processed (kind : String) (call : ProcessorCall) (outcome : Except ProcessFailure Unit)
  deriving Repr

/-- What happened so far, in order. -/
abbrev Journal := List Occurrence

namespace Journal

/-- The events that were logged. -/
def events (journal : Journal) : List LogEvent :=
  journal.filterMap fun
    | .logged event => some event
    | _ => none

/-- The requests that were sent. -/
def requests (journal : Journal) : List Request :=
  journal.filterMap fun
    | .requested request => some request
    | _ => none

/-- The calls of processors, each with the type it is registered for and its outcome. -/
def calls (journal : Journal) : List (String × ProcessorCall × Except ProcessFailure Unit) :=
  journal.filterMap fun
    | .processed kind call outcome => some (kind, call, outcome)
    | _ => none

end Journal

/-- A state with the record of what happened. -/
structure World (σ : Type) where
  state : σ
  journal : Journal := []

/-! ### How the surroundings behave -/

/-- What a machine knows about itself. Asking for the machine id may have to make one up. -/
structure Host (σ : Type) where
  platform : σ → Except PlatformError Platform
  machineId : σ → Except PlatformError String × σ × List LogEvent

/-- The contract server: how it answers a request after all that happened before. The events are
what sending the request and taking the answer logged. -/
abbrev Server := Journal → Request → List LogEvent × Except NetworkError Response

/-- The processor of a service: how it takes a call after all that happened before, and what it
logs. -/
abbrev Processor := Journal → ProcessorCall → List LogEvent × Except ProcessFailure Unit

/-- The surroundings of a machine. -/
structure Environment (σ : Type) where
  store : Store σ
  host : Host σ
  server : Server
  /-- The processors by the type of their service. -/
  processors : Keyed Processor

/-! ### Actions in the world -/

variable {σ ε α : Type}

namespace Action

/-- Adds to the journal. -/
def note (occurrences : List Occurrence) : Action (World σ) ε Unit :=
  ofStep fun world => (.ok (), { world with journal := world.journal ++ occurrences })

/-- Logs an event. -/
def log (event : LogEvent) : Action (World σ) ε Unit := note [.logged event]

/-- Work on the state alone. -/
def onState (action : Action σ ε α) : Action (World σ) ε α :=
  ofStep fun world =>
    let (result, state) := action.perform world.state
    (result, { world with state })

/-- A result that is known already. -/
def ofExcept (result : Except ε α) : Action (World σ) ε α := ofStep fun world => (result, world)

end Action

namespace Environment

/-- The platform of the machine. -/
def platform (env : Environment σ) : Action (World σ) PlatformError Platform :=
  .ofStep fun world => (env.host.platform world.state, world)

/-- The id of the machine. -/
def machineId (env : Environment σ) : Action (World σ) PlatformError String :=
  .ofStep fun world =>
    let (result, state, events) := env.host.machineId world.state
    (result, { state, journal := world.journal ++ events.map .logged })

/-- The answer of the server to a request. -/
def send (env : Environment σ) (request : Request) : Action (World σ) NetworkError Response :=
  .ofStep fun world =>
    let (events, result) := env.server world.journal request
    (result, { world with journal := world.journal ++ .requested request :: events.map .logged })

/-- Calls the processor registered for `kind`. -/
def call (processor : Processor) (kind : String) (call : ProcessorCall) :
    Action (World σ) ProcessFailure Unit :=
  .ofStep fun world =>
    let (events, outcome) := processor world.journal call
    (outcome, { world with
      journal := world.journal ++ events.map .logged ++ [.processed kind call outcome] })

end Environment

end Subscription
