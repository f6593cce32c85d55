import Subscription.Proofs.Journal
import Subscription.Proofs.Entitlement.View

/-!
# What bringing a service in line comes to

`Access.Reconciled` lists all that `Access.reconcile` can come to, with the conditions and the world
left behind: a failure before any processor is asked, no change, or the one call of a processor. All
that is said about the processors of a machine is read off this list. Under the conditions of an
item it comes to that item (`Reconciled.perform_eq`), and because the conditions of one of them
hold, nothing else comes of it (`reconciled`).
-/

namespace Subscription

namespace Access

variable {σ : Type}

/-- The release series whose overrides count, if the platform has to be asked for it at all. -/
def seriesFor (env : Environment σ) (old new : Access) (options : ReconcileOptions) (state : σ) :
    Except PlatformError (Option String) :=
  if options.seriesOverrides && (old.hasOverrides || new.hasOverrides) then
    (env.host.platform state).map fun platform => some platform.series
  else .ok none

theorem perform_overridingSeries (env : Environment σ) (old new : Access)
    (options : ReconcileOptions) (world : World σ) :
    (overridingSeries env old new options).perform world =
      (seriesFor env old new options world.state, world) := by
  rw [overridingSeries, seriesFor]
  split
  · rw [Action.perform_bind, Environment.perform_platform]
    cases env.host.platform world.state <;> rfl
  · rfl

/-- Where the series is known, all goes on from it in the same world. -/
private theorem perform_overridingSeries_bind {env : Environment σ} {old new : Access}
    {options : ReconcileOptions} {world : World σ} {series : Option String}
    (asked : seriesFor env old new options world.state = .ok series)
    (next : Option String → Action (World σ) ReconcileError Delta) :
    ((overridingSeries env old new options).failingAs .platform >>= next).perform world =
      (next series).perform world := by
  have known := perform_overridingSeries env old new options world
  rw [asked] at known
  exact Action.perform_bind_of_ok (Action.perform_failingAs_of_ok known _) next

/-- The world after the processor registered for `kind` was called, which is logged first. -/
def afterCall (processor : Processor) (kind : String) (call : ProcessorCall) (world : World σ) :
    World σ :=
  let told := world.journal ++ [.logged (.processing kind call.delta)]
  { world with journal := told ++ (processor told call).1.map .logged ++
      [.processed kind call (processor told call).2] }

/-- How the processor registered for `kind` takes the call. -/
def answer (processor : Processor) (kind : String) (call : ProcessorCall) (world : World σ) :
    Except ProcessFailure Unit :=
  (processor (world.journal ++ [.logged (.processing kind call.delta)]) call).2

/-- A call adds itself to the journal, after what is logged before it and by the processor. -/
theorem journal_afterCall (processor : Processor) (kind : String) (call : ProcessorCall)
    (world : World σ) : ∃ events : List LogEvent,
      (afterCall processor kind call world).journal = world.journal ++
        ([.logged (.processing kind call.delta)] ++ events.map .logged ++
          [.processed kind call (answer processor kind call world)]) :=
  ⟨_, by simp only [afterCall, answer, List.append_assoc]; rfl⟩

private theorem perform_handOver (processor : Processor) (kind : String) (call : ProcessorCall)
    (world : World σ) :
    (do
      Action.log (.processing kind call.delta)
      (Environment.call processor kind call).failingAs ReconcileError.processor
      return call.delta : Action (World σ) ReconcileError Delta).perform world =
      (((answer processor kind call world).mapError .processor).map fun _ => call.delta,
        afterCall processor kind call world) := by
  rw [Action.perform_bind, Action.perform_log]
  dsimp only
  rw [Action.perform_bind, Action.perform_failingAs, Environment.perform_call, answer, afterCall]
  cases (processor (world.journal ++ [.logged (.processing kind call.delta)]) call).2 <;> rfl

/-- All that bringing a service in line can come to, with the world it leaves. -/
inductive Reconciled (env : Environment σ) (old new : Access) (options : ReconcileOptions)
    (world : World σ) : Except ReconcileError Delta → World σ → Prop
  /-- The series is needed, and the platform does not tell. -/
  | unplaced {cause : PlatformError}
      (asked : seriesFor env old new options world.state = .error cause) :
      Reconciled env old new options world (.error (.platform cause)) world
  | unchanged {series : Option String}
      (asked : seriesFor env old new options world.state = .ok series)
      (nothing : (old.delta new series).isEmpty = true) :
      Reconciled env old new options world (.ok (old.delta new series)) world
  | untyped {series : Option String}
      (asked : seriesFor env old new options world.state = .ok series)
      (something : (old.delta new series).isEmpty = false)
      (unnamed : old.kind?.or (old.delta new series).kind? = none) :
      Reconciled env old new options world (.error (.missingType old new)) world
  | unsupported {series : Option String} {kind : String}
      (asked : seriesFor env old new options world.state = .ok series)
      (something : (old.delta new series).isEmpty = false)
      (named : old.kind?.or (old.delta new series).kind? = some kind)
      (unregistered : env.processors.get? kind = none) :
      Reconciled env old new options world (.error (.unsupportedType kind)) world
  | called {series : Option String} {kind : String} {processor : Processor} {call : ProcessorCall}
      (asked : seriesFor env old new options world.state = .ok series)
      (something : (old.delta new series).isEmpty = false)
      (named : old.kind?.or (old.delta new series).kind? = some kind)
      (registered : env.processors.get? kind = some processor)
      (told : call = { old, delta := old.delta new series, allowEnable := options.allowEnable }) :
      Reconciled env old new options world
        (((answer processor kind call world).mapError .processor).map fun _ => call.delta)
        (afterCall processor kind call world)

/-- Under the conditions of each of them it comes to that. -/
theorem Reconciled.perform_eq {env : Environment σ} {old new : Access} {options : ReconcileOptions}
    {world after : World σ} {result : Except ReconcileError Delta}
    (h : Reconciled env old new options world result after) :
    (reconcile env old new options).perform world = (result, after) := by
  rw [reconcile]
  -- Each condition decides one branch, and what it says of the others passes those above.
  cases h with
  | unplaced asked =>
    have unplaced := perform_overridingSeries env old new options world
    rw [asked] at unplaced
    rw [Action.perform_bind_of_error (Action.perform_failingAs_of_error unplaced _)]
  | unchanged asked nothing =>
    rw [perform_overridingSeries_bind asked]
    dsimp only
    rw [if_pos nothing]
    rfl
  | untyped asked something unnamed =>
    rw [perform_overridingSeries_bind asked]
    dsimp only
    rw [if_neg (Bool.eq_false_iff.1 something), unnamed]
    rfl
  | unsupported asked something named unregistered =>
    rw [perform_overridingSeries_bind asked]
    dsimp only
    rw [if_neg (Bool.eq_false_iff.1 something), named]
    dsimp only
    rw [unregistered]
    rfl
  | called asked something named registered told =>
    rw [perform_overridingSeries_bind asked]
    dsimp only
    rw [if_neg (Bool.eq_false_iff.1 something), named]
    dsimp only
    rw [registered, told]
    exact perform_handOver _ _ _ world

/-- The conditions of one of them hold. -/
private theorem exists_reconciled (env : Environment σ) (old new : Access)
    (options : ReconcileOptions) (world : World σ) :
    ∃ result after, Reconciled env old new options world result after := by
  cases asked : seriesFor env old new options world.state with
  | error cause => exact ⟨_, _, .unplaced asked⟩
  | ok series =>
    cases nothing : (old.delta new series).isEmpty with
    | true => exact ⟨_, _, .unchanged asked nothing⟩
    | false =>
      cases named : old.kind?.or (old.delta new series).kind? with
      | none => exact ⟨_, _, .untyped asked nothing named⟩
      | some kind =>
        cases registered : env.processors.get? kind with
        | none => exact ⟨_, _, .unsupported asked nothing named registered⟩
        | some processor => exact ⟨_, _, .called asked nothing named registered rfl⟩

/-- Nothing else comes of it. -/
theorem reconciled (env : Environment σ) (old new : Access) (options : ReconcileOptions)
    (world : World σ) :
    Reconciled env old new options world ((reconcile env old new options).perform world).1
      ((reconcile env old new options).perform world).2 := by
  obtain ⟨result, after, h⟩ := exists_reconciled env old new options world
  rw [h.perform_eq]
  exact h

/-- Bringing a service in line sends no request and leaves the state alone. -/
theorem Reconciled.offline {env : Environment σ} {old new : Access} {options : ReconcileOptions}
    {world after : World σ} {result : Except ReconcileError Delta}
    (h : Reconciled env old new options world result after) : World.Offline world after := by
  cases h with
  | unplaced | unchanged | untyped | unsupported => exact .refl world
  | called =>
    exact ((World.Offline.of_logged world [_]).trans (.of_logged _ _)).trans (.of_news _ rfl)

end Access

end Subscription
