import Subscription.Proofs.Entitlement.Patch
import Subscription.Proofs.Entitlement.Reconcile

/-!
# What a processor is handed

A processor only ever sees changes. `Journal.patched` is the record that it would hold if it had
made all the changes handed to it, from nothing. Bringing a service in line adds exactly the changes
of its record, and adds nothing for any other type (`Access.Reconciled.patched`).
-/

namespace Subscription

/-! ### Changes put together -/

namespace Journal

/-- The changes handed to the processor registered for `kind`, in order. -/
def handed (kind : String) (journal : Journal) : List Changes :=
  journal.calls.filterMap fun (called, call, _) =>
    if called = kind then some call.delta.changes else none

/-- What all the changes handed to the processor make of the empty object. -/
def patched (kind : String) (journal : Journal) : Keyed Json :=
  (journal.handed kind).foldl Changes.patch []

variable {kind : String}

theorem patched_of_calls_eq {a b : Journal} (h : a.calls = b.calls) :
    a.patched kind = b.patched kind := by
  rw [patched, patched, handed, handed, h]

theorem patched_append_logged (journal : Journal) (events : List LogEvent) :
    patched kind (journal ++ events.map .logged) = journal.patched kind :=
  patched_of_calls_eq (by rw [calls_append, calls_logged, List.append_nil])

/-- A call adds its changes for its own type only. -/
theorem patched_append_processed (journal : Journal) (called : String) (call : ProcessorCall)
    (outcome : Except ProcessFailure Unit) :
    patched kind (journal ++ [.processed called call outcome]) =
      if called = kind then Changes.patch (journal.patched kind) call.delta.changes
      else journal.patched kind := by
  have last : calls [.processed called call outcome] = [(called, call, outcome)] := rfl
  rw [patched, patched, handed, handed, calls_append, last, List.filterMap_append,
    List.foldl_append]
  split
  · next same => simp [same]
  · next other => simp [other]

end Journal

/-! ### One service -/

namespace Access

variable {σ : Type} {env : Environment σ} {old new : Access} {options : ReconcileOptions}
  {world after : World σ} {platform : Platform}

/-- Where the platform is known its series may be used throughout: without it the records have no
overrides, and are the same on every series. -/
theorem delta_of_seriesFor {series : Option String} (overrides : options.seriesOverrides = true)
    (placed : env.host.platform world.state = .ok platform)
    (asked : seriesFor env old new options world.state = .ok series) :
    old.delta new series = old.delta new (some platform.series) := by
  rw [seriesFor, overrides, Bool.true_and] at asked
  split at asked
  · rw [placed] at asked
    obtain rfl := Except.ok.inj asked
    rfl
  · next plain =>
    -- The platform was not asked, because neither record has overrides.
    obtain ⟨plainOld, plainNew⟩ : old.hasOverrides = false ∧ new.hasOverrides = false := by
      simpa using plain
    obtain rfl := Except.ok.inj asked
    rw [delta, comparisonView_of_not_hasOverrides plainOld platform.series,
      comparisonView_of_not_hasOverrides plainNew platform.series, delta]

/-- A service of a registered type is handed what changed, and nothing when nothing did. No other
processor is handed anything. -/
theorem Reconciled.patched {result : Except ReconcileError Delta}
    (h : Reconciled env old new options world result after)
    (overrides : options.seriesOverrides = true)
    (placed : env.host.platform world.state = .ok platform) {own : Option String}
    (named : old.kind?.or (old.delta new (some platform.series)).kind? = own) {kind : String}
    (registered : (env.processors.get? kind).isSome) :
    after.journal.patched kind =
      if own = some kind then
        Changes.patch (world.journal.patched kind) (old.delta new (some platform.series)).changes
      else world.journal.patched kind := by
  have known {series : Option String}
      (asked : seriesFor env old new options world.state = .ok series) :
      old.delta new (some platform.series) = old.delta new series :=
    (delta_of_seriesFor overrides placed asked).symm
  subst named
  -- Only a call hands changes over. Otherwise there are none, or no processor is registered for
  -- them.
  cases h with
  | unplaced asked =>
    rw [seriesFor, placed] at asked
    split at asked <;> cases asked
  | unchanged asked nothing =>
    rw [known asked, List.isEmpty_iff.1 nothing, Changes.patch_nil, ite_self]
  | untyped asked something unnamed =>
    rw [known asked, unnamed, if_neg (Option.some_ne_none kind).symm]
  | unsupported asked something named unregistered =>
    rw [known asked, named, if_neg]
    rintro ⟨⟩
    rw [unregistered] at registered
    cases registered
  | @called series called processor call asked something named _ told =>
    rw [known asked, named, afterCall, Journal.patched_append_processed,
      Journal.patched_append_logged, ← List.map_singleton (f := Occurrence.logged),
      Journal.patched_append_logged, told]
    simp only [Option.some.injEq]

end Access

end Subscription
