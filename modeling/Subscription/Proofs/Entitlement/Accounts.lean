import Subscription.Proofs.Entitlement.Tight
import Subscription.Store.Memory

/-!
# What a result tells about the processors

Bringing a service in line ends in one of six ways, and each of them is told from the records, the
registered types and the platform alone. The result says which one it was: some changes come back
exactly if one processor was called, once, and succeeded; no changes come back exactly if the views
of the two records are equal; and each failure comes back under the conditions of its own, in the
order in which they are looked at. `Access.result_accounts_for_calls` puts the six together.

Each condition leads to its result because nothing else can come of it (`Reconciled.unique`), and
each result leads back to its condition by cases on all that can come of it.
-/

namespace Subscription

namespace Access

variable {σ : Type} {env : Environment σ} {old new : Access} {options : ReconcileOptions}
  {world after : World σ} {result : Except ReconcileError Delta}

/-! ### Calls -/

/-- From one world to the other one processor was called, once: the one registered for `kind`, and
this is what it was told and how it answered. -/
def CalledOnce (world after : World σ) (kind : String) (call : ProcessorCall)
    (outcome : Except ProcessFailure Unit) : Prop :=
  after.journal.calls = world.journal.calls ++ [(kind, call, outcome)]

theorem not_calledOnce (world : World σ) (kind : String) (call : ProcessorCall)
    (outcome : Except ProcessFailure Unit) : ¬CalledOnce world world kind call outcome := by
  simp [CalledOnce]

/-- A call is one call, whatever the processor logs in it. -/
theorem calledOnce_afterCall (processor : Processor) (kind : String) (call : ProcessorCall)
    (world : World σ) :
    CalledOnce world (afterCall processor kind call world) kind call
      (answer processor kind call world) := by
  obtain ⟨events, journal⟩ := journal_afterCall processor kind call world
  rw [CalledOnce, journal]
  simp only [Journal.calls_append, Journal.calls_logged, List.append_nil]
  rfl

/-- There is one way to have called a processor once. -/
theorem CalledOnce.unique {kind kind' : String} {call call' : ProcessorCall}
    {outcome outcome' : Except ProcessFailure Unit} (h : CalledOnce world after kind call outcome)
    (h' : CalledOnce world after kind' call' outcome') :
    kind = kind' ∧ call = call' ∧ outcome = outcome' := by
  have same := List.append_cancel_left (h.symm.trans h')
  simpa using same

/-- A call comes to its changes if the processor succeeds, and to the failure of the processor if it
fails. -/
theorem map_mapError_eq_ok_iff {answered : Except ProcessFailure Unit} {delta delta' : Delta} :
    (answered.mapError ReconcileError.processor).map (fun _ => delta) = .ok delta' ↔
      answered = .ok () ∧ delta = delta' := by
  cases answered <;> simp [Except.map, Except.mapError]

/-- A call comes to a failure exactly if its processor fails. -/
theorem map_mapError_eq_error_iff {answered : Except ProcessFailure Unit} {delta : Delta}
    {failure : ReconcileError} :
    (answered.mapError ReconcileError.processor).map (fun _ => delta) = .error failure ↔
      ∃ cause, answered = .error cause ∧ failure = .processor cause := by
  cases answered <;> simp [Except.map, Except.mapError, eq_comm]

/-- A call comes to no other failure. -/
theorem map_mapError_ne_error {answered : Except ProcessFailure Unit} {delta : Delta}
    {failure : ReconcileError} (other : ∀ cause, failure ≠ .processor cause) :
    (answered.mapError ReconcileError.processor).map (fun _ => delta) ≠ .error failure := by
  intro failed
  obtain ⟨cause, -, same⟩ := map_mapError_eq_error_iff.1 failed
  exact other cause same

/-! ### Conditions -/

/-- The two records are not the same in what counts on machines of the series. -/
structure Differ (env : Environment σ) (old new : Access) (options : ReconcileOptions) (state : σ)
    (series : Option String) : Prop where
  asked : seriesFor env old new options state = .ok series
  differ : (Json.object (old.comparisonView series)).equal (.object (new.comparisonView series)) =
    false

/-- Two records differ exactly if there are changes between them. -/
theorem differ_iff (hold : old.Ordered) (hnew : new.Ordered) {state : σ}
    {series : Option String} : Differ env old new options state series ↔
      seriesFor env old new options state = .ok series ∧
      (old.delta new series).isEmpty = false := by
  rw [isEmpty_delta hold hnew]
  exact ⟨fun ⟨asked, differ⟩ => ⟨asked, differ⟩, fun ⟨asked, differ⟩ => ⟨asked, differ⟩⟩

/-- The platform is asked for the series if overrides are to be put in and there are some. -/
theorem seriesFor_eq_error_iff {state : σ} {cause : PlatformError} :
    seriesFor env old new options state = .error cause ↔
      options.seriesOverrides = true ∧ (old.hasOverrides = true ∨ new.hasOverrides = true) ∧
      env.host.platform state = .error cause := by
  rw [seriesFor]
  split
  · next needed =>
    rw [Bool.and_eq_true, Bool.or_eq_true] at needed
    cases told : env.host.platform state <;> simp [Except.map, needed]
  · next unneeded =>
    rw [Bool.and_eq_true, Bool.or_eq_true] at unneeded
    constructor
    · intro told
      cases told
    · rintro ⟨wanted, overridden, -⟩
      exact absurd ⟨wanted, overridden⟩ unneeded

namespace Reconciled

/-- Only one of the ways is open. -/
theorem unique (h : Reconciled env old new options world result after)
    {result' : Except ReconcileError Delta} {after' : World σ}
    (h' : Reconciled env old new options world result' after') :
    result = result' ∧ after = after' :=
  Prod.mk.inj (h.perform_eq.symm.trans h'.perform_eq)

/-- A platform that is not known is the result exactly if it was needed and could not be told. -/
theorem unplaced_iff (h : Reconciled env old new options world result after)
    (cause : PlatformError) : result = .error (.platform cause) ↔
      seriesFor env old new options world.state = .error cause := by
  constructor
  · intro failed
    cases h with
    | unplaced asked =>
      cases failed
      exact asked
    | unchanged | untyped | unsupported => cases failed
    | called => exact absurd failed (map_mapError_ne_error nofun)
  · exact fun asked => (h.unique (.unplaced asked)).1

/-- No changes are the result exactly if the records do not differ. -/
theorem unchanged_iff (h : Reconciled env old new options world result after) :
    result = .ok { changes := [] } ↔ ∃ series,
      seriesFor env old new options world.state = .ok series ∧
      (old.delta new series).isEmpty = true := by
  constructor
  · intro same
    cases h with
    | unplaced | untyped | unsupported => cases same
    | unchanged asked nothing => exact ⟨_, asked, nothing⟩
    | called asked something _ _ told =>
      obtain ⟨_, empty⟩ := map_mapError_eq_ok_iff.1 same
      subst told
      have nothing : (old.delta new _).isEmpty = true := congrArg Delta.isEmpty empty
      cases something.symm.trans nothing
  · rintro ⟨series, asked, nothing⟩
    have empty : old.delta new series = { changes := [] } := by
      rw [Delta.isEmpty, List.isEmpty_iff] at nothing
      rw [← nothing]
    exact empty ▸ (h.unique (.unchanged asked nothing)).1

/-- A missing type is the result exactly if there are changes and neither they nor the old record
name one. -/
theorem untyped_iff (h : Reconciled env old new options world result after) (a b : Access) :
    result = .error (.missingType a b) ↔ a = old ∧ b = new ∧ ∃ series,
      seriesFor env old new options world.state = .ok series ∧
      (old.delta new series).isEmpty = false ∧
      old.kind?.or (old.delta new series).kind? = none := by
  constructor
  · intro failed
    cases h with
    | untyped asked something unnamed =>
      cases failed
      exact ⟨rfl, rfl, _, asked, something, unnamed⟩
    | unplaced | unchanged | unsupported => cases failed
    | called => exact absurd failed (map_mapError_ne_error nofun)
  · rintro ⟨rfl, rfl, series, asked, something, unnamed⟩
    exact (h.unique (.untyped asked something unnamed)).1

/-- A type without support is the result exactly if there are changes and no processor is registered
for their type. -/
theorem unsupported_iff (h : Reconciled env old new options world result after) (kind : String) :
    result = .error (.unsupportedType kind) ↔ ∃ series,
      seriesFor env old new options world.state = .ok series ∧
      (old.delta new series).isEmpty = false ∧
      old.kind?.or (old.delta new series).kind? = some kind ∧
      env.processors.get? kind = none := by
  constructor
  · intro failed
    cases h with
    | unsupported asked something named unregistered =>
      cases failed
      exact ⟨_, asked, something, named, unregistered⟩
    | unplaced | unchanged | untyped => cases failed
    | called => exact absurd failed (map_mapError_ne_error nofun)
  · rintro ⟨series, asked, something, named, unregistered⟩
    exact (h.unique (.unsupported asked something named unregistered)).1

/-- Where a processor was called once, this is how it came about and what came of it. -/
theorem of_calledOnce (h : Reconciled env old new options world result after) {kind : String}
    {call : ProcessorCall} {outcome : Except ProcessFailure Unit}
    (once : CalledOnce world after kind call outcome) : ∃ series processor,
      seriesFor env old new options world.state = .ok series ∧ call.delta.isEmpty = false ∧
      call = { old, delta := old.delta new series, allowEnable := options.allowEnable } ∧
      old.kind?.or call.delta.kind? = some kind ∧
      env.processors.get? kind = some processor ∧ outcome = answer processor kind call world ∧
      result = (outcome.mapError .processor).map fun _ => call.delta := by
  cases h with
  | unplaced | unchanged | untyped | unsupported => exact absurd once (not_calledOnce _ _ _ _)
  | @called series _ processor _ asked something named registered told =>
    obtain ⟨rfl, rfl, rfl⟩ := once.unique (calledOnce_afterCall processor _ _ world)
    subst told
    exact ⟨series, processor, asked, something, rfl, named, registered, rfl, rfl⟩

/-- Some changes come back exactly from a processor that was called once and succeeded. -/
theorem changed_iff (h : Reconciled env old new options world result after) (delta : Delta) :
    result = .ok delta ∧ delta.isEmpty = false ↔
      ∃ kind call, CalledOnce world after kind call (.ok ()) ∧ call.delta = delta := by
  constructor
  · rintro ⟨same, something⟩
    cases h with
    | unplaced | untyped | unsupported => cases same
    | unchanged _ nothing =>
      cases same
      cases nothing.symm.trans something
    | @called _ kind processor call =>
      obtain ⟨answered, rfl⟩ := map_mapError_eq_ok_iff.1 same
      have once := calledOnce_afterCall processor kind call world
      rw [answered] at once
      exact ⟨kind, call, once, rfl⟩
  · rintro ⟨kind, call, once, rfl⟩
    obtain ⟨_, _, _, something, _, _, _, _, same⟩ := h.of_calledOnce once
    exact ⟨same, something⟩

/-- The failure of a processor comes back exactly from a processor that was called once and failed,
as it is. -/
theorem failed_iff (h : Reconciled env old new options world result after)
    (cause : ProcessFailure) : result = .error (.processor cause) ↔
      ∃ kind call, CalledOnce world after kind call (.error cause) := by
  constructor
  · intro failed
    cases h with
    | unplaced | unchanged | untyped | unsupported => cases failed
    | @called _ kind processor call =>
      obtain ⟨_, answered, same⟩ := map_mapError_eq_error_iff.1 failed
      cases same
      have once := calledOnce_afterCall processor kind call world
      rw [answered] at once
      exact ⟨kind, call, once⟩
  · rintro ⟨kind, call, once⟩
    obtain ⟨_, _, _, _, _, _, _, _, same⟩ := h.of_calledOnce once
    exact same

/-- In all other cases nothing was done. -/
theorem eq_of_unchanged (h : Reconciled env old new options world result after)
    (unchanged : ∀ delta, result = .ok delta → delta.isEmpty = true)
    (unfailed : ∀ cause, result ≠ .error (.processor cause)) : after = world := by
  cases h with
  | unplaced | unchanged | untyped | unsupported => rfl
  | @called _ kind processor call _ something _ _ told =>
    cases answered : answer processor kind call world with
    | ok =>
      have nothing := unchanged call.delta (map_mapError_eq_ok_iff.2 ⟨answered, rfl⟩)
      rw [told] at nothing
      cases something.symm.trans nothing
    | error cause =>
      exact absurd (map_mapError_eq_error_iff.2 ⟨cause, answered, rfl⟩) (unfailed cause)

end Reconciled

/-! ### The account -/

/-- What the result says about what was done, and what had to hold for it. -/
structure Accounted (env : Environment σ) (old new : Access) (options : ReconcileOptions)
    (world : World σ) (result : Except ReconcileError Delta) (after : World σ) : Prop where
  /-- Some changes come back exactly if one processor was called, once, and succeeded. It was told
  these changes. -/
  changed_iff : ∀ delta, result = .ok delta ∧ delta.isEmpty = false ↔
    ∃ kind call, CalledOnce world after kind call (.ok ()) ∧ call.delta = delta
  /-- The processor that was called is the one registered for the type of the old record, or else
  for the type in the changes. It was told the old record as it stands, what changed from view to
  view, and whether it may enable the service. -/
  called : ∀ kind call outcome, CalledOnce world after kind call outcome →
    ∃ series processor, Differ env old new options world.state series ∧
      call = { old, delta := old.delta new series, allowEnable := options.allowEnable } ∧
      old.kind?.or call.delta.kind? = some kind ∧
      env.processors.get? kind = some processor ∧ outcome = answer processor kind call world
  /-- No changes come back exactly if the views are equal. -/
  unchanged_iff : result = .ok { changes := [] } ↔ ∃ series,
    seriesFor env old new options world.state = .ok series ∧
    (Json.object (old.comparisonView series)).equal (.object (new.comparisonView series)) = true
  /-- The platform is at fault exactly if it does not tell the series although there are overrides
  to be put in. -/
  unplaced_iff : ∀ cause, result = .error (.platform cause) ↔
    options.seriesOverrides = true ∧ (old.hasOverrides = true ∨ new.hasOverrides = true) ∧
    env.host.platform world.state = .error cause
  /-- The type is missing exactly if the views differ, and neither the old record nor the changes
  name it. -/
  untyped_iff : ∀ a b, result = .error (.missingType a b) ↔ a = old ∧ b = new ∧ ∃ series,
    Differ env old new options world.state series ∧
    old.kind?.or (old.delta new series).kind? = none
  /-- The type is not supported exactly if the views differ, and nothing is registered for it. -/
  unsupported_iff : ∀ kind, result = .error (.unsupportedType kind) ↔ ∃ series,
    Differ env old new options world.state series ∧
    old.kind?.or (old.delta new series).kind? = some kind ∧ env.processors.get? kind = none
  /-- The failure of a processor comes back, as it is, exactly if one processor was called, once,
  and failed so. -/
  failed_iff : ∀ cause, result = .error (.processor cause) ↔
    ∃ kind call, CalledOnce world after kind call (.error cause)
  /-- Without changes and without the failure of a processor nothing was done at all. -/
  untouched : (∀ delta, result = .ok delta → delta.isEmpty = true) →
    (∀ cause, result ≠ .error (.processor cause)) → after = world

/-- **The result accounts for the calls.** Whatever the records, the processors and the platform,
the changes of a service are handed over once or not at all, and the result tells which and why. -/
theorem result_accounts_for_calls (env : Environment σ) (hold : old.Ordered) (hnew : new.Ordered)
    (options : ReconcileOptions) (world : World σ) :
    Accounted env old new options world ((reconcile env old new options).perform world).1
      ((reconcile env old new options).perform world).2 := by
  have h := reconciled env old new options world
  have differs {series : Option String} : Differ env old new options world.state series ↔ _ :=
    differ_iff hold hnew
  refine ⟨h.changed_iff, fun kind call outcome once => ?_, ?_, fun cause => ?_, fun a b => ?_,
    fun kind => ?_, h.failed_iff, h.eq_of_unchanged⟩
  · obtain ⟨series, processor, asked, something, told, named, registered, answered, -⟩ :=
      h.of_calledOnce once
    rw [told] at something
    exact ⟨series, processor, differs.2 ⟨asked, something⟩, told, named, registered, answered⟩
  · simp only [h.unchanged_iff, isEmpty_delta hold hnew]
  · rw [h.unplaced_iff, seriesFor_eq_error_iff]
  · simp only [h.untyped_iff, differs, and_assoc]
  · simp only [h.unsupported_iff, differs, and_assoc]

/-- A machine on the series `noble` with these processors. -/
def nobleMachine (processors : Keyed Processor) : Environment (Keyed Json) where
  store := .memory
  host := {
    platform := fun _ => .ok {
      arch := "x86_64", kernel := "6.8.0", series := "noble", distribution := "Ubuntu",
      release := "24.04" }
    machineId := fun entries => (.ok "machine", entries, []) }
  server _ _ := ([], .ok { body := .null, headers := [] })
  processors

/-- A tier without a type, which is another one on `noble`. -/
def untypedTier : Access :=
  ofEntitlement {
    series := [("noble", [("tier", .string "beta")])]
    fields := [("tier", .string "stable")] }

/-- The tier of an archive, which is a mirror on `noble`. -/
def mirrorTier : Access :=
  ofEntitlement {
    kind := some "archive"
    series := [("noble", [("type", .string "mirror")])]
    fields := [("tier", .string "beta")] }

theorem ordered_untypedTier : untypedTier.Ordered := by
  rintro record ⟨⟩
  exact ⟨by decide, by decide⟩

theorem ordered_mirrorTier : mirrorTier.Ordered := by
  rintro record ⟨⟩
  exact ⟨by decide, by decide⟩

/-- The tier is the same on `noble`, and the type that comes with the changes is that of the mirror,
so the mirror is told and the archive is not. -/
theorem result_accounts_for_calls_mirror :
    let env := nobleMachine [("archive", fun _ _ => ([], .error (.forOperator "busy"))),
      ("mirror", fun _ _ => ([], .ok ()))]
    let after := ((reconcile env untypedTier mirrorTier {}).perform { state := [] }).2
    untypedTier.Ordered ∧ mirrorTier.Ordered ∧
    ∃ call, CalledOnce { state := [] } after "mirror" call (.ok ()) ∧
      call.delta = { changes := [("type", .value (.string "mirror"))] } := by
  intro env after
  have account := result_accounts_for_calls env ordered_untypedTier ordered_mirrorTier {}
    { state := [] }
  obtain ⟨kind, call, once, told⟩ :=
    (account.changed_iff { changes := [("type", .value (.string "mirror"))] }).1 ⟨rfl, rfl⟩
  obtain ⟨_, _, _, _, named, _⟩ := account.called kind call _ once
  rw [told] at named
  obtain rfl : "mirror" = kind := Option.some.inj named
  exact ⟨ordered_untypedTier, ordered_mirrorTier, call, once, told⟩

end Access

end Subscription
