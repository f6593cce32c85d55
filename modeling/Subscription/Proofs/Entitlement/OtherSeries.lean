import Subscription.Proofs.Entitlement.Handed
import Subscription.Proofs.Entitlement.Leaves
import Subscription.Proofs.Entitlement.Naming

/-!
# Overrides for other series do not count

Two records agree on a series if they are the same but for their fragments for other series. On a
machine of the series they are viewed alike (`Access.AgreeOn.comparisonView_eq`), whether or not
there are any fragments left that make the platform be asked, and the raw type is the same on both
sides. So nothing that is decided on the way depends on the other fragments: the same changes are
found, and they go to the same processor or fail in the same way
(`Access.other_series_do_not_count`). The processor is told the old record as it stands, other
fragments included; what it makes of them is its own business.
-/

namespace Subscription

/-! ### Records that agree -/

/-- The records are the same but for their fragments for other series. -/
structure Entitlement.AgreeOn (series : String) (record record' : Entitlement) : Prop where
  kind : record.kind = record'.kind
  entitled : record.entitled = record'.entitled
  fragment : record.series.get? series = record'.series.get? series
  fields : record.fields = record'.fields

theorem Entitlement.AgreeOn.forSeries_eq {series : String} {record record' : Entitlement}
    (h : AgreeOn series record record') : record.forSeries series = record'.forSeries series := by
  rw [forSeries, forSeries, h.kind, h.entitled, h.fragment, h.fields]

namespace Access

/-- The access records are the same but for fragments for other series. -/
structure AgreeOn (series : String) (access access' : Access) : Prop where
  entitlement : Option.Rel (Entitlement.AgreeOn series) access.entitlement access'.entitlement
  extra : access.extra = access'.extra

namespace AgreeOn

variable {series : String} {access access' : Access}

theorem kind?_eq (h : AgreeOn series access access') : access.kind? = access'.kind? := by
  obtain ⟨entitlement, extra⟩ := access
  obtain ⟨entitlement', extra'⟩ := access'
  obtain ⟨same, -⟩ := h
  cases same with
  | none => rfl
  | some agree => exact agree.kind

/-- Records that agree are viewed alike on machines of the series. -/
theorem comparisonView_eq (h : AgreeOn series access access') :
    access.comparisonView (some series) = access'.comparisonView (some series) := by
  obtain ⟨entitlement, extra⟩ := access
  obtain ⟨entitlement', extra'⟩ := access'
  obtain ⟨same, -⟩ := h
  cases same with
  | none => rfl
  | some agree => exact congrArg Entitlement.members agree.forSeries_eq

end AgreeOn

/-! ### Nothing but the series counts -/

theorem get?_series_comparisonView {access : Access} (h : access.WellFormed) (series : String) :
    (access.comparisonView (some series)).get? "series" = none := by
  obtain ⟨_ | record, extra⟩ := access
  · rfl
  · exact (h record rfl).get?_series_forSeries series

/-- The series table is never among the changes on machines of a series. -/
theorem get?_series_delta {old new : Access} (hold : old.WellFormed) (hnew : new.WellFormed)
    (series : String) : (old.delta new (some series)).get? "series" = none := by
  have keys := ((Json.sorted_object_iff _).1 (sorted_comparisonView hnew.ordered (some series))).1
  refine (Changes.get?_between keys _ _).trans ?_
  rw [get?_series_comparisonView hold, get?_series_comparisonView hnew]
  rfl

variable {σ : Type} {env : Environment σ} {old old' new new' : Access}
  {options : ReconcileOptions} {world : World σ} {platform : Platform}

/-- What comes of two pairs of records that lead to the same changes: the changes are none, or their
type is unknown or not supported on both sides, or the same processor is called for them, once on
either side. The calls differ in nothing but the old record, and the result is up to the answer. -/
inductive ReconciledAlike (env : Environment σ) (old new old' new' : Access)
    (options : ReconcileOptions) (world : World σ) (delta : Delta) :
    Except ReconcileError Delta × World σ → Except ReconcileError Delta × World σ → Prop
  | unchanged (nothing : delta.isEmpty = true) :
      ReconciledAlike env old new old' new' options world delta (.ok delta, world)
        (.ok delta, world)
  | untyped (something : delta.isEmpty = false) (unnamed : old.kind?.or delta.kind? = none) :
      ReconciledAlike env old new old' new' options world delta
        (.error (.missingType old new), world) (.error (.missingType old' new'), world)
  | unsupported {kind : String} (something : delta.isEmpty = false)
      (named : old.kind?.or delta.kind? = some kind)
      (unregistered : env.processors.get? kind = none) :
      ReconciledAlike env old new old' new' options world delta
        (.error (.unsupportedType kind), world) (.error (.unsupportedType kind), world)
  | called {kind : String} {processor : Processor} {call call' : ProcessorCall}
      {outcome outcome' : Except ProcessFailure Unit} {after after' : World σ}
      (something : delta.isEmpty = false) (named : old.kind?.or delta.kind? = some kind)
      (registered : env.processors.get? kind = some processor)
      (told : call = { old, delta, allowEnable := options.allowEnable })
      (told' : call' = { old := old', delta, allowEnable := options.allowEnable })
      (answered : outcome = answer processor kind call world)
      (answered' : outcome' = answer processor kind call' world)
      (once : CalledOnce world after kind call outcome)
      (once' : CalledOnce world after' kind call' outcome') :
      ReconciledAlike env old new old' new' options world delta
        ((outcome.mapError .processor).map fun _ => delta, after)
        ((outcome'.mapError .processor).map fun _ => delta, after')

/-- **Overrides for other series do not count.** On a machine of a known series, two old records
that agree on it and two new ones that do come to the same changes, which never speak of the series
table, and to the same end up to the answer of the processor. -/
theorem other_series_do_not_count (hold : old.Decoded) (hnew : new.Decoded)
    (sameOld : AgreeOn platform.series old old') (sameNew : AgreeOn platform.series new new')
    (overrides : options.seriesOverrides = true)
    (placed : env.host.platform world.state = .ok platform) :
    (old.delta new (some platform.series)).get? "series" = none ∧
    ReconciledAlike env old new old' new' options world (old.delta new (some platform.series))
      ((reconcile env old new options).perform world)
      ((reconcile env old' new' options).perform world) := by
  refine ⟨get?_series_delta hold.wellFormed hnew.wellFormed _, ?_⟩
  -- The second pair may lack the fragments that make the platform be asked for the first, and come
  -- to its changes by the other way; these are the changes on the series all the same.
  have asked' : seriesFor env old' new' options world.state = .ok _ := seriesFor_of_placed placed
  have changes' := delta_of_seriesFor overrides placed asked'
  have agree : old'.delta new' (some platform.series) = old.delta new (some platform.series) := by
    rw [delta, delta, sameOld.comparisonView_eq, sameNew.comparisonView_eq]
  rw [agree] at changes'
  have h := reconciled env old new options world
  generalize (reconcile env old new options).perform world = performed at h ⊢
  obtain ⟨result, after⟩ := performed
  dsimp only at h
  cases h with
  | unplaced asked => cases (seriesFor_of_placed placed).symm.trans asked
  | unchanged asked nothing =>
    rw [delta_of_seriesFor overrides placed asked] at nothing ⊢
    rw [(Reconciled.unchanged asked' (by rwa [changes'])).perform_eq, changes']
    exact .unchanged nothing
  | untyped asked something unnamed =>
    rw [delta_of_seriesFor overrides placed asked] at something unnamed
    rw [(Reconciled.untyped asked' (by rwa [changes'])
      (by rwa [changes', ← sameOld.kind?_eq])).perform_eq]
    exact .untyped something unnamed
  | unsupported asked something named unregistered =>
    rw [delta_of_seriesFor overrides placed asked] at something named
    rw [(Reconciled.unsupported asked' (by rwa [changes'])
      (by rwa [changes', ← sameOld.kind?_eq]) unregistered).perform_eq]
    exact .unsupported something named unregistered
  | called asked something named registered told =>
    rw [delta_of_seriesFor overrides placed asked] at something named told
    rw [(Reconciled.called asked' (by rwa [changes']) (by rwa [changes', ← sameOld.kind?_eq])
      registered rfl).perform_eq, changes', told]
    exact .called something named registered rfl rfl rfl rfl (calledOnce_afterCall _ _ _ _)
      (calledOnce_afterCall _ _ _ _)

/-- A tier of the service `livepatch`, with fragments for some series. -/
def livepatchTier (tier : String) (series : Keyed (Keyed Json)) : Access :=
  ofEntitlement { kind := some "livepatch", series, fields := [("tier", .string tier)] }

/-- On `noble` it does not count that another series has another tier and even another type: without
these fragments the platform is not asked, and the same changes go to the same processor. -/
theorem other_series_do_not_count_jammy :
    let env := nobleMachine [("livepatch", fun _ _ => ([], .ok ()))]
    let old := livepatchTier "stable"
      [("jammy", [("tier", .string "beta"), ("type", .string "mirror")])]
    let old' := livepatchTier "stable" []
    let new := livepatchTier "edge" []
    old.Decoded ∧ new.Decoded ∧ AgreeOn "noble" old old' ∧ AgreeOn "noble" new new ∧
    (∃ platform, env.host.platform [] = .ok platform ∧ platform.series = "noble") ∧
    ReconciledAlike env old new old' new {} { state := [] }
      { changes := [("tier", .value (.string "edge"))] }
      ((reconcile env old new {}).perform { state := [] })
      ((reconcile env old' new {}).perform { state := [] }) := by
  intro env old old' new
  have hold : old.Decoded := ⟨old.toJson, by decide, rfl⟩
  have hnew : new.Decoded := ⟨new.toJson, by decide, rfl⟩
  have sameOld : AgreeOn "noble" old old' := ⟨.some ⟨rfl, rfl, rfl, rfl⟩, rfl⟩
  have sameNew : AgreeOn "noble" new new := ⟨.some ⟨rfl, rfl, rfl, rfl⟩, rfl⟩
  obtain ⟨platform, placed, onNoble⟩ :
      ∃ platform, env.host.platform [] = .ok platform ∧ platform.series = "noble" := ⟨_, rfl, rfl⟩
  rw [← onNoble] at sameOld sameNew
  have alike : ReconciledAlike env old new old' new {} { state := [] }
      (old.delta new (some platform.series)) _ _ :=
    (other_series_do_not_count hold hnew sameOld sameNew rfl placed).2
  have changes : old.delta new (some platform.series) =
      { changes := [("tier", .value (.string "edge"))] } := by
    rw [onNoble]
    rfl
  rw [changes] at alike
  exact ⟨hold, hnew, onNoble ▸ sameOld, onNoble ▸ sameNew, ⟨platform, placed, onNoble⟩, alike⟩

end Access

end Subscription
