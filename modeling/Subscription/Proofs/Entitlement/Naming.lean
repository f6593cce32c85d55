import Subscription.Proofs.Entitlement.Accounts

/-!
# The type of a service

Changes are handed to the processor of a type, and the type is that of the old record, or else the
one that the changes bring in (`Access.kind?_delta`). A record may have its type from its fragment
for a series alone. If this is the old record, and the new one is of the same type on machines of
the series, then neither source names the type: the old record is asked without its fragments, and
the changes are between views with the type in both of them. This is the only way in which a type
that one of the records has is missed (`Access.type_is_missed_iff`).
-/

namespace Subscription

namespace Access

/-! ### The type in a view -/

/-- The type that the access is viewed with: on machines of a series that of the fragment for it, if
there is one, and else its own. -/
def viewedKind (access : Access) (series : Option String) : Option String :=
  access.entitlement.bind fun record => (series.elim record record.forSeries).kind

theorem get?_type_comparisonView {access : Access} (h : access.WellFormed)
    (series : Option String) :
    (access.comparisonView series).get? "type" = (access.viewedKind series).map .string := by
  obtain ⟨_ | record, extra⟩ := access
  · rfl
  · have wellFormed := h record rfl
    cases series with
    | none => exact wellFormed.get?_type_members
    | some series => exact (wellFormed.forSeries series).get?_type_members

/-- A fragment gives a type but takes none away. -/
theorem viewedKind_ne_none {access : Access} (h : access.kind? ≠ none) (series : Option String) :
    access.viewedKind series ≠ none := by
  obtain ⟨_ | record, extra⟩ := access
  · exact absurd rfl h
  · cases series with
    | none => exact h
    | some series =>
      have own : record.kind ≠ none := h
      simp [viewedKind, Entitlement.forSeries, own]

/-- Without overrides an access is viewed with its own type. -/
theorem viewedKind_of_not_hasOverrides {access : Access} (h : access.hasOverrides = false)
    (series : Option String) : access.viewedKind series = access.kind? := by
  obtain ⟨_ | record, extra⟩ := access
  · rfl
  · have empty : record.series = [] := by simpa [hasOverrides] using h
    cases series with
    | none => rfl
    | some series =>
      exact congrArg Entitlement.kind (record.forSeries_of_series_eq_nil empty series)

variable {old new : Access}

/-- The changes name the type that the new record is viewed with, unless the old one is viewed with
the same. -/
theorem kind?_delta (hold : old.WellFormed) (hnew : new.WellFormed) (series : Option String) :
    (old.delta new series).kind? =
      if old.viewedKind series = new.viewedKind series then none else new.viewedKind series := by
  have keys := ((Json.sorted_object_iff _).1 (sorted_comparisonView hnew.ordered series)).1
  have change : (old.delta new series).get? "type" = _ :=
    Changes.get?_between keys (old.comparisonView series) "type"
  rw [get?_type_comparisonView hold, get?_type_comparisonView hnew] at change
  rw [Delta.kind?, change]
  cases new.viewedKind series with
  | none => cases old.viewedKind series <;> simp
  | some kind =>
    rw [Option.map_some]
    dsimp only
    rw [Change.between?_whole (.inr rfl)]
    cases old.viewedKind series with
    | none => simp
    | some before => by_cases same : before = kind <;> simp [Json.equal, same]

/-! ### Types that are missed -/

section Missed

variable {σ : Type} {env : Environment σ} {platform : Platform} {options : ReconcileOptions}
  {state : σ}

/-- Where the platform is known, so is the series, and it counts if overrides do and there are
some. -/
theorem seriesFor_of_placed (placed : env.host.platform state = .ok platform) :
    seriesFor env old new options state = .ok
      (if options.seriesOverrides && (old.hasOverrides || new.hasOverrides)
        then some platform.series else none) := by
  rw [seriesFor, placed]
  split <;> rfl

/-- The type of the service is in neither source exactly if the old record has no type of its own,
and both records are viewed with the same type. -/
theorem name_eq_none_iff (hold : old.WellFormed) (hnew : new.WellFormed)
    (named : old.kind? ≠ none ∨ new.kind? ≠ none) (series : Option String) :
    old.kind?.or (old.delta new series).kind? = none ↔
      old.kind? = none ∧ old.viewedKind series = new.viewedKind series := by
  rw [Option.or_eq_none_iff, kind?_delta hold hnew]
  refine and_congr_right fun untyped => ?_
  have kept := viewedKind_ne_none (named.resolve_left fun h => h untyped) series
  simp [kept]

/-- **A type is missed in one case only.** On a machine whose platform is known two records are
compared, of which at least one has a type of its own. The type of the service is not found exactly
if overrides are put in, the old record has no type but for that in its fragment for the series of
the machine, this is the type that the new record has there, and something else is different. -/
theorem type_is_missed_iff (hold : old.Decoded) (hnew : new.Decoded)
    (named : old.kind? ≠ none ∨ new.kind? ≠ none) {world : World σ}
    (placed : env.host.platform world.state = .ok platform) :
    (∃ a b, ((reconcile env old new options).perform world).1 = .error (.missingType a b)) ↔
      options.seriesOverrides = true ∧ old.kind? = none ∧
      old.viewedKind (some platform.series) = new.viewedKind (some platform.series) ∧
      (Json.object (old.comparisonView (some platform.series))).equal
        (.object (new.comparisonView (some platform.series))) = false := by
  have h := reconciled env old new options world
  have name := name_eq_none_iff hold.wellFormed hnew.wellFormed named
  have something := isEmpty_delta hold.wellFormed.ordered hnew.wellFormed.ordered
  constructor
  · rintro ⟨a, b, missed⟩
    obtain ⟨-, -, series, asked, changed, unnamed⟩ := (h.untyped_iff a b).1 missed
    obtain ⟨untyped, same⟩ := (name series).1 unnamed
    rw [seriesFor_of_placed placed] at asked
    split at asked
    · next needed =>
      obtain rfl := Except.ok.inj asked
      exact ⟨(Bool.and_eq_true_iff.1 needed).1, untyped, same, (something _).symm.trans changed⟩
    · -- As they stand, the old record has no type and the new one has.
      obtain rfl := Except.ok.inj asked
      exact absurd (same.symm.trans untyped) (named.resolve_left fun typed => typed untyped)
  · rintro ⟨wanted, untyped, same, differ⟩
    have typed := viewedKind_ne_none (named.resolve_left fun typed => typed untyped)
      (some platform.series)
    -- A type that only the overrides bring shows that there are some, so the platform was asked.
    have overridden : old.hasOverrides = true := by
      rw [← Bool.not_eq_false]
      intro plain
      rw [← same, viewedKind_of_not_hasOverrides plain] at typed
      exact typed untyped
    have asked : seriesFor env old new options world.state = .ok (some platform.series) := by
      rw [seriesFor_of_placed placed, wanted, overridden]
      rfl
    exact ⟨old, new, (h.untyped_iff old new).2
      ⟨rfl, rfl, _, asked, (something _).trans differ, (name _).2 ⟨untyped, same⟩⟩⟩

/-- A stable tier whose type is in its fragment for `noble` alone. -/
def borrowedKind : Json :=
  .object [("entitlement", .object [
    ("series", .object [("noble", .object [("type", .string "livepatch")])]),
    ("tier", .string "stable")])]

/-- An edge tier of the type. -/
def ownKind (kind : String) : Json :=
  .object [("entitlement", .object [("tier", .string "edge"), ("type", .string kind)])]

/-- Where the old record is of another type on `noble`, the changes name the type of the new one. -/
theorem type_is_missed_iff_otherKind :
    let env := nobleMachine [("mirror", fun _ _ => ([], .ok ()))]
    ∃ old new platform, old.Decoded ∧ new.Decoded ∧ new.kind? = some "mirror" ∧
      env.host.platform [] = .ok platform ∧
      ¬∃ a b,
        ((reconcile env old new {}).perform { state := [] }).1 = .error (.missingType a b) := by
  intro env
  have hold : Decoded _ := ⟨borrowedKind, by decide, rfl⟩
  have hnew : Decoded _ := ⟨ownKind "mirror", by decide, rfl⟩
  refine ⟨_, _, _, hold, hnew, rfl, rfl, fun missed => ?_⟩
  obtain ⟨-, -, same, -⟩ := (type_is_missed_iff hold hnew (.inr (by decide)) rfl).1 missed
  exact absurd same (by decide)

/-- Where it is of the same type there, the type is missed although the new record has it, and no
processor is called. -/
theorem type_of_new_record_is_missed :
    let env := nobleMachine [("livepatch", fun _ _ => ([], .ok ()))]
    ∃ old new platform, old.Decoded ∧ new.Decoded ∧ new.kind? = some "livepatch" ∧
      env.host.platform [] = .ok platform ∧
      (reconcile env old new {}).perform { state := [] } =
        (.error (.missingType old new), { state := [] }) := by
  intro env
  exact ⟨_, _, _, ⟨borrowedKind, by decide, rfl⟩, ⟨ownKind "livepatch", by decide, rfl⟩, rfl, rfl,
    rfl⟩

end Missed

end Access

end Subscription
