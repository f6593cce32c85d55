import Subscription.Proofs.Entitlement.Handed
import Subscription.Proofs.Entitlement.Naming
import Subscription.Proofs.Update.Course

/-!
# The changes of one update

An update compares each record of the new token with the first record of its type in the token
before. The service goes by the type of the new record (`kind_of_previousAccess`), so if the token
has one record of a type, the processor of the type is handed the changes of this record and no
others (`patched_applyEntitlements`).
-/

namespace Subscription

/-! ### The type of a service -/

/-- The changes from nothing bring in the type of the record. -/
theorem Access.kind?_delta_ofEntitlement {record : Entitlement} (h : record.WellFormed)
    {series : String} (keeps : record.KeepsKind series) :
    (({} : Access).delta (.ofEntitlement record) (some series)).kind? = record.kind := by
  have viewed : (ofEntitlement record).viewedKind (some series) = record.kind :=
    Entitlement.kind_forSeries keeps
  rw [kind?_delta wellFormed_empty (wellFormed_ofEntitlement h), viewed]
  cases record.kind <;> simp [viewedKind]

namespace Update

/-- A record is known before an update by a record of its own type, or not at all. -/
theorem previousAccess_cases (previous : Option MachineToken) (record : Entitlement) :
    previousAccess previous record = {} ∨ ∃ token old kind, previous = some token ∧
      token.entitlement? kind = some old ∧ record.kind = some kind ∧
      previousAccess previous record = .ofEntitlement old := by
  rw [previousAccess]
  cases named : record.kind with
  | none => exact .inl rfl
  | some kind =>
    cases previous with
    | none => exact .inl rfl
    | some token =>
      cases found : token.entitlement? kind with
      | none => exact .inl (by simp [found])
      | some old => exact .inr ⟨token, old, kind, rfl, found, rfl, by simp [found]⟩

/-- Every record that is known before an update is well-formed if those of the token are. -/
theorem wellFormed_previousAccess {previous : Option MachineToken}
    (h : ∀ token, previous = some token → ∀ record ∈ token.entitlements, record.WellFormed)
    (record : Entitlement) : (previousAccess previous record).WellFormed := by
  rcases previousAccess_cases previous record with unknown | ⟨token, old, kind, same, found, -,
    known⟩
  · exact unknown ▸ Access.wellFormed_empty
  · have wellFormed := h token same old (List.mem_of_find?_eq_some found)
    exact known ▸ Access.wellFormed_ofEntitlement wellFormed

/-- The type that a service goes by in an update is the type of its new record. -/
theorem kind_of_previousAccess {record : Entitlement} (h : record.WellFormed) {series : String}
    (keeps : record.KeepsKind series) (previous : Option MachineToken) :
    (previousAccess previous record).kind?.or
      ((previousAccess previous record).delta (.ofEntitlement record) (some series)).kind? =
        record.kind := by
  rcases previousAccess_cases previous record with unknown | ⟨token, old, kind, -, found, named,
    known⟩
  · rw [unknown, Access.kind?_delta_ofEntitlement h keeps]
    rfl
  · have same : old.kind = some kind := by
      simpa using List.find?_some found
    rw [known, Access.kind?, Access.ofEntitlement, Option.bind_some, same, named]
    rfl

/-! ### One update -/

section Services

variable {σ : Type} {env : Environment σ} {platform : Platform} {kind : String}

/-- The changes of a record from an update to the next, on machines of a series. -/
def changesFrom (previous : Option MachineToken) (record : Entitlement) (series : String) :
    Changes :=
  ((previousAccess previous record).delta (.ofEntitlement record) (some series)).changes

theorem patched_applyEntitlement {record : Entitlement} (h : record.WellFormed)
    (keeps : record.KeepsKind platform.series) {world : World σ}
    (placed : env.host.platform world.state = .ok platform)
    (registered : (env.processors.get? kind).isSome) (previous : Option MachineToken) :
    (StateT.run (applyEntitlement env previous record) world).2.journal.patched kind =
      if record.kind = some kind then
        Changes.patch (world.journal.patched kind) (changesFrom previous record platform.series)
      else world.journal.patched kind := by
  rw [run_applyEntitlement]
  dsimp only
  rw [Journal.patched_append_logged]
  exact (Access.reconciled env _ _ _ world).patched rfl placed
    (kind_of_previousAccess h keeps previous) registered

/-- Of several records those of the type add their changes, one after another. -/
theorem patched_mapM_applyEntitlement {records : List Entitlement}
    (h : ∀ record ∈ records, record.WellFormed ∧ record.KeepsKind platform.series)
    (placed : ∀ state, env.host.platform state = .ok platform)
    (registered : (env.processors.get? kind).isSome) (previous : Option MachineToken)
    (world : World σ) :
    (StateT.run (records.mapM (applyEntitlement env previous)) world).2.journal.patched kind =
      (records.filter (·.kind == some kind)).foldl
        (fun members record =>
          Changes.patch members (changesFrom previous record platform.series))
        (world.journal.patched kind) := by
  induction records generalizing world with
  | nil => rfl
  | cons record rest ih =>
    obtain ⟨⟨wellFormed, keeps⟩, hrest⟩ := List.forall_mem_cons.1 h
    rw [run_mapM_cons, ih hrest, patched_applyEntitlement wellFormed keeps (placed _) registered,
      List.filter_cons]
    by_cases own : record.kind = some kind
    · rw [if_pos own, if_pos (beq_iff_eq.2 own), List.foldl_cons]
    · rw [if_neg own, if_neg fun same => own (beq_iff_eq.1 same)]

end Services

end Update

/-- The token has one record of the type, and its records keep their types on machines of the
series. -/
structure MachineToken.CarriesOnce (token : MachineToken) (kind series : String) : Prop where
  once : (token.entitlements.filter (·.kind == some kind)).length = 1
  keepsKind : ∀ record ∈ token.entitlements, record.KeepsKind series

instance (token : MachineToken) (kind series : String) :
    Decidable (token.CarriesOnce kind series) :=
  decidable_of_iff (_ ∧ _) ⟨fun ⟨once, keeps⟩ => ⟨once, keeps⟩, fun h => ⟨h.once, h.keepsKind⟩⟩

/-- In whatever order the records are taken, the one of the type is the one that is found. -/
theorem MachineToken.CarriesOnce.filter_sortedEntitlements {token : MachineToken}
    {kind series : String} (h : token.CarriesOnce kind series) :
    ∃ record, token.entitlement? kind = some record ∧
      token.sortedEntitlements.filter (·.kind == some kind) = [record] := by
  obtain ⟨record, only⟩ := List.length_eq_one_iff.1 h.once
  refine ⟨record, ?_, ?_⟩
  · rw [entitlement?, ← List.head?_filter, only]
    rfl
  · have order := (List.mergeSort_perm token.entitlements
      fun a b => decide (a.kind.getD "" ≤ b.kind.getD "")).filter (·.kind == some kind)
    rw [only, List.perm_singleton] at order
    exact order

namespace Update

/-- Of all the changes in an update those of the one record of the type go to its processor. -/
theorem patched_applyEntitlements {σ : Type} {env : Environment σ} {platform : Platform}
    {kind : String} {updated : MachineToken}
    (h : ∀ record ∈ updated.entitlements, record.WellFormed)
    (carries : updated.CarriesOnce kind platform.series)
    (placed : ∀ state, env.host.platform state = .ok platform)
    (registered : (env.processors.get? kind).isSome) (previous : Option MachineToken)
    (world : World σ) :
    ∃ record, updated.entitlement? kind = some record ∧
      (StateT.run (applyEntitlements env previous updated) world).2.journal.patched kind =
        Changes.patch (world.journal.patched kind)
          (changesFrom previous record platform.series) := by
  obtain ⟨record, entitlement, only⟩ := carries.filter_sortedEntitlements
  have each : ∀ record ∈ updated.sortedEntitlements,
      record.WellFormed ∧ record.KeepsKind platform.series := fun record mem =>
    -- Sorting by type only reorders the records.
    have mem := (List.mergeSort_perm _ _).mem_iff.1 mem
    ⟨h record mem, carries.keepsKind record mem⟩
  refine ⟨record, entitlement, ?_⟩
  rw [applyEntitlements, patched_mapM_applyEntitlement each placed registered, only,
    List.foldl_cons, List.foldl_nil]

end Update

end Subscription
