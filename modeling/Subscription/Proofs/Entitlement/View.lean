import Subscription.Entitlement.Reconcile
import Subscription.Proofs.Entitlement.Decoding

/-!
# What is compared of a record

The view of a record is the object in which it is compared. It is sorted for every record whose
members and fragments are in key order (`Access.sorted_comparisonView`). For a well-formed record it
also names the type of the service under `type` (`Entitlement.WellFormed.get?_type_members`). A
record without overrides is the same for every series.
-/

namespace Subscription

/-! ### Superposition -/

namespace Json

/-- What is no object takes the place of anything. -/
theorem superpose_of_members?_eq_none (base : Option Json) {fragment : Json}
    (h : fragment.members? = none) : superpose base fragment = fragment := by
  rw [superpose.eq_def]
  split
  · cases h
  · rfl

mutual

/-- A value put over what stands in its place is sorted if both are. -/
theorem sorted_superpose : ∀ (base : Option Json) (fragment : Json),
    (∀ value, base = some value → value.Sorted) → fragment.Sorted →
      (superpose base fragment).Sorted
  | base, .object fragment, hbase, hs => by
    rw [superpose.eq_def]
    split
    · next members _ same =>
      obtain rfl := object.inj same
      rw [Sorted] at hs
      exact sorted_overlay members _ (hbase _ rfl) hs.2
    · exact hs
  | base, .null, _, hs | base, .bool _, _, hs | base, .number _, _, hs | base, .string _, _, hs
  | base, .array _, _, hs => by rwa [superpose_of_members?_eq_none base rfl]

/-- Members put over members are sorted if both are. -/
theorem sorted_overlay : ∀ (base : Keyed Json) (fragment : List (String × Json)),
    (object base).Sorted → SortedMembers fragment → (object (overlay base fragment)).Sorted
  | base, [], hbase, _ => by rwa [overlay]
  | base, (key, value) :: rest, hbase, hs => by
    rw [SortedMembers] at hs
    rw [overlay]
    have inBase := ((sorted_object_iff base).1 hbase).2 key
    exact sorted_overlay _ rest (hbase.insert key (sorted_superpose _ value inBase hs.1)) hs.2

end

/-- A key that the fragment does not have stays as it is. -/
theorem get?_overlay_of_eq_none {fragment : Keyed Json} {key : String}
    (h : fragment.get? key = none) (base : Keyed Json) :
    (overlay base fragment).get? key = base.get? key := by
  induction fragment generalizing base with
  | nil => rw [overlay]
  | cons entry rest ih =>
    obtain ⟨k, value⟩ := entry
    rw [Keyed.get?_cons] at h
    split at h
    · cases h
    · next different => rw [overlay, ih h, Keyed.get?_insert, if_neg different]

end Json

/-! ### Views of records -/

namespace Entitlement

variable {record : Entitlement}

/-- The record has no fragment for the series, or one that does not speak of the type. -/
def KeepsKind (record : Entitlement) (series : String) : Prop :=
  ∀ fragment ∈ record.series.get? series, fragment.get? "type" = none

instance (record : Entitlement) (series : String) : Decidable (record.KeepsKind series) :=
  inferInstanceAs (Decidable (∀ fragment ∈ _, _))

/-- The members and the fragments of the record are in key order, at every depth. A well-formed
record has no member with a meaning among the free ones besides. -/
structure Ordered (record : Entitlement) : Prop where
  fields : (Json.object record.fields).Sorted
  series : record.seriesJson.Sorted

theorem WellFormed.ordered (h : record.WellFormed) : record.Ordered := ⟨h.fields, h.series⟩

theorem Ordered.sorted_fragment (h : record.Ordered) {series : String}
    {fragment : Keyed Json} (found : record.series.get? series = some fragment) :
    (Json.object fragment).Sorted := by
  have inTable := ((Json.sorted_object_iff _).1 h.series).2 series (.object fragment)
  rw [Keyed.get?_mapValues, found] at inTable
  exact inTable rfl

/-- The fragment of the record for a series, if it has one, is sorted. -/
theorem Ordered.sorted_fragmentD (h : record.Ordered) (series : String) :
    (Json.object ((record.series.get? series).getD [])).Sorted := by
  cases found : record.series.get? series with
  | none => exact (Json.sorted_object_iff _).2 ⟨.nil, fun _ _ found => by cases found⟩
  | some fragment => exact h.sorted_fragment found

/-- To put the overrides of a series over a record keeps its members in order. -/
theorem Ordered.forSeries (h : record.Ordered) (series : String) :
    (record.forSeries series).Ordered := by
  refine ⟨?_, (Json.sorted_object_iff _).2 ⟨.nil, fun _ _ found => by cases found⟩⟩
  have free := (h.sorted_fragmentD series).without knownKeys
  rw [Json.Sorted] at free
  exact Json.sorted_overlay _ _ h.fields free.2

/-- The record on machines of a series is well-formed again: the free members of a fragment are
put over free members only. -/
theorem WellFormed.forSeries (h : record.WellFormed) (series : String) :
    (record.forSeries series).WellFormed := by
  have ordered := h.ordered.forSeries series
  refine ⟨ordered.fields, ordered.series, fun key known => ?_⟩
  refine (Json.get?_overlay_of_eq_none ?_ _).trans (h.free key known)
  rw [Keyed.get?_without, if_pos known]

/-- A record without overrides is the same on machines of every series. -/
theorem forSeries_of_series_eq_nil (h : record.series = []) (series : String) :
    record.forSeries series = record := by
  obtain ⟨kind, entitled, table, fields⟩ := record
  obtain rfl : table = [] := h
  simp [forSeries, Keyed.without, Json.overlay]

/-- Where no fragment names another type, the record on machines of the series has its own. -/
theorem kind_forSeries {series : String} (h : record.KeepsKind series) :
    (record.forSeries series).kind = record.kind := by
  have untouched : ((record.series.get? series).getD []).get? "type" = none := by
    cases found : record.series.get? series with
    | none => rfl
    | some fragment => exact h fragment found
  rw [forSeries, untouched]
  rfl

/-- A member put in if there is something to put in. -/
private theorem sorted_elim_insert {α : Type} {members : Keyed Json}
    (hs : (Json.object members).Sorted) (key : String) (value : Option α) (encode : α → Json)
    (hv : ∀ a, (encode a).Sorted) :
    (Json.object (value.elim members fun a => members.insert key (encode a))).Sorted := by
  cases value with
  | none => exact hs
  | some a => exact hs.insert key (hv a)

private theorem get?_elim_insert {α : Type} (members : Keyed Json) (key : String)
    (value : Option α) (encode : α → Json) (other : String) :
    Keyed.get? (value.elim members fun a => members.insert key (encode a)) other =
      if key = other then (value.map encode).or (members.get? other) else members.get? other := by
  cases value with
  | none => simp
  | some a => simp [Keyed.get?_insert]

/-- The members of a record are in order, with those it is known by among the others. -/
theorem Ordered.sorted_members (h : record.Ordered) : (Json.object record.members).Sorted := by
  have kind := sorted_elim_insert h.fields "type" record.kind Json.string
    fun _ => by simp [Json.Sorted]
  have entitled := sorted_elim_insert kind "entitled" record.entitled Json.bool
    fun _ => by simp [Json.Sorted]
  rw [members]
  split
  · exact entitled
  · exact entitled.insert "series" h.series

/-- What stands under each key of the view: a free member does not stand under a key with a
meaning, so nothing that is put in takes the place of another member. -/
theorem WellFormed.get?_members (h : record.WellFormed) (key : String) :
    record.members.get? key =
      if key = "type" then record.kind.map .string
      else if key = "entitled" then record.entitled.map .bool
      else if key = "series" then
        if record.series.isEmpty then none else some record.seriesJson
      else record.fields.get? key := by
  have kind : record.fields.get? "type" = none := h.free "type" (by decide)
  have entitled : record.fields.get? "entitled" = none := h.free "entitled" (by decide)
  have series : record.fields.get? "series" = none := h.free "series" (by decide)
  rw [members]
  by_cases isKind : key = "type"
  · subst isKind
    split <;> simp [Keyed.get?_insert, get?_elim_insert, kind]
  by_cases isEntitled : key = "entitled"
  · subst isEntitled
    split <;> simp [Keyed.get?_insert, get?_elim_insert, entitled]
  by_cases isSeries : key = "series"
  · subst isSeries
    split <;> simp [Keyed.get?_insert, get?_elim_insert, series]
  · split <;> simp [Keyed.get?_insert, get?_elim_insert, Ne.symm isKind, Ne.symm isEntitled,
      Ne.symm isSeries]

/-- The view names the type of the service, and nothing else under `type`. -/
theorem WellFormed.get?_type_members (h : record.WellFormed) :
    record.members.get? "type" = record.kind.map .string := by
  rw [h.get?_members, if_pos rfl]

end Entitlement

/-! ### Views of access records -/

namespace Access

/-- The entitlement of the access, if any, is well-formed. -/
def WellFormed (access : Access) : Prop :=
  ∀ record, access.entitlement = some record → record.WellFormed

theorem wellFormed_ofEntitlement {record : Entitlement} (h : record.WellFormed) :
    (ofEntitlement record).WellFormed :=
  fun _ same => Option.some.inj same ▸ h

theorem wellFormed_empty : ({} : Access).WellFormed := fun _ same => by cases same

/-- An access record is an object with a record in it, which may be `null` or missing. -/
theorem decode_eq_ok_iff {value : Json} {access : Access} : decode value = .ok access ↔
    ∃ (members : Keyed Json) (entitlement : Option (Option Entitlement)),
      value = .object members ∧
      members.member? "entitlement" (Json.asNullable Entitlement.decode) = .ok entitlement ∧
      access = {
        entitlement := entitlement.join
        extra := members.without ["entitlement"] } := by
  simp only [decode, Except.bind_eq_ok_iff, Json.asMembers_eq_ok_iff, Except.ok.injEq]
  constructor
  · rintro ⟨members, rfl, entitlement, decoded, rfl⟩
    exact ⟨members, entitlement, rfl, decoded, rfl⟩
  · rintro ⟨members, entitlement, rfl, decoded, rfl⟩
    exact ⟨members, rfl, entitlement, decoded, rfl⟩

/-- What an access decodes from in key order makes its entitlement well-formed. -/
theorem wellFormed_of_decode {value : Json} (hs : value.Sorted) {access : Access}
    (h : decode value = .ok access) : access.WellFormed := by
  obtain ⟨members, found, rfl, decoded, rfl⟩ := decode_eq_ok_iff.1 h
  intro record same
  obtain rfl : found = some (some record) := by
    rcases found with _ | _ | _ <;> cases same
    rfl
  obtain ⟨entitlement, sorted, decoded⟩ := hs.of_member? decoded
  exact Entitlement.wellFormed_of_decode sorted (Json.of_asNullable_eq_ok_some decoded)

/-- The access decodes from a value with all members in key order, as every value that is read
is. -/
def Decoded (access : Access) : Prop := ∃ value : Json, value.Sorted ∧ decode value = .ok access

/-- What was decoded is well-formed. -/
theorem Decoded.wellFormed {access : Access} (h : access.Decoded) : access.WellFormed := by
  obtain ⟨value, sorted, decoded⟩ := h
  exact wellFormed_of_decode sorted decoded

/-- The entitlement of the access, if any, has its members and fragments in key order. -/
def Ordered (access : Access) : Prop :=
  ∀ record, access.entitlement = some record → record.Ordered

theorem WellFormed.ordered {access : Access} (h : access.WellFormed) : access.Ordered :=
  fun record same => (h record same).ordered

/-- What is compared has its members in order. -/
theorem sorted_comparisonView {access : Access} (h : access.Ordered)
    (series : Option String) : (Json.object (access.comparisonView series)).Sorted := by
  unfold comparisonView
  split
  · exact (Json.sorted_object_iff _).2 ⟨.nil, fun _ _ found => by cases found⟩
  · next record series same => exact ((h record same).forSeries series).sorted_members
  · next record same => exact (h record same).sorted_members

/-- An access without overrides is viewed alike on machines of every series and by itself. -/
theorem comparisonView_of_not_hasOverrides {access : Access} (h : access.hasOverrides = false)
    (series : String) : access.comparisonView none = access.comparisonView (some series) := by
  obtain ⟨_ | record, extra⟩ := access
  · rfl
  · have empty : record.series = [] := by simpa [hasOverrides] using h
    simp only [comparisonView, Entitlement.forSeries_of_series_eq_nil empty]

end Access

end Subscription
