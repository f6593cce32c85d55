import Subscription.Json.Basic
import Subscription.Proofs.Keyed

/-!
# Sorted JSON values

Every object in a sorted value lists its members in key order. What is done to the members of an
object by key keeps it sorted, and being sorted can be decided. `Json.objectInduction` goes through
a value by its objects alone, which is as deep as changes and overrides look.
-/

namespace Subscription

namespace Json

/-! ### Entries of sorted values -/

theorem sortedMembers_iff (members : Keyed Json) :
    SortedMembers members ↔ ∀ entry ∈ members, entry.2.Sorted := by
  induction members with
  | nil => simp [SortedMembers]
  | cons entry rest ih =>
    obtain ⟨key, value⟩ := entry
    simp [SortedMembers, ih]

theorem sortedItems_iff (items : List Json) :
    SortedItems items ↔ ∀ item ∈ items, item.Sorted := by
  induction items with
  | nil => simp [SortedItems]
  | cons item rest ih => simp [SortedItems, ih]

/-- An object is sorted when its keys ascend and every value under a key is sorted. -/
theorem sorted_object_iff (members : Keyed Json) :
    (object members).Sorted ↔
      members.Sorted ∧ ∀ key value, members.get? key = some value → value.Sorted := by
  rw [Sorted, sortedMembers_iff]
  exact and_congr_right fun hs => hs.forall_mem_iff (P := fun _ value => value.Sorted)

theorem Sorted.set {members : Keyed Json} (hs : (object members).Sorted) (key : String)
    {value : Option Json} (hv : ∀ v, value = some v → v.Sorted) :
    (object (members.set key value)).Sorted := by
  have ⟨keys, inside⟩ := (sorted_object_iff members).1 hs
  refine (sorted_object_iff _).2 ⟨keys.set key value, fun other v found => ?_⟩
  rw [Keyed.get?_set] at found
  split at found
  · exact hv v found
  · exact inside other v found

theorem Sorted.insert {members : Keyed Json} (hs : (object members).Sorted) (key : String)
    {value : Json} (hv : value.Sorted) : (object (members.insert key value)).Sorted :=
  Sorted.set hs key fun _ h => Option.some.inj h ▸ hv

theorem Sorted.without {members : Keyed Json} (hs : (object members).Sorted)
    (keys : List String) : (object (members.without keys)).Sorted := by
  have ⟨ascending, inside⟩ := (sorted_object_iff members).1 hs
  refine (sorted_object_iff _).2 ⟨ascending.without keys, fun key v found => ?_⟩
  rw [Keyed.get?_without] at found
  split at found
  · cases found
  · exact inside key v found

/-! ### Decidability -/

mutual

/-- Being sorted is decided along the value. -/
def decidableSorted : (value : Json) → Decidable value.Sorted
  | .null | .bool _ | .number _ | .string _ => .isTrue (by simp [Sorted])
  | .array items =>
    have := decidableSortedItems items
    decidable_of_iff (SortedItems items) (by rw [Sorted])
  | .object members =>
    have := decidableSortedMembers members
    decidable_of_iff (Keyed.Sorted members ∧ SortedMembers members) (by rw [Sorted])

def decidableSortedItems : (items : List Json) → Decidable (SortedItems items)
  | [] => .isTrue trivial
  | item :: rest =>
    have := decidableSorted item
    have := decidableSortedItems rest
    decidable_of_iff (item.Sorted ∧ SortedItems rest) (by rw [SortedItems])

def decidableSortedMembers : (members : List (String × Json)) → Decidable (SortedMembers members)
  | [] => .isTrue trivial
  | (_, value) :: rest =>
    have := decidableSorted value
    have := decidableSortedMembers rest
    decidable_of_iff (value.Sorted ∧ SortedMembers rest) (by rw [SortedMembers])

end

instance (value : Json) : Decidable value.Sorted := decidableSorted value

/-! ### Induction through objects -/

private theorem sizeOf_lt_object {members : Keyed Json} {key : String} {value : Json}
    (found : members.get? key = some value) : sizeOf value < sizeOf (object members) := by
  have hlt := List.sizeOf_lt_of_mem (Keyed.mem_of_get? found)
  simp only [Prod.mk.sizeOf_spec, object.sizeOf_spec] at hlt ⊢
  omega

/-- Induction on the objects in a value: what is no object, an array included, is a leaf. -/
theorem objectInduction {motive : Json → Prop}
    (leaf : ∀ value, value.members? = none → motive value)
    (object : ∀ members : Keyed Json,
      (∀ key value, members.get? key = some value → motive value) → motive (.object members)) :
    ∀ value, motive value
  | .object members => object members fun key value found =>
    have := sizeOf_lt_object found
    objectInduction leaf object value
  | .null => leaf _ rfl
  | .bool _ => leaf _ rfl
  | .number _ => leaf _ rfl
  | .string _ => leaf _ rfl
  | .array _ => leaf _ rfl
termination_by value => sizeOf value
decreasing_by exact this

end Json

end Subscription
