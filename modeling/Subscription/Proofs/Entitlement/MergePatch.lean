import Subscription.Proofs.Entitlement.Leaves
import Subscription.Proofs.Entitlement.Patch

/-!
# Changes as a merge patch

Written as JSON, changes are a merge patch: null removes a member, an object changes the members
inside, and any other value takes the place of what was there. Writing forgets which kind of change
a value came from, so a whole object that is put in looks like changes inside an object, and a null
that is put in like a key that is dropped. The first does no harm, because an object is put in whole
only where no object was, and merging it into nothing builds it again (`Json.mergePatch_eq_self`).
The second does, so the new object must have no null under a key; then merging the changes that were
found gives the new object (`Changes.mergePatch_between`).
-/

namespace Subscription

namespace Json

/-! ### Merge patches -/

mutual

/-- What a merge patch makes of a value, or of nothing. An object is merged member by member into
the members of the value, of which there are none if the value is no object; any other patch takes
the place of the value. -/
def mergePatch (target : Option Json) : Json → Json
  | .object patch => .object (mergeMembers ((target.bind members?).getD []) patch)
  | patch => patch

/-- The members after each member of the patch was merged: null removes what stands under its key,
and anything else is a patch for it. -/
def mergeMembers (target : Keyed Json) : List (String × Json) → Keyed Json
  | [] => target
  | (key, .null) :: rest => mergeMembers (target.erase key) rest
  | (key, patch) :: rest =>
    mergeMembers (target.insert key (mergePatch (target.get? key) patch)) rest

end

/-- What stands under a key after the member of a patch for it was merged, if there is one. -/
def mergeMember (before : Option Json) : Option Json → Option Json
  | none => before
  | some .null => none
  | some patch => some (mergePatch before patch)

theorem mergeMember_some {patch : Json} (h : patch ≠ .null) (before : Option Json) :
    mergeMember before (some patch) = some (mergePatch before patch) := by
  rw [mergeMember.eq_def]
  split
  · next none => cases none
  · next null =>
    cases null
    exact absurd rfl h
  · next some => rw [Option.some.inj some]

/-- An object is merged into an object member by member. -/
theorem mergeMember_objects (target patch : Keyed Json) :
    mergeMember (some (.object target)) (some (.object patch)) =
      some (.object (mergeMembers target patch)) := by
  rw [mergeMember, mergePatch]
  · rfl
  · rintro ⟨⟩

/-- What is no object takes the place of whatever was there. -/
theorem mergePatch_of_members?_eq_none {patch : Json} (h : patch.members? = none)
    (target : Option Json) : mergePatch target patch = patch := by
  rw [mergePatch.eq_def]
  split
  · cases h
  · rfl

/-- The members of a patch are merged one after the other. -/
theorem mergeMembers_cons (target : Keyed Json) (key : String) (patch : Json)
    (rest : List (String × Json)) : mergeMembers target ((key, patch) :: rest) =
      mergeMembers (target.set key (mergeMember (target.get? key) (some patch))) rest := by
  cases patch <;> rw [mergeMembers] <;> first | rfl | nofun

/-- What stands under each key depends on what stood there and on the member of the patch for it. -/
theorem get?_mergeMembers {patch : Keyed Json} (hs : patch.Sorted) (target : Keyed Json)
    (key : String) : (mergeMembers target patch).get? key =
      mergeMember (target.get? key) (patch.get? key) := by
  induction patch generalizing target with
  | nil => rw [mergeMembers, Keyed.get?_nil, mergeMember]
  | cons entry rest ih =>
    obtain ⟨k, first⟩ := entry
    rw [mergeMembers_cons, ih (List.pairwise_cons.1 hs).2, Keyed.get?_set, Keyed.get?_cons]
    by_cases same : k = key
    · subst same
      rw [if_pos rfl, if_pos rfl, hs.get?_tail_eq_none, mergeMember]
    · rw [if_neg same, if_neg same]

/-- To merge members keeps the keys in order. -/
theorem sorted_keys_mergeMembers {target : Keyed Json} (hs : target.Sorted)
    (patch : List (String × Json)) : (mergeMembers target patch).Sorted := by
  induction patch generalizing target with
  | nil => rwa [mergeMembers]
  | cons entry rest ih =>
    obtain ⟨k, first⟩ := entry
    rw [mergeMembers_cons]
    exact ih (hs.set k _)

/-! ### Values without null members -/

/-- No member that is reached through objects is null. What is inside of arrays does not matter. -/
def NullFree (value : Json) : Prop := ∀ path, path ≠ [] → value.at? path ≠ some .null

theorem NullFree.of_members?_eq_none {value : Json} (h : value.members? = none) :
    value.NullFree := by
  intro path nonempty
  rw [at?_eq_none_of_members? h nonempty]
  nofun

/-- An object has no null member exactly if no value under a key is null or has one. -/
theorem nullFree_object_iff {members : Keyed Json} : (object members).NullFree ↔
    ∀ key value, members.get? key = some value → value ≠ .null ∧ value.NullFree := by
  constructor
  · intro h key value found
    constructor
    · rintro rfl
      exact h [key] (List.cons_ne_nil _ _) (at?_object_cons found [])
    · intro path _ isNull
      exact h (key :: path) (List.cons_ne_nil _ _) ((at?_object_cons found path).trans isNull)
  · intro h path nonempty isNull
    obtain ⟨key, rest, rfl⟩ := List.exists_cons_of_ne_nil nonempty
    obtain ⟨value, found, isNull⟩ := Option.bind_eq_some_iff.1 isNull
    obtain ⟨some_value, nullFree⟩ := h key value found
    by_cases last : rest = []
    · subst last
      exact some_value (Option.some.inj isNull)
    · exact nullFree rest last isNull

/-- A value without null members that is merged into something that is no object is built again. -/
theorem mergePatch_eq_self {value : Json} (hs : value.Sorted) (h : value.NullFree)
    {target : Option Json} (place : target.bind members? = none) :
    mergePatch target value = value := by
  induction value using objectInduction generalizing target with
  | leaf value isLeaf => exact mergePatch_of_members?_eq_none isLeaf target
  | object members ih =>
    have ⟨keys, inside⟩ := (sorted_object_iff members).1 hs
    rw [mergePatch, place, Option.getD_none, object.injEq]
    refine (sorted_keys_mergeMembers List.Pairwise.nil members).ext keys fun key => ?_
    rw [get?_mergeMembers keys, Keyed.get?_nil]
    cases found : members.get? key with
    | none => rfl
    | some value =>
      have ⟨some_value, nullFree⟩ := nullFree_object_iff.1 h key value found
      rw [mergeMember_some some_value, ih key value found (inside key value found) nullFree rfl]

end Json

/-! ### Changes as a patch -/

theorem Change.membersToJson_eq_mapValues (changes : Changes) :
    membersToJson changes = changes.mapValues toJson := by
  induction changes with
  | nil => rfl
  | cons entry rest ih =>
    obtain ⟨key, change⟩ := entry
    rw [membersToJson, ih]
    rfl

/-- What stands under a key after the change of it, as it is written, was merged. -/
def Change.merge (before : Option Json) (change : Option Change) : Option Json :=
  Json.mergeMember before (change.map toJson)

/-- If merging the change found for every key makes its value the new one, then merging the changes
found makes the object the new one. -/
private theorem normal_merge_of_forall {old new : Keyed Json} (hold : old.Sorted)
    (hnew : new.Sorted)
    (h : ∀ key after, new.get? key = some after →
      (Change.merge (old.get? key) (Change.between? (old.get? key) after)).map Json.normal =
        some after.normal) :
    (Json.object (Json.mergeMembers old (Change.membersToJson (Changes.between old new)))).normal =
      (Json.object new).normal := by
  have keys := Changes.sorted_between hold new
  rw [← Json.equal_iff, Json.equal_object_iff (Json.sorted_keys_mergeMembers hold _) hnew]
  intro key
  rw [Change.membersToJson_eq_mapValues, Json.get?_mergeMembers (keys.mapValues _),
    Keyed.get?_mapValues, Changes.get?_between hnew]
  cases found : new.get? key with
  | none => cases old.get? key <;> simp [Change.toJson, Json.mergeMember]
  | some after => exact h key after found

/-- Merging the change found for a key makes a value equal to the new one of what stood there. -/
theorem Change.normal_merge_between? (before : Option Json) (new : Json)
    (hbefore : ∀ value, before = some value → value.Sorted) (hnew : new.Sorted)
    (some_new : new ≠ .null) (nullFree : new.NullFree) :
    (merge before (between? before new)).map Json.normal = some new.normal := by
  induction before, new using between?_induction with
  | whole before new h =>
    rw [between?_whole h]
    split
    · next same =>
      obtain ⟨value, rfl, heq⟩ := (Option.any_eq_true ..).1 same
      exact congrArg some ((Json.equal_iff _ _).1 heq)
    · -- As a patch a whole object is merged into what stands there; this is no object, or else the
      -- new value is none.
      have put : Json.mergePatch before new = new := by
        rcases h with place | isLeaf
        · exact Json.mergePatch_eq_self hnew nullFree place
        · exact Json.mergePatch_of_members?_eq_none isLeaf before
      rw [merge, Option.map_some, toJson, Json.mergeMember_some some_new, put, Option.map_some]
  | objects old new ih =>
    have ⟨oldKeys, inOld⟩ := (Json.sorted_object_iff old).1 (hbefore _ rfl)
    have ⟨newKeys, inNew⟩ := (Json.sorted_object_iff new).1 hnew
    have inside := normal_merge_of_forall oldKeys newKeys fun key after found =>
      have ⟨some_after, nullFree⟩ := Json.nullFree_object_iff.1 nullFree key after found
      ih key after found (inOld key) (inNew key after found) some_after nullFree
    rw [between?_objects]
    split
    · next nothing =>
      rw [nothing, membersToJson, Json.mergeMembers] at inside
      exact congrArg some inside
    · rw [merge, Option.map_some, toJson, Json.mergeMember_objects, Option.map_some, inside]

namespace Changes

/-- **The changes as they are written are a merge patch.** Merged into the old object they give the
new one, if no member of it is null. The old one may have nulls, and so may arrays. -/
theorem mergePatch_between {old new : Keyed Json} (hold : (Json.object old).Sorted)
    (hnew : (Json.object new).Sorted) (nullFree : (Json.object new).NullFree) :
    (Json.mergePatch (some (.object old))
      (.object (Change.membersToJson (between old new)))).equal (.object new) = true := by
  have ⟨oldKeys, inOld⟩ := (Json.sorted_object_iff old).1 hold
  have ⟨newKeys, inNew⟩ := (Json.sorted_object_iff new).1 hnew
  rw [Json.equal_iff, Json.mergePatch]
  refine normal_merge_of_forall oldKeys newKeys fun key after found => ?_
  have ⟨some_after, nullFree⟩ := Json.nullFree_object_iff.1 nullFree key after found
  exact Change.normal_merge_between? _ after (inOld key) (inNew key after found) some_after nullFree

/-- A grant with limits, some of which are null. -/
def limited : Keyed Json :=
  [("grant", .object [("level", .bool false), ("until", .null)]), ("region", .null),
    ("seats", .number (.unsigned 3))]

/-- The grant without these limits, for seats that have names or none. -/
def seated : Keyed Json :=
  [("grant", .object [("level", .bool true)]),
    ("seats", .object [("names", .array [.string "first", .null])])]

theorem nullFree_seated : (Json.object seated).NullFree := by
  have leaf (key : String) {value : Json} (h : value.members? = none) (some_value : value ≠ .null) :
      (Json.object [(key, value)]).NullFree := by
    refine Json.nullFree_object_iff.2 fun other inner found => ?_
    obtain ⟨-, rfl⟩ : key = other ∧ value = inner := by
      simpa [Keyed.get?_cons] using found
    exact ⟨some_value, .of_members?_eq_none h⟩
  refine Json.nullFree_object_iff.2 fun key value found => ?_
  rcases List.mem_cons.1 (Keyed.mem_of_get? found) with same | mem
  · cases same
    exact ⟨by simp, leaf _ rfl (by simp)⟩
  · cases List.mem_singleton.1 mem
    exact ⟨by simp, leaf _ rfl (by simp)⟩

/-- A null is dropped inside the grant and one beside it, the number of seats gives way to an
object, and the null in its list stays. -/
theorem mergePatch_between_seated :
    (Json.object limited).Sorted ∧ (Json.object seated).Sorted ∧ (Json.object seated).NullFree ∧
    Change.membersToJson (between limited seated) =
      [("grant", .object [("level", .bool true), ("until", .null)]), ("region", .null),
        ("seats", .object [("names", .array [.string "first", .null])])] ∧
    (Json.mergePatch (some (.object limited))
      (.object (Change.membersToJson (between limited seated)))).equal (.object seated) = true := by
  have sortedOld : (Json.object limited).Sorted := by decide
  have sortedNew : (Json.object seated).Sorted := by decide
  exact ⟨sortedOld, sortedNew, nullFree_seated, rfl,
    mergePatch_between sortedOld sortedNew nullFree_seated⟩

end Changes

end Subscription
