import Subscription.Entitlement.Change
import Subscription.Proofs.Json.Equality
import Subscription.Proofs.Json.Sorted

/-!
# Making the changes

`Changes.patch` makes listed changes to an object, which gives changes their meaning: a value is put
under its key, a dropped key goes, and nested changes are made to the object under their key. What
stands under a key afterwards depends on that key alone (`get?_patch`), and so do the changes that
`Changes.between` lists (`get?_between`). The two views meet key by key, so making the changes from
one object to another gives the other (`normal_patch_between`).
-/

namespace Subscription

/-! ### Patching -/

mutual

/-- What stands under a key after the change, from what stood there before. -/
def Change.apply (before : Option Json) : Change → Option Json
  | .value new => some new
  | .dropped => none
  | .nested changes => some (.object (Changes.patch ((before.bind Json.members?).getD []) changes))

/-- The members with every change made under its key. -/
def Changes.patch (old : Keyed Json) : List (String × Change) → Keyed Json
  | [] => old
  | (key, change) :: rest =>
    Changes.patch (old.set key (Change.apply (old.get? key) change)) rest

end

/-- What stands under a key after the change that is listed for it, if any. -/
def Change.applyAny (before : Option Json) (change : Option Change) : Option Json :=
  change.elim before (apply before)

@[simp] theorem Change.applyAny_none (before : Option Json) : applyAny before none = before := rfl

@[simp] theorem Change.applyAny_some (before : Option Json) (change : Change) :
    applyAny before (some change) = apply before change := rfl

/-- Changes inside an object are put into it. -/
theorem Change.apply_nested (old : Keyed Json) (changes : Changes) :
    apply (some (.object old)) (.nested changes) = some (.object (Changes.patch old changes)) := by
  rw [apply]
  rfl

namespace Changes

@[simp] theorem patch_nil (old : Keyed Json) : patch old [] = old := by rw [patch]

/-- What stands under a key after all changes is what the change of this key makes of it. -/
theorem get?_patch {changes : Changes} (hs : changes.Sorted) (old : Keyed Json) (key : String) :
    (patch old changes).get? key = Change.applyAny (old.get? key) (changes.get? key) := by
  induction changes generalizing old with
  | nil => rw [patch_nil, Keyed.get?_nil, Change.applyAny_none]
  | cons entry rest ih =>
    obtain ⟨k, change⟩ := entry
    rw [patch, ih (List.pairwise_cons.1 hs).2, Keyed.get?_set, Keyed.get?_cons]
    by_cases same : k = key
    · subst same
      rw [if_pos rfl, if_pos rfl, hs.get?_tail_eq_none]
      rfl
    · rw [if_neg same, if_neg same]

/-- Patching keeps the keys ascending. -/
theorem sorted_keys_patch {old : Keyed Json} (hs : old.Sorted) (changes : Changes) :
    (patch old changes).Sorted := by
  induction changes generalizing old with
  | nil => rwa [patch_nil]
  | cons entry rest ih =>
    rw [patch]
    exact ih (hs.set _ _)

/-! ### The changes, key by key -/

/-- The change of a key is found from what stands under it on both sides. A key of the old object
alone is dropped. -/
theorem get?_between {new : Keyed Json} (hs : new.Sorted) (old : Keyed Json) (key : String) :
    (between old new).get? key =
      match new.get? key with
      | none => (old.get? key).map fun _ => .dropped
      | some after => Change.between? (old.get? key) after := by
  rw [between]
  induction new generalizing old with
  | nil => rw [Change.listed, Keyed.get?_mapValues, Keyed.get?_nil]
  | cons entry rest ih =>
    obtain ⟨k, after⟩ := entry
    -- The first key is settled here: it is gone from the old object and not among the rest.
    have others := ih (List.pairwise_cons.1 hs).2 (old.erase k)
    rw [Change.listed, Keyed.get?_cons]
    by_cases same : k = key
    · subst same
      rw [hs.get?_tail_eq_none, Keyed.get?_erase, if_pos rfl] at others
      rw [if_pos rfl]
      split
      · next unchanged => exact others.trans unchanged.symm
      · next change changed => exact (Keyed.get?_insert ..).trans ((if_pos rfl).trans changed.symm)
    · rw [Keyed.get?_erase, if_neg same] at others
      rw [if_neg same]
      split
      · exact others
      · rw [Keyed.get?_insert, if_neg same, others]

/-- The changes stand in the order of their keys. -/
theorem sorted_between {old : Keyed Json} (hs : old.Sorted) (new : Keyed Json) :
    (between old new).Sorted := by
  rw [between]
  induction new generalizing old with
  | nil =>
    rw [Change.listed]
    exact hs.mapValues _
  | cons entry rest ih =>
    obtain ⟨k, after⟩ := entry
    rw [Change.listed]
    split
    · exact ih (hs.erase k)
    · exact (ih (hs.erase k)).insert k _

end Changes

/-- Between two objects the change is nested, and there is none when nothing changed inside. -/
theorem Change.between?_objects (old new : Keyed Json) :
    between? (some (.object old)) (.object new) =
      if Changes.between old new = [] then none else some (.nested (Changes.between old new)) := by
  rw [between?, Changes.between]
  split
  · next nothing => rw [if_pos nothing]
  · next changes something => rw [if_neg something]

/-- Unless both sides are objects, a new or changed value is put in whole. -/
theorem Change.between?_whole {before : Option Json} {new : Json}
    (h : before.bind Json.members? = none ∨ new.members? = none) :
    between? before new = if before.any (·.equal new) then none else some (.value new) := by
  cases before with
  | none => rw [between?]; rfl
  | some value => cases value <;> cases new <;> simp_all [between?, Json.members?]

/-- Induction along the search for changes, which goes deeper only where both sides are objects. -/
theorem Change.between?_induction {motive : Option Json → Json → Prop}
    (whole : ∀ before new, before.bind Json.members? = none ∨ new.members? = none →
      motive before new)
    (objects : ∀ old new : Keyed Json,
      (∀ key after, new.get? key = some after → motive (old.get? key) after) →
        motive (some (.object old)) (.object new))
    (before : Option Json) (new : Json) : motive before new := by
  induction new using Json.objectInduction generalizing before with
  | leaf new hleaf => exact whole before new (.inr hleaf)
  | object new ih =>
    match before with
    | some (.object old) => exact objects old new fun key after found => ih key after found _
    | none | some .null | some (.bool _) | some (.number _) | some (.string _) | some (.array _) =>
      exact whole _ _ (.inl rfl)

/-! ### Patching with the changes found -/

/-- If the change found for every key makes its value the new one, then the changes found make the
object the new one. -/
private theorem normal_patch_of_forall {old new : Keyed Json} (hold : old.Sorted)
    (hnew : new.Sorted)
    (h : ∀ key after, new.get? key = some after →
      (Change.applyAny (old.get? key) (Change.between? (old.get? key) after)).map Json.normal =
        some after.normal) :
    (Json.object (Changes.patch old (Changes.between old new))).normal =
      (Json.object new).normal := by
  rw [← Json.equal_iff, Json.equal_object_iff (Changes.sorted_keys_patch hold _) hnew]
  intro key
  rw [Changes.get?_patch (Changes.sorted_between hold new), Changes.get?_between hnew]
  cases found : new.get? key with
  | none => cases old.get? key <;> simp [Change.apply]
  | some after => exact h key after found

/-- The change found for a key makes a value equal to the new one of what stood there. -/
theorem Change.normal_applyAny_between? (before : Option Json) (new : Json)
    (hbefore : ∀ value, before = some value → value.Sorted) (hnew : new.Sorted) :
    (applyAny before (between? before new)).map Json.normal = some new.normal := by
  induction before, new using between?_induction with
  | whole before new h =>
    rw [between?_whole h]
    split
    · next same =>
      obtain ⟨value, rfl, heq⟩ := (Option.any_eq_true ..).1 same
      rw [applyAny_none, Option.map_some, (Json.equal_iff _ _).1 heq]
    · rw [applyAny_some, apply, Option.map_some]
  | objects old new ih =>
    have ⟨oldKeys, inOld⟩ := (Json.sorted_object_iff old).1 (hbefore _ rfl)
    have ⟨newKeys, inNew⟩ := (Json.sorted_object_iff new).1 hnew
    have inside : (Json.object (Changes.patch old (Changes.between old new))).normal =
        (Json.object new).normal :=
      normal_patch_of_forall oldKeys newKeys fun key after found =>
        ih key after found (inOld key) (inNew key after found)
    rw [between?_objects]
    split
    · next nothing =>
      rw [nothing, Changes.patch_nil] at inside
      exact congrArg some inside
    · rw [applyAny_some, apply_nested, Option.map_some, inside]

namespace Changes

/-- The changes between two objects lead from the one to the other, in the sense of normal forms. -/
theorem normal_patch_between {old new : Keyed Json} (hold : (Json.object old).Sorted)
    (hnew : (Json.object new).Sorted) :
    (Json.object (patch old (between old new))).normal = (Json.object new).normal := by
  have ⟨oldKeys, inOld⟩ := (Json.sorted_object_iff old).1 hold
  have ⟨newKeys, inNew⟩ := (Json.sorted_object_iff new).1 hnew
  exact normal_patch_of_forall oldKeys newKeys fun key after found =>
    Change.normal_applyAny_between? _ after (inOld key) (inNew key after found)

/-- **No change is lost**: making the changes from one object to another gives the other. -/
theorem equal_patch_between {old new : Keyed Json} (hold : (Json.object old).Sorted)
    (hnew : (Json.object new).Sorted) :
    (Json.object (patch old (between old new))).equal (.object new) = true :=
  (Json.equal_iff _ _).2 (normal_patch_between hold hnew)

/-- A trial, with a note to that effect. -/
def trial : Keyed Json :=
  [("grant", .object [("level", .bool false)]), ("note", .string "trial")]

/-- The grant that a trial may be raised to. -/
def full : Keyed Json :=
  [("grant", .object [("level", .bool true), ("seats", .number (.float (.zero false)))])]

theorem sorted_trial : (Json.object trial).Sorted := by decide

theorem sorted_full : (Json.object full).Sorted := by decide

/-- Inside the grant a member changes and one is new, and the note beside it goes. -/
theorem equal_patch_between_trial :
    (Json.object trial).Sorted ∧ (Json.object full).Sorted ∧
    (Json.object (patch trial (between trial full))).equal (.object full) = true :=
  ⟨sorted_trial, sorted_full, equal_patch_between sorted_trial sorted_full⟩

end Changes

end Subscription
