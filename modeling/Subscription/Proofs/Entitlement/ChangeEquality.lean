import Subscription.Proofs.Entitlement.Patch

/-!
# Equality of changes

Changes are equal when they change the same keys in the same way, up to the sign of a zero in the
values put in. As for values, this is sameness of normal forms (`Changes.equal_iff`). Patching goes
along with normal forms (`Changes.normalMembers_patch`), so changes do the same to equal objects.
-/

namespace Subscription

/-! ### Normal forms of changes -/

mutual

/-- Whether two changes are equal: of one kind, with equal values. -/
def Change.equal : Change → Change → Bool
  | .value a, .value b => a.equal b
  | .dropped, .dropped => true
  | .nested as, .nested bs => Changes.equal as bs
  | _, _ => false

/-- Whether two lists of changes are equal: equal changes of the same keys. -/
def Changes.equal : List (String × Change) → List (String × Change) → Bool
  | [], [] => true
  | (k, a) :: as, (l, b) :: bs => k == l && a.equal b && Changes.equal as bs
  | _, _ => false

end

mutual

/-- The change with all its values in normal form. -/
def Change.normal : Change → Change
  | .value new => .value new.normal
  | .dropped => .dropped
  | .nested changes => .nested (Changes.normal changes)

/-- The changes with all their values in normal form. -/
def Changes.normal : List (String × Change) → List (String × Change)
  | [] => []
  | (key, change) :: rest => (key, change.normal) :: Changes.normal rest

end

mutual

/-- Changes are equal exactly when their normal forms are the same. -/
theorem Change.equal_iff : ∀ a b : Change, a.equal b = true ↔ a.normal = b.normal
  | .value a, b => by cases b <;> simp [Change.equal, Change.normal, Json.equal_iff]
  | .dropped, b => by cases b <;> simp [Change.equal, Change.normal]
  | .nested as, b => by
    cases b with
    | nested bs => simpa [Change.equal, Change.normal] using Changes.equal_iff as bs
    | _ => simp [Change.equal, Change.normal]

theorem Changes.equal_iff : ∀ as bs : List (String × Change),
    Changes.equal as bs = true ↔ Changes.normal as = Changes.normal bs
  | [], bs => by cases bs <;> simp [Changes.equal, Changes.normal]
  | (k, a) :: as, bs => by
    cases bs with
    | nil => simp [Changes.equal, Changes.normal]
    | cons y bs =>
      obtain ⟨l, b⟩ := y
      simp [Changes.equal, Changes.normal, Change.equal_iff a b, Changes.equal_iff as bs,
        and_assoc]

end

namespace Changes

theorem normal_eq_mapValues (changes : Changes) :
    Changes.normal changes = changes.mapValues Change.normal := by
  induction changes with
  | nil => rfl
  | cons entry rest ih =>
    obtain ⟨key, change⟩ := entry
    rw [Changes.normal, ih]
    rfl

/-- Changes whose normal forms are the same key by key are the same in normal form. -/
theorem normal_ext {a b : Changes} (ha : a.Sorted) (hb : b.Sorted)
    (h : ∀ key, (a.get? key).map Change.normal = (b.get? key).map Change.normal) :
    Changes.normal a = Changes.normal b := by
  rw [normal_eq_mapValues, normal_eq_mapValues]
  refine (ha.mapValues Change.normal).ext (hb.mapValues Change.normal) fun key => ?_
  rw [Keyed.get?_mapValues, Keyed.get?_mapValues, h]

theorem normal_eq_nil_iff {changes : Changes} : Changes.normal changes = [] ↔ changes = [] := by
  cases changes <;> simp [Changes.normal]

end Changes

/-! ### Patching and normal forms -/

mutual

/-- What a change does in normal form is what its normal form does. -/
theorem Change.normal_apply : ∀ (before : Option Json) (change : Change),
    (Change.apply before change).map Json.normal =
      Change.apply (before.map Json.normal) change.normal
  | _, .value _ => by simp [Change.apply, Change.normal]
  | _, .dropped => by simp [Change.apply, Change.normal]
  | before, .nested changes => by
    have members : Json.normalMembers ((before.bind Json.members?).getD []) =
        ((before.map Json.normal).bind Json.members?).getD [] := by
      rcases before with _ | value
      · rfl
      · cases value <;> rfl
    rw [Change.apply, Change.normal, Change.apply, Option.map_some, Json.normal,
      Changes.normalMembers_patch, members]

theorem Changes.normalMembers_patch : ∀ (old : Keyed Json) (changes : List (String × Change)),
    Json.normalMembers (Changes.patch old changes) =
      Changes.patch (Json.normalMembers old) (Changes.normal changes)
  | _, [] => by simp [Changes.patch, Changes.normal]
  | old, (key, change) :: rest => by
    rw [Changes.patch, Changes.normal, Changes.patch, Changes.normalMembers_patch _ rest,
      Json.normalMembers_eq_mapValues (old.set _ _), Keyed.mapValues_set,
      ← Json.normalMembers_eq_mapValues, Change.normal_apply _ change, Json.get?_normalMembers]

end

/-- Changes do the same to equal objects. -/
theorem Changes.equal_patch {a b : Keyed Json} (h : (Json.object a).equal (.object b) = true)
    (changes : Changes) : (Json.object (patch a changes)).equal (.object (patch b changes)) := by
  rw [Json.equal_iff, Json.normal, Json.normal, Json.object.injEq] at h ⊢
  rw [normalMembers_patch, normalMembers_patch, h]

end Subscription
