import Subscription.Json.Basic
import Subscription.Proofs.Keyed

/-!
# Equality of JSON values as equality of normal forms

The two zeros among the doubles are the only values that are written differently and yet equal. So
`Json.normal` clears the sign of every zero, and `equal_iff` says that two values are equal exactly
when their normal forms are the same. Reflexivity, symmetry and transitivity come with it, and
equal members can be compared key by key (`equal_object_iff`).
-/

namespace Subscription

/-! ### Normal forms -/

/-- The number, zero without its sign. -/
def Binary64.normal (x : Binary64) : Binary64 := if x.isZero then zero false else x

/-- The number, zero without its sign. -/
def Number.normal : Number → Number
  | .float x => .float x.normal
  | other => other

namespace Json

mutual

/-- The value with every zero among its doubles written without a sign. -/
def normal : Json → Json
  | .number n => .number n.normal
  | .array items => .array (normalItems items)
  | .object members => .object (normalMembers members)
  | other => other

/-- The normal forms of the listed values. -/
def normalItems : List Json → List Json
  | [] => []
  | item :: rest => item.normal :: normalItems rest

/-- The members with their values in normal form. -/
def normalMembers : List (String × Json) → List (String × Json)
  | [] => []
  | (key, value) :: rest => (key, value.normal) :: normalMembers rest

end

end Json

/-! ### Equality -/

theorem Binary64.isZero_normal (x : Binary64) : x.normal.isZero = x.isZero := by
  rw [normal]
  split
  · next hx => exact hx.symm
  · rfl

/-- Two doubles are equal if they are the same but for the sign of zero. -/
theorem Binary64.equal_iff (x y : Binary64) : x.equal y = true ↔ x.normal = y.normal := by
  have apart (h : x.normal = y.normal) : x.isZero = y.isZero := by
    rw [← isZero_normal x, h, isZero_normal]
  cases hx : x.isZero <;> cases hy : y.isZero
  case false.false => simp [equal, normal, hx, hy]
  case true.true => simp [equal, normal, hx, hy]
  -- One of the two is a zero, and the other is not.
  all_goals
    have hne : x.normal ≠ y.normal := fun h => by simp [apart h, hy] at hx
    have hxy : x ≠ y := fun h => hne (h ▸ rfl)
    simp [equal, hx, hy, hne, hxy]

/-- Two numbers are equal if they are of one kind and the same but for the sign of zero. -/
theorem Number.equal_iff (m n : Number) : m.equal n = true ↔ m.normal = n.normal := by
  cases m <;> cases n <;> simp [equal, normal, Binary64.equal_iff]

namespace Json

mutual

/-- Values are equal exactly when their normal forms are the same. -/
theorem equal_iff : ∀ a b : Json, a.equal b = true ↔ a.normal = b.normal
  | .null, b => by cases b <;> simp [equal, normal]
  | .bool _, b => by cases b <;> simp [equal, normal]
  | .number m, b => by cases b <;> simp [equal, normal, Number.equal_iff]
  | .string _, b => by cases b <;> simp [equal, normal]
  | .array as, b => by
    cases b with
    | array bs => simpa [equal, normal] using equalItems_iff as bs
    | _ => simp [equal, normal]
  | .object as, b => by
    cases b with
    | object bs => simpa [equal, normal] using equalMembers_iff as bs
    | _ => simp [equal, normal]

/-- Lists are equal if their items are, place by place. -/
theorem equalItems_iff : ∀ as bs : List Json,
    equalItems as bs = true ↔ normalItems as = normalItems bs
  | [], bs => by cases bs <;> simp [equalItems, normalItems]
  | a :: as, bs => by
    cases bs with
    | nil => simp [equalItems, normalItems]
    | cons b bs => simp [equalItems, normalItems, equal_iff a b, equalItems_iff as bs]

/-- Tables are equal if their keys are the same and their values are equal. -/
theorem equalMembers_iff : ∀ as bs : List (String × Json),
    equalMembers as bs = true ↔ normalMembers as = normalMembers bs
  | [], bs => by cases bs <;> simp [equalMembers, normalMembers]
  | (k, a) :: as, bs => by
    cases bs with
    | nil => simp [equalMembers, normalMembers]
    | cons y bs =>
      obtain ⟨l, b⟩ := y
      simp [equalMembers, normalMembers, equal_iff a b, equalMembers_iff as bs, and_assoc]

end

@[simp] theorem equal_refl (a : Json) : a.equal a = true := (equal_iff a a).2 rfl

theorem equal_comm (a b : Json) : a.equal b = b.equal a := by
  rw [Bool.eq_iff_iff, equal_iff, equal_iff, eq_comm]

theorem equal_trans {a b c : Json} (hab : a.equal b = true) (hbc : b.equal c = true) :
    a.equal c = true :=
  (equal_iff a c).2 (((equal_iff a b).1 hab).trans ((equal_iff b c).1 hbc))

/-! ### Members -/

theorem normalMembers_eq_mapValues (members : Keyed Json) :
    normalMembers members = members.mapValues normal := by
  induction members with
  | nil => rfl
  | cons entry rest ih =>
    obtain ⟨key, value⟩ := entry
    rw [normalMembers, ih]
    rfl

/-- Under each key stands the normal form of what stood there. -/
theorem get?_normalMembers (members : Keyed Json) (key : String) :
    Keyed.get? (normalMembers members) key = (members.get? key).map normal := by
  rw [normalMembers_eq_mapValues, Keyed.get?_mapValues]

/-- Objects are equal exactly when they hold equal values under every key. -/
theorem equal_object_iff {a b : Keyed Json} (ha : a.Sorted) (hb : b.Sorted) :
    (object a).equal (object b) = true ↔
      ∀ key, (a.get? key).map normal = (b.get? key).map normal := by
  rw [equal_iff, normal, normal, object.injEq]
  constructor
  · intro h key
    rw [← get?_normalMembers, h, get?_normalMembers]
  · intro h
    rw [normalMembers_eq_mapValues, normalMembers_eq_mapValues]
    refine (ha.mapValues normal).ext (hb.mapValues normal) fun key => ?_
    rw [Keyed.get?_mapValues, Keyed.get?_mapValues, h]

/-- A value with the normal form of an object is an object. -/
theorem members?_ne_none_of_normal {value : Json} {members : Keyed Json}
    (h : value.normal = (object members).normal) : value.members? ≠ none := by
  cases value <;> simp_all [normal, members?]

end Json

end Subscription
