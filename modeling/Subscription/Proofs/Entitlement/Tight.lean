import Subscription.Proofs.Entitlement.ChangeEquality
import Subscription.Proofs.Entitlement.Reconcile

/-!
# The changes found are the least ones

Changes are tight for an object when none of them, at any depth, does nothing or says more than it
has to: a value is put only where the object has none or a different one, an object in place of an
object is never put whole, only keys that are there are dropped, and nested changes are some.
-/

namespace Subscription

/-! ### Well-formed changes -/

mutual

/-- The keys ascend at every depth, and all values are sorted. -/
def Change.WellFormed : Change → Prop
  | .value new => new.Sorted
  | .dropped => True
  | .nested changes => Keyed.Sorted changes ∧ Changes.AllWellFormed changes

/-- All of the changes are well-formed. -/
def Changes.AllWellFormed : List (String × Change) → Prop
  | [] => True
  | (_, change) :: rest => change.WellFormed ∧ Changes.AllWellFormed rest

end

/-- The keys ascend, and all changes are well-formed. -/
def Changes.WellFormed (changes : Changes) : Prop := changes.Sorted ∧ AllWellFormed changes

/-- A change inside an object is well-formed if the changes in it are. -/
theorem Change.wellFormed_nested (changes : Changes) :
    (nested changes).WellFormed ↔ changes.WellFormed := by
  rw [WellFormed, Changes.WellFormed]

theorem Changes.allWellFormed_iff (changes : Changes) :
    AllWellFormed changes ↔ ∀ entry ∈ changes, entry.2.WellFormed := by
  induction changes with
  | nil => simp [AllWellFormed]
  | cons entry rest ih =>
    obtain ⟨key, change⟩ := entry
    simp [AllWellFormed, ih]

/-- Changes are well-formed if their keys are in order and each of them is well-formed. -/
theorem Changes.wellFormed_iff (changes : Changes) :
    WellFormed changes ↔
      changes.Sorted ∧ ∀ key change, changes.get? key = some change → change.WellFormed := by
  rw [WellFormed, allWellFormed_iff]
  exact and_congr_right fun hs => hs.forall_mem_iff (P := fun _ change => change.WellFormed)

/-! ### Tight changes -/

mutual

/-- The change is needed where `before` stands, and says no more than it has to. -/
def Change.Tight (before : Option Json) : Change → Prop
  | .value new => ∀ value, before = some value →
      value.equal new = false ∧ (value.members? = none ∨ new.members? = none)
  | .dropped => before.isSome
  | .nested changes =>
      ∃ old, before = some (.object old) ∧ changes ≠ [] ∧ Changes.Tight old changes

/-- Every change is tight where its key stands in `old`. -/
def Changes.Tight (old : Keyed Json) : List (String × Change) → Prop
  | [] => True
  | (key, change) :: rest => Change.Tight (old.get? key) change ∧ Changes.Tight old rest

end

/-- A change inside an object is tight if it has changes, all of them tight. -/
theorem Change.tight_nested (old : Keyed Json) (changes : Changes) :
    Tight (some (.object old)) (nested changes) ↔ changes ≠ [] ∧ Changes.Tight old changes := by
  rw [Tight]
  constructor
  · rintro ⟨_, same, some_changes, tight⟩
    obtain rfl := Json.object.inj (Option.some.inj same)
    exact ⟨some_changes, tight⟩
  · exact fun h => ⟨old, rfl, h⟩

/-- Changes are tight if each of them is tight where its key leads. -/
theorem Changes.tight_iff {changes : Changes} (hs : changes.Sorted) (old : Keyed Json) :
    Tight old changes ↔
      ∀ key change, changes.get? key = some change → Change.Tight (old.get? key) change := by
  have listed : Tight old changes ↔
      ∀ entry ∈ changes, Change.Tight (old.get? entry.1) entry.2 := by
    clear hs
    induction changes with
    | nil => simp [Tight]
    | cons entry rest ih =>
      obtain ⟨key, change⟩ := entry
      simp [Tight, ih]
  rw [listed]
  exact hs.forall_mem_iff (P := fun key change => Change.Tight (old.get? key) change)

/-! ### The changes found are tight -/

/-- The change found for a key is well-formed and tight where it is made. -/
theorem Change.wellFormed_tight_between? (before : Option Json) (new : Json)
    (hbefore : ∀ value, before = some value → value.Sorted) (hnew : new.Sorted) (change : Change)
    (found : between? before new = some change) : change.WellFormed ∧ change.Tight before := by
  -- The induction follows the search: it descends where both values are objects.
  induction before, new using between?_induction generalizing change with
  | whole before new h =>
    rw [between?_whole h] at found
    split at found
    · cases found
    · next different =>
      obtain rfl := Option.some.inj found
      refine ⟨by rwa [WellFormed], ?_⟩
      rw [Tight]
      rintro value rfl
      exact ⟨by simpa using different, h⟩
  | objects old new ih =>
    have ⟨oldKeys, inOld⟩ := (Json.sorted_object_iff old).1 (hbefore _ rfl)
    have ⟨newKeys, inNew⟩ := (Json.sorted_object_iff new).1 hnew
    have keys := Changes.sorted_between oldKeys new
    have each (key : String) (change : Change)
        (found : (Changes.between old new).get? key = some change) :
        change.WellFormed ∧ change.Tight (old.get? key) := by
      rw [Changes.get?_between newKeys] at found
      cases hkey : new.get? key with
      | some after =>
        rw [hkey] at found
        exact ih key after hkey (inOld key) (inNew key after hkey) change found
      | none =>
        rw [hkey] at found
        obtain ⟨value, hvalue, rfl⟩ := Option.map_eq_some_iff.1 found
        exact ⟨by rw [WellFormed]; trivial, by rw [Tight, hvalue]; rfl⟩
    rw [between?_objects] at found
    split at found
    · cases found
    · next something =>
      obtain rfl := Option.some.inj found
      rw [wellFormed_nested, Changes.wellFormed_iff, tight_nested, Changes.tight_iff keys]
      exact ⟨⟨keys, fun key change h => (each key change h).1⟩,
        something, fun key change h => (each key change h).2⟩

/-- The changes from one sorted object to another are well-formed, and tight for the first. -/
theorem Changes.wellFormed_tight_between {old new : Keyed Json} (hold : (Json.object old).Sorted)
    (hnew : (Json.object new).Sorted) :
    WellFormed (between old new) ∧ Tight old (between old new) := by
  by_cases nothing : between old new = []
  · rw [nothing, WellFormed, AllWellFormed, Tight]
    exact ⟨⟨List.Pairwise.nil, trivial⟩, trivial⟩
  · have found : Change.between? (some (.object old)) (.object new) =
        some (.nested (between old new)) := by rw [Change.between?_objects, if_neg nothing]
    obtain ⟨wellFormed, tight⟩ := Change.wellFormed_tight_between? _ _
      (fun value h => Option.some.inj h ▸ hold) hnew _ found
    exact ⟨(Change.wellFormed_nested _).1 wellFormed, ((Change.tight_nested _ _).1 tight).2⟩

/-! ### No other changes are tight -/

/-- Tight changes that make an object the new one are, key by key, the changes found, if this holds
of the change of every key that stays. -/
private theorem normal_eq_between_of_forall {old new : Keyed Json} (hold : old.Sorted)
    (hnew : new.Sorted) {changes : Changes} (keys : changes.Sorted)
    (h : ∀ key after, new.get? key = some after →
      (Change.applyAny (old.get? key) (changes.get? key)).map Json.normal = some after.normal →
      (changes.get? key).map Change.normal =
        (Change.between? (old.get? key) after).map Change.normal)
    (tight : Changes.Tight old changes)
    (made : (Json.object (Changes.patch old changes)).normal = (Json.object new).normal) :
    Changes.normal changes = Changes.normal (Changes.between old new) := by
  rw [← Json.equal_iff, Json.equal_object_iff (Changes.sorted_keys_patch hold _) hnew] at made
  refine Changes.normal_ext keys (Changes.sorted_between hold new) fun key => ?_
  have at_key := made key
  rw [Changes.get?_patch keys] at at_key
  rw [Changes.get?_between hnew]
  cases hkey : new.get? key with
  | some after =>
    rw [hkey, Option.map_some] at at_key
    exact h key after hkey at_key
  | none =>
    -- The new side has nothing here: what there is is dropped, and by tightness nothing else is.
    rw [hkey, Option.map_none, Option.map_eq_none_iff] at at_key
    cases hchange : changes.get? key with
    | none =>
      rw [hchange, Change.applyAny_none] at at_key
      rw [at_key]
      rfl
    | some change =>
      rw [hchange, Change.applyAny_some] at at_key
      cases change with
      | value new => cases at_key
      | nested changes => cases at_key
      | dropped =>
        have present := (Changes.tight_iff keys old).1 tight key _ hchange
        rw [Change.Tight, Option.isSome_iff_exists] at present
        obtain ⟨value, hvalue⟩ := present
        rw [hvalue]
        rfl

/-- Where not both sides are objects, a change that makes the value the new one puts it whole, if
it is tight. -/
private theorem Change.normal_eq_of_whole {before : Option Json} {new : Json}
    (h : before.bind Json.members? = none ∨ new.members? = none) {change : Option Change}
    (tight : ∀ c, change = some c → c.Tight before)
    (made : (applyAny before change).map Json.normal = some new.normal) :
    change.map Change.normal = (between? before new).map Change.normal := by
  rw [between?_whole h]
  match change with
  | none =>
    obtain ⟨value, rfl, same⟩ := Option.map_eq_some_iff.1 made
    simp [(Json.equal_iff value new).2 same]
  | some (.value put) =>
    have hput : put.normal = new.normal := Option.some.inj made
    have different : before.any (·.equal new) = false := by
      cases before with
      | none => rfl
      | some value =>
        have apart := ((tight _ rfl) value rfl).1
        rwa [Option.any_some, ← Bool.not_eq_true, Json.equal_iff, ← hput, ← Json.equal_iff,
          Bool.not_eq_true]
    simp [different, normal, hput]
  | some .dropped => cases made
  | some (.nested changes) =>
    -- A tight nested change is made to an object and gives an object, which is ruled out here.
    obtain ⟨old, rfl, -⟩ := tight _ rfl
    rw [applyAny_some, apply_nested, Option.map_some] at made
    have isObject := Json.members?_ne_none_of_normal (Option.some.inj made).symm
    rcases h with h | h
    · cases h
    · exact absurd h isObject

/-- Between two objects, a change that makes the value the new one is nested, if it is tight, and
what it says inside is settled by the changes inside. -/
private theorem Change.normal_eq_of_objects {old new : Keyed Json}
    (inside : ∀ changes : Changes, changes.WellFormed → Changes.Tight old changes →
      (Json.object (Changes.patch old changes)).normal = (Json.object new).normal →
      Changes.normal changes = Changes.normal (Changes.between old new))
    {change : Option Change} (wellFormed : ∀ c, change = some c → c.WellFormed)
    (tight : ∀ c, change = some c → c.Tight (some (.object old)))
    (made : (applyAny (some (.object old)) change).map Json.normal =
      some (Json.object new).normal) :
    change.map Change.normal =
      (between? (some (.object old)) (.object new)).map Change.normal := by
  rw [between?_objects]
  match change with
  | none =>
    have nothing : Changes.between old new = [] := by
      rw [← Changes.normal_eq_nil_iff, ← inside [] ⟨List.Pairwise.nil, trivial⟩ trivial]
      · rfl
      · rw [Changes.patch_nil]
        exact Option.some.inj made
    rw [if_pos nothing]
  | some (.value put) =>
    -- The value put in would be an object in place of an object.
    have isObject := Json.members?_ne_none_of_normal (Option.some.inj made)
    rcases ((tight _ rfl) _ rfl).2 with h | h
    · cases h
    · exact absurd h isObject
  | some .dropped => cases made
  | some (.nested changes) =>
    obtain ⟨some_changes, tight⟩ := (tight_nested old changes).1 (tight _ rfl)
    rw [applyAny_some, apply_nested] at made
    have same := inside changes ((wellFormed_nested changes).1 (wellFormed _ rfl)) tight
      (Option.some.inj made)
    have something : Changes.between old new ≠ [] := by
      rwa [Ne, ← Changes.normal_eq_nil_iff, ← same, Changes.normal_eq_nil_iff]
    rw [if_neg something, Option.map_some, Option.map_some, normal, normal, same]

/-- The change of a key that is tight, or none, and makes its value the new one is the change found
for the key. -/
theorem Change.normal_eq_between? (before : Option Json) (new : Json)
    (hbefore : ∀ value, before = some value → value.Sorted) (hnew : new.Sorted)
    (change : Option Change) (wellFormed : ∀ c, change = some c → c.WellFormed)
    (tight : ∀ c, change = some c → c.Tight before)
    (made : (applyAny before change).map Json.normal = some new.normal) :
    change.map Change.normal = (between? before new).map Change.normal := by
  induction before, new using between?_induction generalizing change with
  | whole before new h => exact normal_eq_of_whole h tight made
  | objects old new ih =>
    have ⟨oldKeys, inOld⟩ := (Json.sorted_object_iff old).1 (hbefore _ rfl)
    have ⟨newKeys, inNew⟩ := (Json.sorted_object_iff new).1 hnew
    refine normal_eq_of_objects (fun changes wellFormed tight made => ?_) wellFormed tight made
    have ⟨keys, inChanges⟩ := (Changes.wellFormed_iff changes).1 wellFormed
    refine normal_eq_between_of_forall oldKeys newKeys keys (fun key after hkey => ?_) tight made
    exact ih key after hkey (inOld key) (inNew key after hkey) (changes.get? key)
      (inChanges key) ((Changes.tight_iff keys old).1 tight key)

namespace Changes

variable {old new : Keyed Json}

/-- Tight changes that make an object the new one are equal to the changes found. -/
theorem equal_between_of_tight (hold : (Json.object old).Sorted) (hnew : (Json.object new).Sorted)
    {changes : Changes} (wellFormed : changes.WellFormed) (tight : Tight old changes)
    (made : (Json.object (patch old changes)).equal (.object new) = true) :
    Changes.equal changes (between old new) = true := by
  have ⟨oldKeys, inOld⟩ := (Json.sorted_object_iff old).1 hold
  have ⟨newKeys, inNew⟩ := (Json.sorted_object_iff new).1 hnew
  have ⟨keys, inChanges⟩ := (wellFormed_iff changes).1 wellFormed
  rw [Json.equal_iff] at made
  rw [equal_iff]
  refine normal_eq_between_of_forall oldKeys newKeys keys (fun key after hkey => ?_) tight made
  exact Change.normal_eq_between? _ after (inOld key) (inNew key after hkey) (changes.get? key)
    (inChanges key) ((tight_iff keys old).1 tight key)

/-- Nothing changed exactly between equal objects. -/
theorem between_eq_nil_iff (hold : (Json.object old).Sorted) (hnew : (Json.object new).Sorted) :
    between old new = [] ↔ (Json.object old).equal (.object new) = true := by
  constructor
  · intro nothing
    rw [Json.equal_iff, ← normal_patch_between hold hnew, nothing, patch_nil]
  · intro same
    have least : Changes.equal [] (between old new) = true :=
      equal_between_of_tight hold hnew ⟨List.Pairwise.nil, trivial⟩ trivial (by rwa [patch_nil])
    rw [equal_iff] at least
    exact normal_eq_nil_iff.1 least.symm

end Changes

/-- There are no changes from one access to another exactly if their views are equal. -/
theorem Access.isEmpty_delta {old new : Access} (hold : old.Ordered) (hnew : new.Ordered)
    (series : Option String) : (old.delta new series).isEmpty =
      (Json.object (old.comparisonView series)).equal (.object (new.comparisonView series)) := by
  rw [Bool.eq_iff_iff, ← Changes.between_eq_nil_iff (sorted_comparisonView hold series)
    (sorted_comparisonView hnew series), Delta.isEmpty, delta, List.isEmpty_iff]

/-- A service whose record did not change on this machine is left alone. -/
theorem Access.Reconciled.calls_eq_of_nil {σ : Type} {env : Environment σ} {old new : Access}
    {options : ReconcileOptions} {world after : World σ} {result : Except ReconcileError Delta}
    (h : Reconciled env old new options world result after)
    (same : ∀ series, seriesFor env old new options world.state = .ok series →
      (old.delta new series).changes = []) : after.journal.calls = world.journal.calls := by
  cases h with
  | unplaced | unchanged | untyped | unsupported => rfl
  | called asked something =>
    rw [Delta.isEmpty, same _ asked] at something
    cases something

/-- **The changes found are the least ones**: they are tight, and no other tight changes make an
object the new one. So there are none exactly between equal objects, and no processor is called for
a record that is the same in what counts on the machine. -/
theorem Changes.between_tight_and_unique {old new : Keyed Json} (hold : (Json.object old).Sorted)
    (hnew : (Json.object new).Sorted) :
    Tight old (between old new) ∧
    (∀ changes : Changes, changes.WellFormed → Tight old changes →
      (Json.object (patch old changes)).equal (.object new) = true →
      Changes.equal changes (between old new) = true) ∧
    (between old new = [] ↔ (Json.object old).equal (.object new) = true) ∧
    (∀ (σ : Type) (env : Environment σ) (before after : Access) (options : ReconcileOptions)
      (world : World σ),
      (∀ series, Access.seriesFor env before after options world.state = .ok series →
        before.comparisonView series = old ∧ after.comparisonView series = new) →
      (Json.object old).equal (.object new) = true →
      ((Access.reconcile env before after options).perform world).2.journal.calls =
        world.journal.calls) := by
  have nothing := between_eq_nil_iff hold hnew
  refine ⟨(wellFormed_tight_between hold hnew).2, fun changes => equal_between_of_tight hold hnew,
    nothing, fun σ env before after options world views same => ?_⟩
  refine (Access.reconciled env before after options world).calls_eq_of_nil fun series asked => ?_
  obtain ⟨rfl, rfl⟩ := views series asked
  exact nothing.2 same

/-- Of the ways to raise a trial to a full grant the one found is the only tight one, up to the sign
of a zero. -/
theorem Changes.between_tight_and_unique_trial :
    (Json.object trial).Sorted ∧ (Json.object full).Sorted ∧ Tight trial (between trial full) ∧
    Changes.equal
      [("grant", .nested [("level", .value (.bool true)),
        ("seats", .value (.number (.float (.zero true))))]), ("note", .dropped)]
      (between trial full) = true := by
  have least := between_tight_and_unique sorted_trial sorted_full
  refine ⟨sorted_trial, sorted_full, least.1, least.2.1 _ ?_ ?_ ?_⟩
  · simp only [WellFormed, AllWellFormed, Change.WellFormed, Json.Sorted, and_true]
    decide
  · simp [Tight, Change.Tight, trial, Keyed.get?, Json.equal, Json.members?]
  · decide

end Subscription
