import Subscription.Keyed
import Mathlib.Tactic.ByContra

/-!
# Collections known by what stands under their keys

A collection with ascending keys is determined by its view: `Keyed.Sorted.ext` says that two of them
with the same value under every key are the same list. Whatever is defined by recursion over the
listing can thus be reasoned about through `Keyed.get?` alone.

`Keyed.set` puts a value under a key or removes what is there; it is what a change does to the
key it stands for.
-/

namespace Subscription

namespace Keyed

variable {α β : Type}

/-! ### Entries and look-ups -/

theorem mem_of_get? {entries : Keyed α} {key : String} {value : α}
    (h : entries.get? key = some value) : (key, value) ∈ entries := by
  induction entries with
  | nil => simp at h
  | cons entry rest ih =>
    obtain ⟨k, first⟩ := entry
    rw [get?_cons] at h
    split at h
    · next same => rw [same, Option.some.inj h]; exact List.mem_cons_self
    · exact List.mem_cons_of_mem _ (ih h)

theorem get?_eq_none_of_forall_ne {entries : Keyed α} {key : String}
    (h : ∀ entry ∈ entries, entry.1 ≠ key) : entries.get? key = none := by
  cases found : entries.get? key with
  | none => rfl
  | some value => exact absurd rfl (h _ (mem_of_get? found))

theorem mem_keys_iff {entries : Keyed α} {key : String} :
    key ∈ entries.keys ↔ (entries.get? key).isSome := by
  induction entries with
  | nil => simp [keys]
  | cons entry rest ih =>
    obtain ⟨k, value⟩ := entry
    rw [get?_cons]
    by_cases same : k = key
    · simp [keys, same]
    · rw [if_neg same, ← ih]
      simp [keys, Ne.symm same]

/-- The keys of a collection are those of the entries that it was built from. -/
theorem mem_keys_ofList {entries : List (String × α)} {key : String} :
    key ∈ (ofList entries).keys ↔ key ∈ entries.map Prod.fst := by
  suffices ∀ collected : Keyed α, ((entries.foldl (fun collected (entry : String × α) =>
      collected.insert entry.1 entry.2) collected).get? key).isSome ↔
      (collected.get? key).isSome ∨ key ∈ entries.map Prod.fst by
    rw [mem_keys_iff, ofList, this]
    simp
  induction entries with
  | nil => simp
  | cons entry rest ih =>
    intro collected
    rw [List.foldl_cons, ih, get?_insert, List.map_cons, List.mem_cons]
    by_cases same : entry.1 = key
    · simp [same]
    · simp [same, Ne.symm same]

/-- The first key of an ascending listing does not occur again. -/
theorem Sorted.get?_tail_eq_none {k : String} {first : α} {rest : Keyed α}
    (hs : Sorted ((k, first) :: rest)) : rest.get? k = none :=
  get?_eq_none_of_forall_ne fun entry mem same =>
    String.lt_irrefl k (by simpa [same] using (List.pairwise_cons.1 hs).1 entry mem)

/-- In an ascending listing every entry is found under its key. -/
theorem Sorted.get?_eq_some {entries : Keyed α} (hs : entries.Sorted) {key : String} {value : α}
    (mem : (key, value) ∈ entries) : entries.get? key = some value := by
  induction entries with
  | nil => simp at mem
  | cons entry rest ih =>
    obtain ⟨k, first⟩ := entry
    have ⟨above, tail⟩ := List.pairwise_cons.1 hs
    rw [get?_cons]
    rcases List.mem_cons.1 mem with same | mem
    · obtain ⟨rfl, rfl⟩ := Prod.mk.inj same
      exact if_pos rfl
    · have later : k ≠ key := fun same => String.lt_irrefl k (by simpa [same] using above _ mem)
      rw [if_neg later, ih tail mem]

/-- At most one entry of an ascending listing has a key. -/
theorem Sorted.filter_key {entries : Keyed α} (hs : entries.Sorted) (key : String) :
    entries.filter (fun entry => entry.1 = key) =
      ((entries.get? key).map fun value => (key, value)).toList := by
  induction entries with
  | nil => rfl
  | cons entry rest ih =>
    obtain ⟨k, first⟩ := entry
    have others := ih (List.pairwise_cons.1 hs).2
    by_cases same : k = key
    · subst same
      rw [hs.get?_tail_eq_none] at others
      simp [get?_cons, others]
    · simp [get?_cons, same, others]

/-- What holds of every entry of an ascending listing holds of what is found under every key. -/
theorem Sorted.forall_mem_iff {entries : Keyed α} (hs : entries.Sorted) {P : String → α → Prop} :
    (∀ entry ∈ entries, P entry.1 entry.2) ↔
      ∀ key value, entries.get? key = some value → P key value := by
  refine ⟨fun h key value found => h _ (mem_of_get? found), ?_⟩
  rintro h ⟨key, value⟩ mem
  exact h key value (hs.get?_eq_some mem)

theorem get?_mapValues (f : α → β) (entries : Keyed α) (key : String) :
    (entries.mapValues f).get? key = (entries.get? key).map f := by
  induction entries with
  | nil => rfl
  | cons entry rest ih =>
    obtain ⟨k, first⟩ := entry
    have head : mapValues f ((k, first) :: rest) = (k, f first) :: mapValues f rest := rfl
    rw [head, get?_cons, get?_cons, ih]
    split <;> rfl

/-- Keys that are taken out are gone, and every other key keeps its value. -/
theorem get?_without (entries : Keyed α) (keys : List String) (key : String) :
    (entries.without keys).get? key = if key ∈ keys then none else entries.get? key := by
  induction entries with
  | nil => simp [without]
  | cons entry rest ih =>
    obtain ⟨k, first⟩ := entry
    by_cases hk : k ∈ keys
    · have dropped : without ((k, first) :: rest) keys = without rest keys := by simp [without, hk]
      rw [dropped, ih, get?_cons]
      by_cases same : k = key
      · simp [same ▸ hk]
      · rw [if_neg same]
    · have kept : without ((k, first) :: rest) keys = (k, first) :: without rest keys := by
        simp [without, hk]
      rw [kept, get?_cons, get?_cons, ih]
      by_cases same : k = key
      · simp [same, same ▸ hk]
      · rw [if_neg same, if_neg same]

theorem Sorted.without {entries : Keyed α} (hs : entries.Sorted) (keys : List String) :
    (entries.without keys).Sorted :=
  List.Pairwise.filter _ hs

theorem Sorted.mapValues {entries : Keyed α} (hs : entries.Sorted) (f : α → β) :
    (entries.mapValues f).Sorted :=
  List.pairwise_map.2 hs

/-- Nothing is listed exactly when nothing stands under any key. -/
theorem eq_nil_iff {entries : Keyed α} : entries = [] ↔ ∀ key, entries.get? key = none := by
  constructor
  · rintro rfl key
    rfl
  · intro h
    cases entries with
    | nil => rfl
    | cons entry rest =>
      obtain ⟨k, first⟩ := entry
      simpa [get?_cons] using h k

/-! ### Setting or removing -/

/-- Puts a value under `key`, or removes what stands there. -/
def set (entries : Keyed α) (key : String) : Option α → Keyed α
  | some value => entries.insert key value
  | none => entries.erase key

/-- To set a key, or to erase it, changes what is found under that key only. -/
theorem get?_set (entries : Keyed α) (key : String) (value : Option α) (other : String) :
    (entries.set key value).get? other = if key = other then value else entries.get? other := by
  cases value with
  | none => exact get?_erase entries key other
  | some value => exact get?_insert entries key value other

/-- A sorted table stays sorted when a key is set or erased. -/
theorem Sorted.set {entries : Keyed α} (hs : entries.Sorted) (key : String) (value : Option α) :
    (entries.set key value).Sorted := by
  cases value with
  | none => exact hs.erase key
  | some value => exact hs.insert key value

/-- To change every value and to set one can be done in either order. -/
theorem mapValues_set (f : α → β) (entries : Keyed α) (key : String) (value : Option α) :
    (entries.set key value).mapValues f = (entries.mapValues f).set key (value.map f) := by
  cases value with
  | none =>
    change (entries.erase key).mapValues f = (entries.mapValues f).erase key
    rw [mapValues, mapValues, erase, erase, List.filter_map]
    rfl
  | some value =>
    change (entries.insert key value).mapValues f = (entries.mapValues f).insert key (f value)
    induction entries with
    | nil => rfl
    | cons entry rest ih =>
      obtain ⟨k, first⟩ := entry
      have head : mapValues f ((k, first) :: rest) = (k, f first) :: mapValues f rest := rfl
      rw [head, insert, insert]
      split
      · rfl
      · split
        · rfl
        · rw [← ih]
          rfl

/-! ### Extensionality -/

/-- Of two ascending listings with the same view both first keys are the least key, so they are
equal, and the rests have the same view again. -/
theorem Sorted.ext {a b : Keyed α} (ha : a.Sorted) (hb : b.Sorted)
    (h : ∀ key, a.get? key = b.get? key) : a = b := by
  induction a generalizing b with
  | nil => exact (eq_nil_iff.2 fun key => (h key).symm).symm
  | cons x as ih =>
    obtain ⟨k, v⟩ := x
    cases b with
    | nil => exact eq_nil_iff.2 h
    | cons y bs =>
      obtain ⟨l, w⟩ := y
      have ⟨aboveA, tailA⟩ := List.pairwise_cons.1 ha
      have ⟨aboveB, tailB⟩ := List.pairwise_cons.1 hb
      have hkl : k = l := by
        -- Otherwise each of the two keys occurs behind the other, and so above it.
        by_contra hne
        have hk : get? bs k = some v := by simpa [get?_cons, Ne.symm hne] using (h k).symm
        have hl : get? as l = some w := by simpa [get?_cons, hne] using h l
        have below : l < k := aboveB _ (mem_of_get? hk)
        have above : k < l := aboveA _ (mem_of_get? hl)
        exact String.lt_irrefl k (String.lt_trans above below)
      subst hkl
      have hvw : v = w := by simpa [get?_cons] using h k
      rw [hvw, ih tailA tailB fun key => ?_]
      by_cases first : k = key
      · subst first
        rw [ha.get?_tail_eq_none, hb.get?_tail_eq_none]
      · simpa [get?_cons, first] using h key

/-! ### Collecting -/

/-- What comes behind all keys is inserted at the end. -/
theorem insert_of_forall_lt {entries : Keyed α} {key : String}
    (above : ∀ entry ∈ entries, entry.1 < key) (value : α) :
    entries.insert key value = entries ++ [(key, value)] := by
  induction entries with
  | nil => rfl
  | cons entry rest ih =>
    obtain ⟨first, others⟩ := List.forall_mem_cons.1 above
    have notBelow : ¬key < entry.1 := fun below =>
      String.lt_irrefl key (String.lt_trans below first)
    have different : key ≠ entry.1 := fun same => String.lt_irrefl key (same ▸ first)
    obtain ⟨k, old⟩ := entry
    rw [insert, if_neg notBelow, if_neg different, ih others, List.cons_append]

/-- Entries in key order are collected as they are. -/
theorem Sorted.ofList_eq {entries : Keyed α} (sorted : entries.Sorted) :
    ofList entries = entries := by
  suffices ∀ collected : Keyed α, Sorted (collected ++ entries) →
      entries.foldl (fun c (entry : String × α) => c.insert entry.1 entry.2) collected =
        collected ++ entries from this [] sorted
  clear sorted
  induction entries with
  | nil => exact fun collected _ => (List.append_nil collected).symm
  | cons entry rest ih =>
    intro collected sorted
    have above : ∀ before ∈ collected, before.1 < entry.1 := fun before mem =>
      (List.pairwise_append.1 sorted).2.2 before mem entry List.mem_cons_self
    rw [List.foldl_cons, insert_of_forall_lt above, ih _ (by simpa using sorted),
      List.append_assoc, List.singleton_append]

/-- Entries in key order count more than those collected in front of them. -/
theorem Sorted.get?_ofList_append {entries : Keyed α} (sorted : entries.Sorted)
    (front : List (String × α)) (key : String) :
    (ofList (front ++ entries)).get? key = (entries.get? key).or ((ofList front).get? key) := by
  rw [ofList, List.foldl_append, ← ofList]
  generalize ofList front = collected
  induction entries generalizing collected with
  | nil => rfl
  | cons entry rest ih =>
    obtain ⟨k, value⟩ := entry
    have ⟨_, tail⟩ := List.pairwise_cons.1 sorted
    rw [List.foldl_cons, ih tail, get?_insert, get?_cons]
    by_cases same : k = key
    · subst same
      rw [sorted.get?_tail_eq_none, if_pos rfl, if_pos rfl, Option.none_or, Option.some_or]
    · rw [if_neg same, if_neg same]

section Overwritten

variable {entries : Keyed α} (sorted : entries.Sorted) {keys : List String}
  {front : List (String × α)} (own : ∀ entry ∈ front, entry.1 ∈ keys)
include sorted own

/-- Under some keys stands what is collected for them, under every other key what stood there. -/
theorem Sorted.get?_ofList_without (key : String) :
    (ofList (front ++ entries.without keys)).get? key =
      if key ∈ keys then (ofList front).get? key else entries.get? key := by
  rw [(sorted.without keys).get?_ofList_append, get?_without]
  split
  · rw [Option.none_or]
  · next other =>
    have nothing : (ofList front).get? key = none := by
      rw [← Option.not_isSome_iff_eq_none, ← mem_keys_iff, mem_keys_ofList]
      intro mem
      obtain ⟨entry, inFront, rfl⟩ := List.mem_map.1 mem
      exact other (own entry inFront)
    rw [nothing, Option.or_none]

/-- What is collected for some keys leaves the other entries as they are. -/
theorem Sorted.without_ofList_without :
    (ofList (front ++ entries.without keys)).without keys = entries.without keys := by
  refine ((sorted_ofList _).without keys).ext (sorted.without keys) fun key => ?_
  rw [get?_without, get?_without, sorted.get?_ofList_without own]
  split <;> rfl

end Overwritten

end Keyed

end Subscription
