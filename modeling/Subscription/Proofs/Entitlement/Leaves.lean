import Subscription.Proofs.Entitlement.View

/-!
# Overrides merge leaf by leaf

A fragment that is put over a record is looked at along a path of keys through nested objects. Where
the path meets a leaf of the fragment, a value that is no object, the merged record has what the
fragment has; where the fragment has nothing, it has what the record has; and where the fragment has
an object, it has an object too. That holds at every depth
(`Entitlement.overrides_merge_leaf_by_leaf`), whatever the record has on the way.

The law of one key, `Json.Merges`, is the same for an object put over what stands in its place and
for the members of a whole record, although a record keeps its type and its grant apart from the
free members. The law of paths follows from it by induction on the path: each key of the path either
leaves the fragment or leads to two values of which one is put over the other.
-/

namespace Subscription

/-! ### One key -/

namespace Json

/-- What stands under each key of `merged` is what `fragment` has there, put over what `base` has
there; a key that the fragment does not have stays as it is. -/
def Merges (base fragment merged : Json) : Prop :=
  ∀ key, merged.member? key =
    ((fragment.member? key).map (superpose (base.member? key))).or (base.member? key)

/-- What is put in the place of something that is no object stays as it is. -/
theorem superpose_of_base {base : Option Json} (h : base.bind members? = none) (fragment : Json) :
    superpose base fragment = fragment := by
  rw [superpose.eq_def]
  split
  · cases h
  · rfl

/-- What stands under a key that the fragment has, the fragment being listed in key order: no later
member of it is put over the same key again. -/
theorem get?_overlay {fragment : Keyed Json} (hs : fragment.Sorted) (base : Keyed Json)
    (key : String) : (overlay base fragment).get? key =
      ((fragment.get? key).map (superpose (base.get? key))).or (base.get? key) := by
  induction fragment generalizing base with
  | nil => rw [overlay, Keyed.get?_nil, Option.map_none, Option.none_or]
  | cons entry rest ih =>
    obtain ⟨k, value⟩ := entry
    have ⟨_, tail⟩ := List.pairwise_cons.1 hs
    rw [overlay, ih tail, Keyed.get?_cons, Keyed.get?_insert]
    by_cases same : k = key
    · subst same
      simp only [hs.get?_tail_eq_none, if_pos, Option.map_none, Option.map_some, Option.none_or,
        Option.some_or]
    · simp only [if_neg same]

/-- An object put over what stands in its place merges into it, also if nothing or no object stands
there. -/
theorem merges_superpose (base : Option Json) {fragment : Keyed Json} (hs : fragment.Sorted) :
    Merges (base.getD .null) (object fragment) (superpose base (object fragment)) := by
  intro key
  cases place : base.bind members? with
  | none =>
    have nothing : (base.getD .null).member? key = none := by
      cases base with
      | none => rfl
      | some value => exact congrArg (Option.bind · (Keyed.get? · key)) place
    rw [superpose_of_base place, nothing, Option.or_none]
    have alone : superpose none = id := funext fun value => superpose_of_base rfl value
    rw [alone, Option.map_id, id]
  | some members =>
    obtain ⟨value, rfl, same⟩ := Option.bind_eq_some_iff.1 place
    cases value <;> cases same
    rw [superpose]
    exact get?_overlay hs members key

/-! ### Paths of keys -/

/-- The path meets a leaf of the value: under some first keys of it, at least one, stands something
that is no object. -/
def LeafOn (value : Json) (path : List String) : Prop :=
  ∃ front leaf, front ≠ [] ∧ front <+: path ∧ value.at? front = some leaf ∧ leaf.members? = none

/-- A path through several keys does not end in what is no object. -/
theorem at?_eq_none_of_members? {value : Json} (h : value.members? = none) {path : List String}
    (nonempty : path ≠ []) : value.at? path = none := by
  obtain ⟨key, rest, rfl⟩ := List.exists_cons_of_ne_nil nonempty
  rw [at?_cons, member?, h, Option.bind_none, Option.bind_none]

theorem not_leafOn_nil (value : Json) : ¬value.LeafOn [] := by
  rintro ⟨front, _, nonempty, before, -⟩
  exact nonempty (List.prefix_nil.1 before)

/-- A leaf on a path stands under its first key or on the rest of it. -/
theorem leafOn_cons {value : Json} {key : String} {path : List String} :
    value.LeafOn (key :: path) ↔
      ∃ inner, value.member? key = some inner ∧ (inner.members? = none ∨ inner.LeafOn path) := by
  constructor
  · rintro ⟨front, leaf, nonempty, before, found, isLeaf⟩
    obtain ⟨first, rest, rfl⟩ := List.exists_cons_of_ne_nil nonempty
    obtain ⟨rfl, inPath⟩ := List.cons_prefix_cons.1 before
    obtain ⟨inner, there, found⟩ := Option.bind_eq_some_iff.1 found
    refine ⟨inner, there, ?_⟩
    by_cases last : rest = []
    · subst last
      exact .inl (Option.some.inj found ▸ isLeaf)
    · exact .inr ⟨rest, leaf, last, inPath, found, isLeaf⟩
  · rintro ⟨inner, there, isLeaf | ⟨front, leaf, -, before, found, isLeaf⟩⟩
    · refine ⟨[key], inner, List.cons_ne_nil _ _, ⟨path, rfl⟩, ?_, isLeaf⟩
      rw [at?_cons, there, Option.bind_some, at?]
    · refine ⟨key :: front, leaf, List.cons_ne_nil _ _, List.cons_prefix_cons.2 ⟨rfl, before⟩, ?_,
        isLeaf⟩
      rw [at?_cons, there, Option.bind_some, found]

/-- Whether a path meets a leaf is decided key by key. -/
instance decidableLeafOn : ∀ (value : Json) (path : List String), Decidable (value.LeafOn path)
  | value, [] => .isFalse (not_leafOn_nil value)
  | value, key :: path =>
    match there : value.member? key with
    | none => .isFalse fun onPath => by simp [leafOn_cons, there] at onPath
    | some inner =>
      have := decidableLeafOn inner path
      decidable_of_iff (inner.members? = none ∨ inner.LeafOn path) (by simp [leafOn_cons, there])

/-- What a merged value has at the end of a path: the fragment's if the path meets a leaf of the
fragment, the base's if the fragment has nothing there, and an object if it has one. -/
structure MergedAt (base fragment merged : Json) (path : List String) : Prop where
  leaf : fragment.LeafOn path → merged.at? path = fragment.at? path
  untouched : ¬fragment.LeafOn path → fragment.at? path = none → merged.at? path = base.at? path
  inner : ¬fragment.LeafOn path → fragment.at? path ≠ none →
    ∃ members, merged.at? path = some (.object members)

/-- Under a key that the fragment does not have, every path ends as it does in the base. -/
theorem MergedAt.of_nothing {base fragment merged : Json} {key : String}
    (nothing : fragment.member? key = none) (same : merged.member? key = base.member? key)
    (path : List String) : MergedAt base fragment merged (key :: path) := by
  have ends : fragment.at? (key :: path) = none := by rw [at?_cons, nothing, Option.bind_none]
  refine ⟨fun onPath => ?_, fun _ _ => ?_, fun _ something => absurd ends something⟩
  · obtain ⟨inner, found, -⟩ := leafOn_cons.1 onPath
    cases nothing.symm.trans found
  · rw [at?_cons, at?_cons, same]

/-- Under a key that leads to a leaf of the fragment, every path ends as it does in the fragment. -/
theorem MergedAt.of_leaf {base fragment merged value : Json} {key : String}
    (there : fragment.member? key = some value) (same : merged.member? key = some value)
    (isLeaf : value.members? = none) (path : List String) :
    MergedAt base fragment merged (key :: path) := by
  have onPath : fragment.LeafOn (key :: path) := leafOn_cons.2 ⟨value, there, .inl isLeaf⟩
  refine ⟨fun _ => ?_, fun none => absurd onPath none, fun none => absurd onPath none⟩
  rw [at?_cons, at?_cons, same, there]

/-- A key under which the fragment has an object leads to an object. -/
theorem MergedAt.of_object {base fragment merged inner : Json} {key : String}
    (there : fragment.member? key = some inner) (notLeaf : inner.members? ≠ none)
    (put : ∃ members, merged.member? key = some (.object members)) :
    MergedAt base fragment merged [key] := by
  have noLeaf : ¬fragment.LeafOn [key] := by
    intro onPath
    obtain ⟨value, found, isLeaf | deeper⟩ := leafOn_cons.1 onPath
    · obtain rfl := Option.some.inj (there.symm.trans found)
      exact notLeaf isLeaf
    · exact not_leafOn_nil _ deeper
  refine ⟨fun onPath => absurd onPath noLeaf, fun _ nothing => ?_, fun _ _ => ?_⟩
  · rw [at?_cons, there] at nothing
    cases nothing
  · obtain ⟨members, found⟩ := put
    exact ⟨members, by rw [at?_cons, found, Option.bind_some, at?]⟩

/-- A longer path ends as its rest does in the values under its first key. -/
theorem MergedAt.cons {base fragment merged inner superposed : Json} {key : String}
    {path : List String} (there : fragment.member? key = some inner)
    (notLeaf : inner.members? ≠ none) (put : merged.member? key = some superposed)
    (nonempty : path ≠ [])
    (h : MergedAt ((base.member? key).getD .null) inner superposed path) :
    MergedAt base fragment merged (key :: path) := by
  have leaf : fragment.LeafOn (key :: path) ↔ inner.LeafOn path := by
    rw [leafOn_cons, there]
    simp [notLeaf]
  have inFragment : fragment.at? (key :: path) = inner.at? path := by
    rw [at?_cons, there, Option.bind_some]
  have inMerged : merged.at? (key :: path) = superposed.at? path := by
    rw [at?_cons, put, Option.bind_some]
  have inBase : base.at? (key :: path) = ((base.member? key).getD .null).at? path := by
    rw [at?_cons]
    cases base.member? key with
    | none => exact (at?_eq_none_of_members? rfl nonempty).symm
    | some value => rfl
  -- What is found along the path is found along the rest of it, under its first key.
  refine ⟨?_, ?_, ?_⟩
  · rw [leaf, inMerged, inFragment]
    exact h.leaf
  · rw [leaf, inMerged, inFragment, inBase]
    exact h.untouched
  · rw [leaf, inMerged, inFragment]
    exact h.inner

/-- What an object is put over becomes an object. -/
theorem exists_superpose_eq_object (base : Option Json) (fragment : Keyed Json) :
    ∃ members, superpose base (object fragment) = .object members := by
  rw [superpose.eq_def]
  split
  · exact ⟨_, rfl⟩
  · exact ⟨fragment, rfl⟩

theorem Sorted.of_member?_eq_some {value inner : Json} (hs : value.Sorted) {key : String}
    (there : value.member? key = some inner) : inner.Sorted := by
  obtain ⟨members, same, found⟩ := Option.bind_eq_some_iff.1 there
  cases value <;> cases same
  exact ((sorted_object_iff members).1 hs).2 key inner found

/-- The law of one key gives the law of every path, by induction on the path. -/
theorem Merges.mergedAt {base fragment merged : Json} (h : Merges base fragment merged)
    (hs : fragment.Sorted) {path : List String} (nonempty : path ≠ []) :
    MergedAt base fragment merged path := by
  -- At each key of the path the fragment has nothing, a leaf, or an object to go on in.
  induction path generalizing base fragment merged with
  | nil => exact absurd rfl nonempty
  | cons key rest ih =>
    have under := h key
    cases there : fragment.member? key with
    | none =>
      rw [there, Option.map_none, Option.none_or] at under
      exact .of_nothing there under rest
    | some inner =>
      rw [there, Option.map_some, Option.some_or] at under
      cases isObject : inner.members? with
      | none =>
        rw [superpose_of_members?_eq_none _ isObject] at under
        exact .of_leaf there under isObject rest
      | some members =>
        have notLeaf : inner.members? ≠ none := by rw [isObject]; exact Option.some_ne_none _
        obtain rfl : inner = .object members := by cases inner <;> cases isObject; rfl
        have sortedInner : (object members).Sorted := hs.of_member?_eq_some there
        have step := merges_superpose (base.member? key) ((sorted_object_iff _).1 sortedInner).1
        by_cases last : rest = []
        · subst last
          obtain ⟨both, same⟩ := exists_superpose_eq_object (base.member? key) members
          exact .of_object there notLeaf ⟨both, under.trans (congrArg some same)⟩
        · exact .cons there notLeaf under last (ih step sortedInner last)

end Json

/-! ### Records -/

namespace Entitlement

/-- Whether a fragment changes a record by what it has under a key: never the series table, the type
only to a text and the grant only to a boolean. -/
def mayOverride (key : String) (value : Json) : Bool :=
  if key = "type" then value.text?.isSome
  else if key = "entitled" then value.bool?.isSome
  else key ≠ "series"

/-- The members of the record's fragment for a series that change it. -/
def overridesFor (record : Entitlement) (series : String) : Keyed Json :=
  ((record.series.get? series).getD []).filter fun (key, value) => mayOverride key value

end Entitlement

/-- Look-up among the entries that pass a test, in a listing in key order. -/
theorem Keyed.Sorted.get?_filter {α : Type} {entries : Keyed α} (hs : entries.Sorted)
    (test : String × α → Bool) (key : String) :
    Keyed.get? (entries.filter test) key =
      (entries.get? key).filter fun value => test (key, value) := by
  induction entries with
  | nil => rfl
  | cons entry rest ih =>
    obtain ⟨k, value⟩ := entry
    have ⟨_, tail⟩ := List.pairwise_cons.1 hs
    rw [List.filter_cons, Keyed.get?_cons]
    by_cases same : k = key
    · subst same
      have later := ih tail
      rw [hs.get?_tail_eq_none] at later
      cases passes : test (k, value) <;> simp [Keyed.get?_cons, Option.filter, later, passes]
    · cases test (k, value) <;> simp [Keyed.get?_cons, same, ih tail]

namespace Entitlement

variable {record : Entitlement}

/-- The members of a fragment that change the record are sorted. -/
theorem WellFormed.sorted_overridesFor (h : record.WellFormed) (series : String) :
    (Json.object (record.overridesFor series)).Sorted := by
  have ⟨ascending, inside⟩ := (Json.sorted_object_iff _).1 (h.ordered.sorted_fragmentD series)
  refine (Json.sorted_object_iff _).2 ⟨List.Pairwise.filter _ ascending, fun key value found => ?_⟩
  rw [overridesFor, ascending.get?_filter, Option.filter_eq_some_iff] at found
  exact inside key value found.1

/-- A member with a meaning of its own comes from the fragment if that has a value that can be read
there, and such a value is a leaf. -/
private theorem map_or_eq_superpose {α : Type} (read : Json → Option α) (write : α → Json)
    (isLeaf : ∀ a, (write a).members? = none)
    (written : ∀ value a, read value = some a → value = write a) (found : Option Json)
    (own : Option α) :
    ((found.bind read).or own).map write =
      ((found.filter fun value => (read value).isSome).map
        (Json.superpose (own.map write))).or (own.map write) := by
  cases found with
  | none => simp
  | some value =>
    cases readable : read value with
    | none => simp [Option.filter, readable]
    | some a =>
      obtain rfl := written value a readable
      simp [Option.filter, readable, Json.superpose_of_members?_eq_none _ (isLeaf a)]

/-- The record on machines of a series is its fragment for the series merged into it, its type and
its grant included. -/
theorem WellFormed.merges_forSeries (h : record.WellFormed) (series : String) :
    Json.Merges (.object (record.members.without ["series"])) (.object (record.overridesFor series))
      (.object (record.forSeries series).members) := by
  intro key
  have ascending := ((Json.sorted_object_iff _).1 (h.ordered.sorted_fragmentD series)).1
  have own : (Json.object (record.members.without ["series"])).member? key =
      if key = "series" then none else record.members.get? key := by
    change (record.members.without ["series"]).get? key = _
    simp only [Keyed.get?_without, List.mem_singleton]
  have changed : (Json.object (record.overridesFor series)).member? key =
      (((record.series.get? series).getD []).get? key).filter (mayOverride key) :=
    ascending.get?_filter _ key
  have merged : (Json.object (record.forSeries series).members).member? key =
      (record.forSeries series).members.get? key := rfl
  rw [own, changed, merged, (h.forSeries series).get?_members, h.get?_members]
  simp only [Entitlement.forSeries]
  generalize (record.series.get? series).getD [] = fragment at ascending ⊢
  -- Each member with a meaning is overridden by a rule of its own, the others member by member.
  by_cases isKind : key = "type"
  · subst isKind
    exact map_or_eq_superpose Json.text? Json.string (fun _ => rfl)
      (fun value _ same => by cases value <;> cases same; rfl) _ record.kind
  by_cases isEntitled : key = "entitled"
  · subst isEntitled
    exact map_or_eq_superpose Json.bool? Json.bool (fun _ => rfl)
      (fun value _ same => by cases value <;> cases same; rfl) _ record.entitled
  by_cases isSeries : key = "series"
  · subst isSeries
    have never : mayOverride "series" = fun _ => false := rfl
    simp [never]
  · have always (found : Option Json) : found.filter (mayOverride key) = found := by
      cases found with
      | none => rfl
      | some value => simp [mayOverride, isKind, isEntitled, isSeries]
    have free : key ∉ knownKeys := by simp [knownKeys, isKind, isEntitled, isSeries]
    rw [if_neg isKind, if_neg isEntitled, if_neg isSeries, if_neg isKind, if_neg isEntitled,
      if_neg isSeries, if_neg isSeries, always,
      Json.get?_overlay (ascending.without knownKeys), Keyed.get?_without, if_neg free]

/-- No view of a record on machines of a series has a series table. -/
theorem WellFormed.get?_series_forSeries (h : record.WellFormed) (series : String) :
    (record.forSeries series).members.get? "series" = none := by
  rw [(h.forSeries series).get?_members]
  rfl

/-- **Overrides merge leaf by leaf, at every depth.** A record that decodes from a sorted value is
looked at on machines of a release series. The fragment counts without what never changes a record:
a series table, a type that is no text and a grant that is no boolean. Along every path of keys
through nested objects the view has what the fragment has if the path meets a leaf of the fragment,
what the record has if the fragment has nothing there, and an object if the fragment has an object.
There is no series table in the view. -/
theorem overrides_merge_leaf_by_leaf {value : Json} (sorted : value.Sorted) {record : Entitlement}
    (decoded : decode value = .ok record) (series : String) :
    (∀ path ≠ [], Json.MergedAt (.object (record.members.without ["series"]))
      (.object (record.overridesFor series)) (.object (record.forSeries series).members) path) ∧
    (record.forSeries series).members.get? "series" = none := by
  have h := wellFormed_of_decode sorted decoded
  refine ⟨fun path nonempty => ?_, h.get?_series_forSeries series⟩
  exact (h.merges_forSeries series).mergedAt (h.sorted_overridesFor series) nonempty

/-- A record whose fragment for one series changes a key inside its directives, has an object where
the record has a list, and tries a grant that is no boolean. -/
def mirrored : Json :=
  .object [
    ("directives", .object [
      ("keys", .object [("id", .string "archive")]),
      ("suites", .array [.string "updates"])]),
    ("entitled", .bool true),
    ("series", .object [("noble", .object [
      ("directives", .object [
        ("keys", .object [("path", .string "local")]),
        ("suites", .object [("updates", .bool false)])]),
      ("entitled", .string "no"),
      ("type", .string "mirror")])]),
    ("type", .string "archive")]

/-- The key beside the changed one stays, the list gives way to the object, and only the type of the
service is another one. -/
theorem overrides_merge_leaf_by_leaf_mirrored :
    mirrored.Sorted ∧ ∃ record, decode mirrored = .ok record ∧
      let view := Json.object (record.forSeries "noble").members
      view.at? ["directives", "keys", "id"] = some (.string "archive") ∧
      view.at? ["directives", "keys", "path"] = some (.string "local") ∧
      (∃ members, view.at? ["directives", "suites"] = some (.object members)) ∧
      view.at? ["entitled"] = some (.bool true) ∧ view.at? ["type"] = some (.string "mirror") := by
  have sorted : mirrored.Sorted := by decide
  refine ⟨sorted, _, rfl, ?_⟩
  have ⟨law, _⟩ := overrides_merge_leaf_by_leaf sorted rfl "noble"
  refine ⟨?_, ?_, ?_, ?_, ?_⟩
  · exact ((law _ (by decide)).untouched (by decide) (by decide)).trans rfl
  · exact ((law _ (by decide)).leaf (by decide)).trans rfl
  · exact (law _ (by decide)).inner (by decide) (by decide)
  · exact ((law _ (by decide)).untouched (by decide) (by decide)).trans rfl
  · exact ((law _ (by decide)).leaf (by decide)).trans rfl

end Entitlement

end Subscription
