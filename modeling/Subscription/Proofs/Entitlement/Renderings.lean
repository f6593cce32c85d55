import Subscription.Proofs.Entitlement.View

/-!
# The two renderings of a record

A record is written in two ways: member by member when it goes over the wire or into the store, and
as the free members with the others put over them when it is compared. Both give the same object for
a well-formed record (`Entitlement.WellFormed.encode_eq`), since the members with a meaning and the
free ones never meet, and the object decodes to the record again
(`Entitlement.WellFormed.decode_members`). Decoded records are well-formed, and overrides leave them
so.

What a decoded record is written as is what it was decoded from, up to members that say nothing: a
null type, a null grant, a null entitlement or an empty series table. `Entitlement.pruned` and
`Access.pruned` leave those out.
-/

namespace Subscription

/-! ### Members that say nothing -/

namespace Json

/-- An object with the member under `key` changed, put in or taken out. What is no object stays as
it is. -/
def adjust (key : String) (change : Option Json → Option Json) : Json → Json
  | .object members => .object (Keyed.set members key (change (Keyed.get? members key)))
  | other => other

/-- A null member counts as absent. -/
def nonNull : Option Json → Option Json
  | some .null => none
  | member => member

/-- An empty object counts as absent. -/
def nonEmpty : Option Json → Option Json
  | some (.object []) => none
  | member => member

theorem asText_eq_ok_iff {value : Json} {text : String} :
    value.asText = .ok text ↔ value = .string text := by
  cases value <;> simp [asText]

theorem asBool_eq_ok_iff {value : Json} {truth : Bool} :
    value.asBool = .ok truth ↔ value = .bool truth := by
  cases value <;> simp [asBool]

variable {α : Type} {decode : Json → Except Mismatch α}

/-- What may be `null` is decoded to nothing if it is, and otherwise to what is found. -/
theorem asNullable_eq_ok_iff {value : Json} {found : Option α} :
    asNullable decode value = .ok found ↔ value = .null ∧ found = none ∨
      value ≠ .null ∧ ∃ a, decode value = .ok a ∧ found = some a := by
  rw [asNullable.eq_def]
  split
  · simp [eq_comm]
  · next other =>
    have nonNull : value ≠ .null := other
    cases decode value <;> simp [nonNull, Except.map, eq_comm]

end Json

/-- What a nullable member decodes to is written as the member was, if what it decodes to is. -/
theorem Keyed.map_join_of_member? {α : Type} {decode : Json → Except Mismatch α}
    {members : Keyed Json} {key : String} {found : Option (Option α)}
    (h : members.member? key (Json.asNullable decode) = .ok found) (encode : α → Json)
    (form : Json → Json)
    (written : ∀ value a, members.get? key = some value → decode value = .ok a →
      encode a = form value) :
    found.join.map encode = (Json.nonNull (members.get? key)).map form := by
  rw [member?_eq_ok_iff] at h
  cases there : members.get? key with
  | none =>
    obtain rfl : found = none := by cases found <;> simp_all
    rfl
  | some value =>
    rw [there, Option.map_some] at h
    obtain ⟨decoded, rfl, read⟩ : ∃ decoded, found = some decoded ∧
        Json.asNullable decode value = .ok decoded := by
      cases found <;> simp_all
    rcases Json.asNullable_eq_ok_iff.1 read with ⟨rfl, rfl⟩ | ⟨nonNull, a, decoded, rfl⟩
    · rfl
    · have kept : Json.nonNull (some value) = some value := by
        cases value <;> first | rfl | exact absurd rfl nonNull
      rw [kept, Option.map_some, ← written value a there decoded]
      rfl

private theorem get?_optional {α : Type} (key : String) (member : Option α) (encode : α → Json)
    (other : String) : Keyed.get? (member.map fun a => (key, encode a)).toList other =
      if key = other then member.map encode else none := by
  cases member <;> simp [Keyed.get?_cons]

private theorem sorted_optional {α : Type} (member : Option (String × α)) :
    Keyed.Sorted member.toList := by
  cases member <;> simp [Keyed.Sorted]

private theorem join_map_some {α : Type} (member : Option α) : (member.map some).join = member := by
  cases member <;> rfl

/-! ### Entitlement records -/

namespace Entitlement

variable {record : Entitlement} {value : Json}

/-- The object of a record without members that say nothing. -/
def pruned (value : Json) : Json :=
  ((value.adjust "type" Json.nonNull).adjust "entitled" Json.nonNull).adjust "series" Json.nonEmpty

/-- **The two renderings agree**: written member by member, the record is the same object as the
free members with the others put over them. -/
theorem WellFormed.encode_eq (h : record.WellFormed) : record.encode = .object record.members := by
  have fields := ((Json.sorted_object_iff _).1 h.fields).1
  have members := ((Json.sorted_object_iff _).1 h.ordered.sorted_members).1
  rw [encode]
  refine congrArg _ ((Keyed.sorted_ofList _).ext members fun key => ?_)
  have series : Keyed.Sorted (if record.series.isEmpty then [] else
      [("series", record.seriesJson)]) := by
    split <;> simp [Keyed.Sorted]
  rw [fields.get?_ofList_append, series.get?_ofList_append,
    (sorted_optional _).get?_ofList_append, (sorted_optional _).ofList_eq, get?_optional,
    get?_optional, h.get?_members]
  -- Under a key with a meaning the free fields have nothing, under others only they do.
  by_cases known : key ∈ knownKeys
  · rw [h.free key known, Option.none_or]
    simp only [knownKeys, List.mem_cons, List.not_mem_nil, or_false] at known
    rcases known with rfl | rfl | rfl <;> split <;> simp [Keyed.get?_cons]
  · simp only [knownKeys, List.mem_cons, List.not_mem_nil, or_false, not_or] at known
    obtain ⟨isEntitled, isSeries, isKind⟩ := known
    split <;> simp [Keyed.get?_cons, Ne.symm isKind, Ne.symm isEntitled, Ne.symm isSeries]

/-- The object that a record is compared in decodes to the record. -/
theorem WellFormed.decode_members (h : record.WellFormed) :
    decode (.object record.members) = .ok record := by
  refine decode_eq_ok_iff.2 ⟨record.members, record.entitled.map some,
    if record.series.isEmpty then none else some record.series, record.kind.map some, rfl, ?_, ?_,
    ?_, ?_⟩
  · rw [Keyed.member?_eq_ok_iff, h.get?_members]
    cases record.entitled <;> rfl
  · rw [Keyed.member?_eq_ok_iff, h.get?_members]
    by_cases empty : record.series.isEmpty = true
    · simp [empty]
    · simp [empty, decodeSeries_eq_ok_iff, seriesJson]
  · rw [Keyed.member?_eq_ok_iff, h.get?_members]
    cases record.kind <;> rfl
  · -- Without the known keys there are left the free members, which have none of them.
    have fields : record.members.without knownKeys = record.fields := by
      have members := ((Json.sorted_object_iff _).1 h.ordered.sorted_members).1
      refine (members.without _).ext ((Json.sorted_object_iff _).1 h.fields).1 fun key => ?_
      rw [Keyed.get?_without, h.get?_members]
      split
      · next known => exact (h.free key known).symm
      · next other =>
        simp only [knownKeys, List.mem_cons, List.not_mem_nil, or_false, not_or] at other
        simp [other]
    have series : (if record.series.isEmpty then none else some record.series).getD [] =
        record.series := by
      cases record.series <;> rfl
    rw [fields, series, join_map_some, join_map_some]

/-- A decoded record is written as it was, without the members that say nothing. -/
theorem members_eq_pruned (hs : value.Sorted) (h : decode value = .ok record) :
    .object record.members = pruned value := by
  have wellFormed := wellFormed_of_decode hs h
  have sorted := ((Json.sorted_object_iff _).1 wellFormed.ordered.sorted_members).1
  obtain ⟨members, entitled, series, kind, rfl, hentitled, hseries, hkind, rfl⟩ :=
    decode_eq_ok_iff.1 h
  have ascending := ((Json.sorted_object_iff _).1 hs).1
  have kinds := Keyed.map_join_of_member? hkind .string id
    fun _ _ _ decoded => (Json.asText_eq_ok_iff.1 decoded).symm
  have grants := Keyed.map_join_of_member? hentitled .bool id
    fun _ _ _ decoded => (Json.asBool_eq_ok_iff.1 decoded).symm
  have tables : (if (series.getD []).isEmpty then none else
      some (.object ((series.getD []).mapValues .object))) =
        Json.nonEmpty (members.get? "series") := by
    rw [Keyed.member?_eq_ok_iff] at hseries
    cases series with
    | none => simp_all [Json.nonEmpty]
    | some series =>
      obtain ⟨table, found, decoded⟩ := Option.map_eq_some_iff.1 hseries
      rw [found, decodeSeries_eq_ok_iff.1 decoded]
      cases series <;> rfl
  -- Objects with ascending keys are equal if they have the same members.
  refine congrArg Json.object (sorted.ext
    (((ascending.set "type" _).set "entitled" _).set "series" _) fun key => ?_)
  simp only [wellFormed.get?_members, Keyed.get?_set, Option.map_id_fun, id] at kinds grants ⊢
  by_cases isKind : key = "type"
  · subst isKind
    simpa using kinds
  by_cases isEntitled : key = "entitled"
  · subst isEntitled
    simpa using grants
  by_cases isSeries : key = "series"
  · subst isSeries
    simpa [seriesJson] using tables
  · simp [Ne.symm isKind, Ne.symm isEntitled, Ne.symm isSeries, isKind, isEntitled, isSeries,
      Keyed.get?_without, knownKeys]

/-- The record is written in one way only, and its object decodes to it. -/
structure OneForm (record : Entitlement) : Prop where
  free : ∀ key ∈ knownKeys, record.fields.get? key = none
  agree : record.encode = .object record.members
  back : decode (.object record.members) = .ok record

theorem WellFormed.oneForm (h : record.WellFormed) : record.OneForm :=
  ⟨h.free, h.encode_eq, h.decode_members⟩

end Entitlement

/-! ### Access records -/

namespace Access

variable {access : Access} {value : Json}

/-- The object of an access without members that say nothing, also in its entitlement. -/
def pruned (value : Json) : Json :=
  value.adjust "entitlement" fun member => (Json.nonNull member).map Entitlement.pruned

/-- What is known of a decoded access: its entitlement is well-formed, and the other members do not
stand under the key of the entitlement. -/
structure Parted (access : Access) : Prop where
  entitlement : access.WellFormed
  extra : access.extra.Sorted
  free : access.extra.get? "entitlement" = none

/-- The members that a record is known by are taken out of the others when it is decoded. -/
theorem parted_of_decode (hs : value.Sorted) (h : decode value = .ok access) : access.Parted := by
  refine ⟨wellFormed_of_decode hs h, ?_, ?_⟩
  · obtain ⟨members, _, rfl, -, rfl⟩ := decode_eq_ok_iff.1 h
    exact ((Json.sorted_object_iff _).1 hs).1.without _
  · obtain ⟨members, _, rfl, -, rfl⟩ := decode_eq_ok_iff.1 h
    exact Keyed.get?_without members ["entitlement"] "entitlement"

/-- The object of an access is its free members with the entitlement set or left out. -/
theorem Parted.toJson_eq (h : access.Parted) :
    access.toJson = .object (access.extra.set "entitlement"
      (access.entitlement.map fun record => .object record.members)) := by
  obtain ⟨_ | record, extra⟩ := access
  · have same : extra = extra.erase "entitlement" := by
      refine h.extra.ext (h.extra.erase "entitlement") fun key => ?_
      rw [Keyed.get?_erase]
      split
      · next own => exact own ▸ h.free
      · rfl
    exact congrArg Json.object same
  · rfl

/-- The two renderings of an access agree. -/
theorem Parted.encode_eq (h : access.Parted) : access.encode = access.toJson := by
  rw [h.toJson_eq, encode]
  refine congrArg Json.object ((Keyed.sorted_ofList _).ext (h.extra.set _ _) fun key => ?_)
  rw [h.extra.get?_ofList_append, (sorted_optional _).ofList_eq, get?_optional, Keyed.get?_set]
  -- The two differ in how they render the entitlement, and there they agree.
  have same : access.entitlement.map Entitlement.encode =
      access.entitlement.map fun record => .object record.members :=
    Option.map_congr fun record mem => (h.entitlement record mem).encode_eq
  by_cases own : "entitlement" = key
  · rw [← own, h.free, Option.none_or, if_pos rfl, if_pos rfl, same]
  · rw [if_neg own, if_neg own, Option.or_none]

/-- The object of an access decodes to the access. -/
theorem Parted.decode_toJson (h : access.Parted) : decode access.toJson = .ok access := by
  refine decode_eq_ok_iff.2 ⟨_, access.entitlement.map some, h.toJson_eq, ?_, ?_⟩
  · rw [Keyed.member?_eq_ok_iff, Keyed.get?_set, if_pos rfl]
    cases there : access.entitlement with
    | none => rfl
    | some record =>
      have decoded := (h.entitlement record there).decode_members
      simp [Json.asNullable, decoded, Except.map]
  · have extra : Keyed.without (access.extra.set "entitlement"
        (access.entitlement.map fun record => .object record.members)) ["entitlement"] =
        access.extra := by
      refine ((h.extra.set _ _).without _).ext h.extra fun key => ?_
      rw [Keyed.get?_without, Keyed.get?_set]
      by_cases own : key = "entitlement"
      · simp [own, h.free]
      · simp [own, Ne.symm own]
    rw [extra, join_map_some]

/-- A decoded access is written as it was, without the members that say nothing. -/
theorem toJson_eq_pruned (hs : value.Sorted) (h : decode value = .ok access) :
    access.toJson = pruned value := by
  have parted := parted_of_decode hs h
  obtain ⟨members, entitlement, rfl, decoded, rfl⟩ := decode_eq_ok_iff.1 h
  have ⟨ascending, inside⟩ := (Json.sorted_object_iff _).1 hs
  have records := Keyed.map_join_of_member? decoded (fun record => .object record.members)
    Entitlement.pruned fun value _ there read =>
      Entitlement.members_eq_pruned (inside _ value there) read
  rw [parted.toJson_eq]
  refine congrArg Json.object ((parted.extra.set _ _).ext (ascending.set "entitlement" _)
    fun key => ?_)
  rw [Keyed.get?_set, Keyed.get?_set, records, Keyed.get?_without]
  by_cases own : "entitlement" = key
  · rw [if_pos own, if_pos own]
  · simp [own, Ne.symm own]

/-- What an access is compared in is its entitlement as it was, without the members that say nothing
and without the overrides if they are put in. -/
theorem comparisonView_eq_pruned (hs : value.Sorted) (h : decode value = .ok access) :
    .object (access.comparisonView none) =
      ((pruned value).member? "entitlement").getD (.object []) := by
  have parted := parted_of_decode hs h
  have written : (pruned value).member? "entitlement" =
      access.entitlement.map fun record => .object record.members := by
    rw [← toJson_eq_pruned hs h, parted.toJson_eq]
    exact (Keyed.get?_set _ _ _ _).trans (if_pos rfl)
  rw [written]
  obtain ⟨_ | record, extra⟩ := access <;> rfl

/-- What is compared on machines of a series is the record as it is there. -/
theorem comparisonView_series_eq (hs : value.Sorted) (h : decode value = .ok access)
    (series : String) :
    .object (access.comparisonView (some series)) = (access.entitlement.map fun record =>
      (record.forSeries series).encode).getD (.object []) := by
  have wellFormed := wellFormed_of_decode hs h
  obtain ⟨_ | record, extra⟩ := access
  · rfl
  · exact ((wellFormed record rfl).forSeries series).encode_eq.symm

end Access

/-! ### Both together -/

/-- **A decoded record has one form.** No member with a meaning is among the free members of an
entitlement, also with overrides put in; so its two renderings agree, and what they give decodes to
it. The same holds of an access. What is compared of a decoded record is thus the record as it was
sent, up to members that say nothing, or what is sent of it with overrides put in. -/
theorem records_have_one_form :
    (∀ (value : Json) (record : Entitlement), value.Sorted →
      Entitlement.decode value = .ok record →
        record.OneForm ∧ (∀ series, (record.forSeries series).OneForm) ∧
        .object record.members = Entitlement.pruned value) ∧
    (∀ (value : Json) (access : Access), value.Sorted → Access.decode value = .ok access →
      access.encode = access.toJson ∧ Access.decode access.toJson = .ok access ∧
      access.toJson = Access.pruned value ∧
      .object (access.comparisonView none) =
        ((Access.pruned value).member? "entitlement").getD (.object []) ∧
      ∀ series, .object (access.comparisonView (some series)) =
        (access.entitlement.map fun record => (record.forSeries series).encode).getD
          (.object [])) := by
  refine ⟨fun value record hs h => ?_, fun value access hs h => ?_⟩
  · have wellFormed := Entitlement.wellFormed_of_decode hs h
    exact ⟨wellFormed.oneForm, fun series => (wellFormed.forSeries series).oneForm,
      Entitlement.members_eq_pruned hs h⟩
  · have parted := Access.parted_of_decode hs h
    exact ⟨parted.encode_eq, parted.decode_toJson, Access.toJson_eq_pruned hs h,
      Access.comparisonView_eq_pruned hs h, Access.comparisonView_series_eq hs h⟩

/-- A record with a null grant, and with a fragment that has members with a meaning. -/
def sentRecord : Json :=
  .object [("entitled", .null),
    ("series", .object [("noble", .object [("series", .bool true), ("tier", .string "edge"),
      ("type", .null)])]),
    ("tier", .string "stable"), ("type", .string "livepatch")]

/-- The record is compared without its null grant, and on `noble` with the free member of the
fragment alone. -/
theorem records_have_one_form_sentRecord :
    ∃ record access, Entitlement.decode sentRecord = .ok record ∧
      Access.decode (.object [("entitlement", sentRecord), ("resourceToken", .null)]) =
        .ok access ∧
      (record.forSeries "noble").encode =
        .object [("tier", .string "edge"), ("type", .string "livepatch")] ∧
      Entitlement.decode (record.forSeries "noble").encode = .ok (record.forSeries "noble") ∧
      access.toJson = .object [("entitlement", Entitlement.pruned sentRecord),
        ("resourceToken", .null)] := by
  obtain ⟨-, overridden, -⟩ := records_have_one_form.1 sentRecord _ (by decide) rfl
  obtain ⟨-, -, written, -⟩ := records_have_one_form.2
    (.object [("entitlement", sentRecord), ("resourceToken", .null)]) _ (by decide) rfl
  have noble := overridden "noble"
  exact ⟨_, _, rfl, rfl, rfl, noble.agree ▸ noble.back, written⟩

end Subscription
