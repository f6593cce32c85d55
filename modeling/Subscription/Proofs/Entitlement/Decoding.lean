import Subscription.Entitlement.MachineToken
import Subscription.Proofs.Json.Sorted

/-!
# What decoded records look like

A decoded record keeps what its object says: the series table as it stands, and all members without
a meaning of their own. `Entitlement.WellFormed` collects what later work relies on: the free
members and the fragments are sorted, and no member with a meaning is among the free ones. Every
record of a token that decodes from a sorted value is well-formed
(`MachineToken.wellFormed_of_decode`).
-/

namespace Subscription

/-! ### Decoders as chains -/

/-- A sequence succeeds exactly if both of its parts do. -/
theorem Except.bind_eq_ok_iff {ε α β : Type} {first : Except ε α} {next : α → Except ε β}
    {result : β} : (first >>= next) = .ok result ↔ ∃ value, first = .ok value ∧
      next value = .ok result := by
  cases first <;> simp [Bind.bind, Except.bind]

/-- Decoding a list gives the values that its places decode to, one after another. -/
theorem Except.mapM_eq_ok_iff {ε α β : Type} {f : α → Except ε β} {items : List α}
    {results : List β} :
    items.mapM f = .ok results ↔ items.map f = results.map .ok := by
  induction items generalizing results with
  | nil => cases results <;> simp [pure, Except.pure]
  | cons item rest ih =>
    rw [List.mapM_cons, bind_eq_ok_iff]
    cases results with
    | nil => simp [bind_eq_ok_iff, pure, Except.pure]
    | cons result others =>
      rw [List.map_cons, List.map_cons, List.cons.injEq, ← ih]
      constructor
      · rintro ⟨value, first, h⟩
        obtain ⟨values, remaining, same⟩ := bind_eq_ok_iff.1 h
        obtain ⟨rfl, rfl⟩ := List.cons.inj (Except.ok.inj same)
        exact ⟨first, remaining⟩
      · rintro ⟨first, remaining⟩
        exact ⟨result, first, bind_eq_ok_iff.2 ⟨others, remaining, rfl⟩⟩

/-- If every value is decoded from one item alone, so is every list of values. -/
theorem Except.mapM_eq_ok_iff_eq_map {ε α β : Type} {f : α → Except ε β} {g : β → α}
    (h : ∀ item result, f item = .ok result ↔ item = g result) {items : List α}
    {results : List β} : items.mapM f = .ok results ↔ items = results.map g := by
  rw [mapM_eq_ok_iff]
  induction results generalizing items with
  | nil => simp
  | cons result rest ih => cases items <;> simp [h, ih]

theorem Json.asMembers_eq_ok_iff {shape : Shape} {value : Json} {members : Keyed Json} :
    value.asMembers shape = .ok members ↔ value = .object members := by
  cases value <;> simp [asMembers]

theorem Json.asItems_eq_ok_iff {value : Json} {items : List Json} :
    value.asItems = .ok items ↔ value = .array items := by
  cases value <;> simp [asItems]

/-- A member that decodes, if it is there at all. -/
theorem Keyed.member?_eq_ok_iff {α : Type} {members : Keyed Json} {key : String}
    {decode : Json → Except Mismatch α} {result : Option α} :
    members.member? key decode = .ok result ↔
      (members.get? key).map decode = result.map .ok := by
  rw [member?]
  cases members.get? key with
  | none => cases result <;> simp
  | some value =>
    cases h : decode value <;> cases result <;> simp [h, Except.map]

/-- A member that decodes and is there. -/
theorem Keyed.member?_eq_ok_some_iff {α : Type} {members : Keyed Json} {key : String}
    {decode : Json → Except Mismatch α} {result : α} :
    members.member? key decode = .ok (some result) ↔
      ∃ value, members.get? key = some value ∧ decode value = .ok result := by
  rw [member?_eq_ok_iff, Option.map_some, Option.map_eq_some_iff]

/-- A value that decodes as something, null left aside, decodes as that. -/
theorem Json.of_asNullable_eq_ok_some {α : Type} {decode : Json → Except Mismatch α} {value : Json}
    {result : α} (h : asNullable decode value = .ok (some result)) : decode value = .ok result := by
  rw [asNullable.eq_def] at h
  split at h
  · cases h
  · cases decoded : decode value with
    | ok other =>
      rw [decoded] at h
      cases h
      rfl
    | error mismatch =>
      rw [decoded] at h
      cases h

theorem Keyed.required_eq_ok_iff {α : Type} {key : String} {found : Option α} {value : α} :
    required key found = .ok value ↔ found = some value := by
  cases found <;> simp [required]

/-! ### Entitlement records -/

namespace Entitlement

/-- The fragments of a series table are the members of its objects. -/
theorem decodeSeries_eq_ok_iff {value : Json} {series : Keyed (Keyed Json)} :
    decodeSeries value = .ok series ↔ value = .object (series.mapValues .object) := by
  have entry (named : String × Json) (result : String × Keyed Json) :
      (do Except.ok (named.1, ← named.2.asMembers .members) : Except Mismatch _) = .ok result ↔
        named = (result.1, .object result.2) := by
    obtain ⟨name, fragment⟩ := named
    obtain ⟨other, members⟩ := result
    simp only [Except.bind_eq_ok_iff, Json.asMembers_eq_ok_iff, Except.ok.injEq, Prod.mk.injEq]
    constructor
    · rintro ⟨_, rfl, rfl, rfl⟩
      exact ⟨rfl, rfl⟩
    · rintro ⟨rfl, rfl⟩
      exact ⟨_, rfl, rfl, rfl⟩
  rw [decodeSeries, Except.bind_eq_ok_iff]
  simp only [Json.asMembers_eq_ok_iff]
  constructor
  · rintro ⟨fragments, rfl, h⟩
    rw [(Except.mapM_eq_ok_iff_eq_map entry).1 h]
    rfl
  · rintro rfl
    exact ⟨_, rfl, (Except.mapM_eq_ok_iff_eq_map entry).2 rfl⟩

/-- An object decodes as a record when its members with a meaning do; they are what the record says,
a null one counting as absent. -/
theorem decode_eq_ok_iff {value : Json} {record : Entitlement} :
    decode value = .ok record ↔ ∃ (members : Keyed Json) (entitled : Option (Option Bool))
        (series : Option (Keyed (Keyed Json))) (kind : Option (Option String)),
      value = .object members ∧
      members.member? "entitled" (Json.asNullable Json.asBool) = .ok entitled ∧
      members.member? "series" decodeSeries = .ok series ∧
      members.member? "type" (Json.asNullable Json.asText) = .ok kind ∧
      record = {
        kind := kind.join
        entitled := entitled.join
        series := series.getD []
        fields := members.without knownKeys } := by
  simp only [decode, Except.bind_eq_ok_iff, Json.asMembers_eq_ok_iff, Except.ok.injEq]
  constructor
  · rintro ⟨members, rfl, entitled, hentitled, series, hseries, kind, hkind, rfl⟩
    exact ⟨members, entitled, series, kind, rfl, hentitled, hseries, hkind, rfl⟩
  · rintro ⟨members, entitled, series, kind, rfl, hentitled, hseries, hkind, rfl⟩
    exact ⟨members, rfl, entitled, hentitled, series, hseries, kind, hkind, rfl⟩

/-- The free members and the fragments are sorted, and no member with a meaning is a free one. -/
structure WellFormed (record : Entitlement) : Prop where
  fields : (Json.object record.fields).Sorted
  series : record.seriesJson.Sorted
  free : ∀ key ∈ knownKeys, record.fields.get? key = none

/-- What decodes from a sorted value is well-formed. -/
theorem wellFormed_of_decode {value : Json} (hs : value.Sorted) {record : Entitlement}
    (h : decode value = .ok record) : record.WellFormed := by
  obtain ⟨members, _, series, _, rfl, -, hseries, -, rfl⟩ := decode_eq_ok_iff.1 h
  refine ⟨hs.without knownKeys, ?_, fun key known => ?_⟩
  · rw [Keyed.member?_eq_ok_iff] at hseries
    cases series with
    | none => exact (Json.sorted_object_iff _).2 ⟨.nil, fun _ _ found => by cases found⟩
    | some series =>
      obtain ⟨table, found, decoded⟩ := Option.map_eq_some_iff.1 hseries
      have same : table = seriesJson { series } := decodeSeries_eq_ok_iff.1 decoded
      exact same ▸ ((Json.sorted_object_iff members).1 hs).2 "series" table found
  · rw [Keyed.get?_without, if_pos known]

end Entitlement

/-! ### Tokens -/

/-- The records that a list of values decodes to. -/
def Entitlement.decodeAll (records : Json) : Except Mismatch (List Entitlement) := do
  (← records.asItems).mapM decode

/-- The records of a sorted list of values are well-formed. -/
theorem Entitlement.wellFormed_of_decodeAll {value : Json} (hs : value.Sorted)
    {records : List Entitlement} (h : decodeAll value = .ok records) :
    ∀ record ∈ records, record.WellFormed := by
  obtain ⟨items, rfl, decoded⟩ :
      ∃ items, value = .array items ∧ items.mapM decode = .ok records := by
    simpa only [decodeAll, Except.bind_eq_ok_iff, Json.asItems_eq_ok_iff] using h
  rw [Except.mapM_eq_ok_iff] at decoded
  rw [Json.Sorted] at hs
  clear h
  induction items generalizing records with
  | nil => cases records <;> simp at decoded ⊢
  | cons item rest ih =>
    cases records with
    | nil => simp
    | cons first others =>
      obtain ⟨hfirst, hothers⟩ := List.cons.inj decoded
      rw [Json.SortedItems] at hs
      rw [List.forall_mem_cons]
      exact ⟨wellFormed_of_decode hs.1 hfirst, ih hothers hs.2⟩

/-- A contract is an object with an id, and with a list of records that may be left out. -/
theorem Contract.decode_eq_ok_iff {value : Json} {contract : Contract} :
    decode value = .ok contract ↔ ∃ (members : Keyed Json) (id : String)
        (records : Option (List Entitlement)),
      value = .object members ∧
      members.member? "id" Json.asText = .ok (some id) ∧
      members.member? "resourceEntitlements" Entitlement.decodeAll = .ok records ∧
      contract = {
        id
        entitlements := records.getD []
        extra := members.without ["id", "resourceEntitlements"] } := by
  simp only [decode, Except.bind_eq_ok_iff, Json.asMembers_eq_ok_iff, Except.ok.injEq,
    Keyed.required_eq_ok_iff]
  constructor
  · rintro ⟨members, rfl, _, hid, records, hrecords, id, rfl, rfl⟩
    exact ⟨members, id, records, rfl, hid, hrecords, rfl⟩
  · rintro ⟨members, id, records, rfl, hid, hrecords, rfl⟩
    exact ⟨members, rfl, _, hid, records, hrecords, id, rfl, rfl⟩

/-- The info of a token is an object with a contract. -/
theorem TokenInfo.decode_eq_ok_iff {value : Json} {info : TokenInfo} :
    decode value = .ok info ↔ ∃ (members : Keyed Json) (contract : Contract),
      value = .object members ∧
      members.member? "contractInfo" Contract.decode = .ok (some contract) ∧
      info = { contract, extra := members.without ["contractInfo"] } := by
  simp only [decode, Except.bind_eq_ok_iff, Json.asMembers_eq_ok_iff, Except.ok.injEq,
    Keyed.required_eq_ok_iff]
  constructor
  · rintro ⟨members, rfl, _, hcontract, contract, rfl, rfl⟩
    exact ⟨members, contract, rfl, hcontract, rfl⟩
  · rintro ⟨members, contract, rfl, hcontract, rfl⟩
    exact ⟨members, rfl, _, hcontract, contract, rfl, rfl⟩

/-- A machine token is an object with a secret and its info. -/
theorem MachineToken.decode_eq_ok_iff {value : Json} {token : MachineToken} :
    decode value = .ok token ↔ ∃ (members : Keyed Json) (secret : String)
        (info : TokenInfo),
      value = .object members ∧
      members.member? "machineToken" Json.asText = .ok (some secret) ∧
      members.member? "machineTokenInfo" TokenInfo.decode = .ok (some info) ∧
      token = { secret, info, extra := members.without ["machineToken", "machineTokenInfo"] } := by
  simp only [decode, Except.bind_eq_ok_iff, Json.asMembers_eq_ok_iff, Except.ok.injEq,
    Keyed.required_eq_ok_iff]
  constructor
  · rintro ⟨members, rfl, _, hsecret, _, hinfo, secret, rfl, info, rfl, rfl⟩
    exact ⟨members, secret, info, rfl, hsecret, hinfo, rfl⟩
  · rintro ⟨members, secret, info, rfl, hsecret, hinfo, rfl⟩
    exact ⟨members, rfl, _, hsecret, _, hinfo, secret, rfl, info, rfl, rfl⟩

/-- A member of a sorted object that decodes does so from a sorted value. -/
theorem Json.Sorted.of_member? {α : Type} {members : Keyed Json} (hs : (object members).Sorted)
    {key : String} {decode : Json → Except Mismatch α} {result : α}
    (h : members.member? key decode = .ok (some result)) :
    ∃ value : Json, value.Sorted ∧ decode value = .ok result := by
  obtain ⟨value, found, decoded⟩ := Keyed.member?_eq_ok_some_iff.1 h
  exact ⟨value, ((sorted_object_iff members).1 hs).2 key value found, decoded⟩

/-- The records of a contract that decodes from a sorted value are well-formed. -/
theorem Contract.wellFormed_of_decode {value : Json} (hs : value.Sorted) {contract : Contract}
    (h : decode value = .ok contract) : ∀ record ∈ contract.entitlements, record.WellFormed := by
  obtain ⟨members, _, records, rfl, -, hrecords, rfl⟩ := decode_eq_ok_iff.1 h
  cases records with
  | none => exact fun record mem => absurd mem List.not_mem_nil
  | some records =>
    obtain ⟨recordsValue, hs, hrecords⟩ := hs.of_member? hrecords
    exact Entitlement.wellFormed_of_decodeAll hs hrecords

/-- The records of a token that decodes from a sorted value are well-formed. -/
theorem MachineToken.wellFormed_of_decode {value : Json} (hs : value.Sorted) {token : MachineToken}
    (h : decode value = .ok token) : ∀ record ∈ token.entitlements, record.WellFormed := by
  obtain ⟨members, _, info, rfl, -, hinfo, rfl⟩ := decode_eq_ok_iff.1 h
  obtain ⟨infoValue, hs, hinfo⟩ := hs.of_member? hinfo
  obtain ⟨infoMembers, contract, rfl, hcontract, rfl⟩ := TokenInfo.decode_eq_ok_iff.1 hinfo
  obtain ⟨contractValue, hs, hcontract⟩ := hs.of_member? hcontract
  exact Contract.wellFormed_of_decode hs hcontract

end Subscription
