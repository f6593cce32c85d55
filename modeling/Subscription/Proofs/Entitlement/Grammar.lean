import Subscription.Proofs.Entitlement.Renderings

/-!
# Which values are machine tokens

A machine token is an object in objects: what the token says about its contract, the contract in it,
and the entitlement records of the contract. `MachineToken.Readable` says of a value what has to be
where; everything else may be there too. Exactly the readable values decode, and what they decode to
has all that they say: written again it is the value without the members of its records that say
nothing, and with a list of records in any case (`MachineToken.pruned`), and it decodes to the same
token (`MachineToken.decodes_exactly_readable`).

Each level of the token has three facts, and hands them to the level around it: when it decodes,
what it is written as, and that this decodes to it.
-/

namespace Subscription

/-! ### Members that decode -/

/-- A member decodes if it is absent or its value decodes. -/
theorem Keyed.exists_member?_eq_ok_iff {α : Type} {decode : Json → Except Mismatch α}
    {members : Keyed Json} {key : String} :
    (∃ found, members.member? key decode = .ok found) ↔
      ∀ value, members.get? key = some value → ∃ a, decode value = .ok a := by
  rw [member?]
  cases members.get? key with
  | none => simp
  | some value => cases h : decode value <;> simp [h, Except.map]

/-- What may be `null` can be decoded if it is, or if it can be decoded otherwise. -/
theorem Json.exists_asNullable_eq_ok_iff {α : Type} {decode : Json → Except Mismatch α}
    {value : Json} : (∃ found, asNullable decode value = .ok found) ↔
      value = .null ∨ ∃ a, decode value = .ok a := by
  by_cases null : value = .null
  · simp [asNullable_eq_ok_iff, null]
  · simp [asNullable_eq_ok_iff, null, exists_comm (α := Option α)]

/-- A text that has to be there. -/
theorem Keyed.member?_asText_eq_ok_some_iff {members : Keyed Json} {key text : String} :
    members.member? key Json.asText = .ok (some text) ↔
      members.get? key = some (.string text) := by
  simp [member?_eq_ok_some_iff, Json.asText_eq_ok_iff]

/-- The object that has a member. -/
theorem Json.exists_members_of_member? {value member : Json} {key : String}
    (h : value.member? key = some member) :
    ∃ members : Keyed Json, value = .object members ∧ members.get? key = some member := by
  cases value <;> first | cases h | exact ⟨_, rfl, h⟩

/-- A list decodes if every item does. -/
theorem Except.exists_mapM_eq_ok_iff {ε α β : Type} {f : α → Except ε β} {items : List α} :
    (∃ results, items.mapM f = .ok results) ↔ ∀ item ∈ items, ∃ result, f item = .ok result := by
  simp only [mapM_eq_ok_iff]
  -- From there on both sides go item by item.
  induction items with
  | nil => exact ⟨fun _ => List.forall_mem_nil _, fun _ => ⟨[], rfl⟩⟩
  | cons item rest ih =>
    rw [List.forall_mem_cons, ← ih]
    constructor
    · rintro ⟨_ | ⟨result, results⟩, same⟩
      · cases same
      · obtain ⟨first, others⟩ := List.cons.inj same
        exact ⟨⟨result, first⟩, results, others⟩
    · rintro ⟨⟨result, first⟩, results, others⟩
      exact ⟨result :: results, by rw [List.map_cons, List.map_cons, first, others]⟩

/-- What a list decodes to, passed on item by item. -/
theorem Except.map_eq_map_of_mapM {ε α β γ : Type} {f : α → Except ε β} {items : List α}
    {results : List β} (h : items.mapM f = .ok results) {g : β → γ} {k : α → γ}
    (each : ∀ item ∈ items, ∀ result, f item = .ok result → g result = k item) :
    results.map g = items.map k := by
  rw [mapM_eq_ok_iff] at h
  induction items generalizing results with
  | nil => cases results <;> simp at h ⊢
  | cons item rest ih =>
    cases results with
    | nil => simp at h
    | cons result others =>
      obtain ⟨first, remaining⟩ := List.cons.inj h
      obtain ⟨here, behind⟩ := List.forall_mem_cons.1 each
      rw [List.map_cons, List.map_cons, here result first, ih remaining behind]

/-! ### The grammar -/

/-- The object of an entitlement record: its members with a meaning, if they are there, are a
nullable text, a nullable truth value and an object of objects. -/
structure Entitlement.Readable (value : Json) : Prop where
  isObject : ∃ members, value = .object members
  kind : ∀ kind, value.member? "type" = some kind → kind = .null ∨ ∃ text, kind = .string text
  entitled : ∀ granted, value.member? "entitled" = some granted →
    granted = .null ∨ ∃ truth, granted = .bool truth
  series : ∀ table, value.member? "series" = some table →
    ∃ fragments, table = .object fragments ∧
      ∀ entry ∈ fragments, ∃ members, entry.2 = .object members

/-- The object of a contract: a text as its id, and a list of records if it has one. -/
structure Contract.Readable (value : Json) : Prop where
  id : ∃ text, value.member? "id" = some (.string text)
  records : ∀ records, value.member? "resourceEntitlements" = some records →
    ∃ items, records = .array items ∧ ∀ item ∈ items, Entitlement.Readable item

/-- The object of a token's information: it has a contract. -/
structure TokenInfo.Readable (value : Json) : Prop where
  contract : ∃ contract, value.member? "contractInfo" = some contract ∧ Contract.Readable contract

/-- The object of a machine token: it has a text as its secret, and information. -/
structure MachineToken.Readable (value : Json) : Prop where
  secret : ∃ text, value.member? "machineToken" = some (.string text)
  info : ∃ info, value.member? "machineTokenInfo" = some info ∧ TokenInfo.Readable info

/-! ### Exactly the grammar decodes -/

namespace Entitlement

variable {value : Json}

/-- A table of series holds an object for every series. -/
theorem exists_decodeSeries_eq_ok_iff : (∃ series, decodeSeries value = .ok series) ↔
    ∃ fragments, value = .object fragments ∧
      ∀ entry ∈ fragments, ∃ members, entry.2 = .object members := by
  have fragment (entry : String × Json) :
      (∃ named, (do Except.ok (entry.1, ← entry.2.asMembers .members)) = .ok named) ↔
        ∃ members, entry.2 = .object members := by
    simp [Except.bind_eq_ok_iff, Json.asMembers_eq_ok_iff]
  constructor
  · rintro ⟨series, h⟩
    obtain ⟨fragments, same, read⟩ := Except.bind_eq_ok_iff.1 h
    exact ⟨fragments, Json.asMembers_eq_ok_iff.1 same, fun entry mem =>
      (fragment entry).1 (Except.exists_mapM_eq_ok_iff.1 ⟨series, read⟩ entry mem)⟩
  · rintro ⟨fragments, rfl, objects⟩
    exact Except.exists_mapM_eq_ok_iff.2 fun entry mem => (fragment entry).2 (objects entry mem)

/-- A record can be decoded if it has the shape of one. -/
theorem exists_decode_eq_ok_iff : (∃ record, decode value = .ok record) ↔ Readable value := by
  simp only [decode_eq_ok_iff]
  constructor
  · rintro ⟨_, members, entitled, series, kind, rfl, hentitled, hseries, hkind, -⟩
    refine ⟨⟨members, rfl⟩, fun kind there => ?_, fun granted there => ?_, fun table there => ?_⟩
    · have := Keyed.exists_member?_eq_ok_iff.1 ⟨_, hkind⟩ kind there
      simpa only [Json.exists_asNullable_eq_ok_iff, Json.asText_eq_ok_iff] using this
    · have := Keyed.exists_member?_eq_ok_iff.1 ⟨_, hentitled⟩ granted there
      simpa only [Json.exists_asNullable_eq_ok_iff, Json.asBool_eq_ok_iff] using this
    · have := Keyed.exists_member?_eq_ok_iff.1 ⟨_, hseries⟩ table there
      exact exists_decodeSeries_eq_ok_iff.1 this
  · rintro ⟨⟨members, rfl⟩, kinds, grants, tables⟩
    obtain ⟨kind, hkind⟩ :
        ∃ kind, Keyed.member? members "type" (Json.asNullable Json.asText) = .ok kind := by
      simpa only [Keyed.exists_member?_eq_ok_iff, Json.exists_asNullable_eq_ok_iff,
        Json.asText_eq_ok_iff, Json.member?_object] using kinds
    obtain ⟨granted, hgranted⟩ :
        ∃ granted,
          Keyed.member? members "entitled" (Json.asNullable Json.asBool) = .ok granted := by
      simpa only [Keyed.exists_member?_eq_ok_iff, Json.exists_asNullable_eq_ok_iff,
        Json.asBool_eq_ok_iff, Json.member?_object] using grants
    obtain ⟨series, hseries⟩ :
        ∃ series, Keyed.member? members "series" decodeSeries = .ok series := by
      simpa only [Keyed.exists_member?_eq_ok_iff, exists_decodeSeries_eq_ok_iff,
        Json.member?_object] using tables
    exact ⟨_, members, granted, series, kind, rfl, hgranted, hseries, hkind, rfl⟩

/-- A list of records can be decoded if each of its items has the shape of one. -/
theorem exists_decodeAll_eq_ok_iff : (∃ records, decodeAll value = .ok records) ↔
    ∃ items, value = .array items ∧ ∀ item ∈ items, Readable item := by
  simp only [← exists_decode_eq_ok_iff]
  constructor
  · rintro ⟨records, h⟩
    obtain ⟨items, same, read⟩ := Except.bind_eq_ok_iff.1 h
    exact ⟨items, Json.asItems_eq_ok_iff.1 same, Except.exists_mapM_eq_ok_iff.1 ⟨records, read⟩⟩
  · rintro ⟨items, rfl, readable⟩
    exact Except.exists_mapM_eq_ok_iff.2 readable

end Entitlement

theorem Contract.exists_decode_eq_ok_iff {value : Json} :
    (∃ contract, decode value = .ok contract) ↔ Readable value := by
  simp only [decode_eq_ok_iff]
  constructor
  · rintro ⟨_, members, id, records, rfl, hid, hrecords, -⟩
    refine ⟨⟨id, Keyed.member?_asText_eq_ok_some_iff.1 hid⟩, fun list there => ?_⟩
    exact Entitlement.exists_decodeAll_eq_ok_iff.1
      (Keyed.exists_member?_eq_ok_iff.1 ⟨_, hrecords⟩ list there)
  · rintro ⟨⟨id, there⟩, lists⟩
    obtain ⟨members, rfl, found⟩ := Json.exists_members_of_member? there
    have hid := Keyed.member?_asText_eq_ok_some_iff.2 found
    obtain ⟨records, hrecords⟩ :
        ∃ records, members.member? "resourceEntitlements" Entitlement.decodeAll = .ok records := by
      simpa only [Keyed.exists_member?_eq_ok_iff, Entitlement.exists_decodeAll_eq_ok_iff,
        Json.member?_object] using lists
    exact ⟨_, members, id, records, rfl, hid, hrecords, rfl⟩

theorem TokenInfo.exists_decode_eq_ok_iff {value : Json} :
    (∃ info, decode value = .ok info) ↔ Readable value := by
  simp only [decode_eq_ok_iff]
  constructor
  · rintro ⟨_, members, contract, rfl, hcontract, -⟩
    obtain ⟨inner, there, read⟩ := Keyed.member?_eq_ok_some_iff.1 hcontract
    exact ⟨inner, there, Contract.exists_decode_eq_ok_iff.1 ⟨contract, read⟩⟩
  · rintro ⟨inner, there, readable⟩
    obtain ⟨members, rfl, found⟩ := Json.exists_members_of_member? there
    obtain ⟨contract, read⟩ := Contract.exists_decode_eq_ok_iff.2 readable
    have hcontract := Keyed.member?_eq_ok_some_iff.2 ⟨inner, found, read⟩
    exact ⟨_, members, contract, rfl, hcontract, rfl⟩

/-- A machine token can be decoded if it has the shape of one. -/
theorem MachineToken.exists_decode_eq_ok_iff {value : Json} :
    (∃ token, decode value = .ok token) ↔ Readable value := by
  simp only [decode_eq_ok_iff]
  constructor
  · rintro ⟨_, members, secret, info, rfl, hsecret, hinfo, -⟩
    obtain ⟨inner, inside, decoded⟩ := Keyed.member?_eq_ok_some_iff.1 hinfo
    exact ⟨⟨secret, Keyed.member?_asText_eq_ok_some_iff.1 hsecret⟩, inner, inside,
      TokenInfo.exists_decode_eq_ok_iff.1 ⟨info, decoded⟩⟩
  · rintro ⟨⟨secret, there⟩, inner, inside, readable⟩
    obtain ⟨members, rfl, found⟩ := Json.exists_members_of_member? there
    have hsecret := Keyed.member?_asText_eq_ok_some_iff.2 found
    obtain ⟨info, read⟩ := TokenInfo.exists_decode_eq_ok_iff.2 readable
    have hinfo := Keyed.member?_eq_ok_some_iff.2 ⟨inner, inside, read⟩
    exact ⟨_, members, secret, info, rfl, hsecret, hinfo, rfl⟩

/-! ### What is written -/

/-- The object of a contract with a list of records in any case, each of them without members that
say nothing. -/
def Contract.pruned (value : Json) : Json :=
  value.adjust "resourceEntitlements" fun
    | some (.array records) => some (.array (records.map Entitlement.pruned))
    | _ => some (.array [])

/-- The object of a token's information with its contract pruned. -/
def TokenInfo.pruned (value : Json) : Json :=
  value.adjust "contractInfo" (·.map Contract.pruned)

/-- The object of a machine token with its contract pruned. -/
def MachineToken.pruned (value : Json) : Json :=
  value.adjust "machineTokenInfo" (·.map TokenInfo.pruned)

namespace Entitlement

variable {items : List Json} {records : List Entitlement}

/-- A list of records is written as it was, each without members that say nothing. -/
theorem map_encode_eq_map_pruned (hs : (Json.array items).Sorted)
    (h : decodeAll (.array items) = .ok records) : records.map encode = items.map pruned := by
  rw [Json.Sorted, Json.sortedItems_iff] at hs
  refine Except.map_eq_map_of_mapM h fun item mem record read => ?_
  rw [(wellFormed_of_decode (hs item mem) read).encode_eq, members_eq_pruned (hs item mem) read]

/-- The list that well-formed records are written as decodes to the records. -/
theorem decodeAll_encode (h : ∀ record ∈ records, record.WellFormed) :
    decodeAll (.array (records.map encode)) = .ok records := by
  refine Except.mapM_eq_ok_iff.2 ?_
  rw [List.map_map]
  refine List.map_congr_left fun record mem => ?_
  rw [Function.comp_apply, (h record mem).encode_eq, (h record mem).decode_members]

end Entitlement

namespace Contract

variable {value : Json} {contract : Contract}

/-- A decoded contract is written as it was given, without the members that say nothing. -/
theorem encode_eq_pruned (hs : value.Sorted) (h : decode value = .ok contract) :
    contract.encode = pruned value := by
  obtain ⟨members, id, records, rfl, hid, hrecords, rfl⟩ := decode_eq_ok_iff.1 h
  have ⟨ascending, inside⟩ := (Json.sorted_object_iff _).1 hs
  refine congrArg Json.object ((Keyed.sorted_ofList _).ext
    (ascending.set "resourceEntitlements" _) fun key => ?_)
  rw [ascending.get?_ofList_without (by simp), Keyed.get?_set]
  by_cases isId : key = "id"
  · have there := Keyed.member?_asText_eq_ok_some_iff.1 hid
    simp [isId, there, Keyed.ofList, Keyed.get?_insert]
  by_cases isRecords : key = "resourceEntitlements"
  · subst isRecords
    cases records with
    | none =>
      have absent : members.get? "resourceEntitlements" = none := by
        simpa [Keyed.member?_eq_ok_iff] using hrecords
      simp [absent, Keyed.ofList, Keyed.get?_insert]
    | some records =>
      obtain ⟨list, there, read⟩ := Keyed.member?_eq_ok_some_iff.1 hrecords
      obtain ⟨items, rfl⟩ : ∃ items, list = .array items := by
        obtain ⟨items, same, -⟩ := Except.bind_eq_ok_iff.1 read
        exact ⟨items, Json.asItems_eq_ok_iff.1 same⟩
      have written := Entitlement.map_encode_eq_map_pruned (inside _ _ there) read
      simp [there, written, Keyed.ofList, Keyed.get?_insert]
  · simp [isId, isRecords, Ne.symm isRecords]

/-- A written contract is decoded to itself. -/
theorem decode_encode (hs : value.Sorted) (h : decode value = .ok contract) :
    decode contract.encode = .ok contract := by
  have records := Entitlement.decodeAll_encode (wellFormed_of_decode hs h)
  obtain ⟨members, id, found, rfl, -, -, rfl⟩ := decode_eq_ok_iff.1 h
  have ascending := ((Json.sorted_object_iff _).1 hs).1
  refine decode_eq_ok_iff.2 ⟨_, id, some (found.getD []), rfl, ?_, ?_, ?_⟩
  · rw [Keyed.member?_asText_eq_ok_some_iff, ascending.get?_ofList_without (by simp)]
    simp [Keyed.ofList, Keyed.get?_insert]
  · rw [Keyed.member?_eq_ok_iff, ascending.get?_ofList_without (by simp)]
    simpa [Keyed.ofList, Keyed.get?_insert] using records
  · rw [ascending.without_ofList_without (by simp)]
    rfl

end Contract

namespace TokenInfo

variable {value : Json} {info : TokenInfo}

theorem encode_eq_pruned (hs : value.Sorted) (h : decode value = .ok info) :
    info.encode = pruned value := by
  obtain ⟨members, contract, rfl, hcontract, rfl⟩ := decode_eq_ok_iff.1 h
  obtain ⟨inner, there, read⟩ := Keyed.member?_eq_ok_some_iff.1 hcontract
  have ⟨ascending, inside⟩ := (Json.sorted_object_iff _).1 hs
  have written := Contract.encode_eq_pruned (inside _ _ there) read
  refine congrArg Json.object ((Keyed.sorted_ofList _).ext
    (ascending.set "contractInfo" _) fun key => ?_)
  rw [← List.singleton_append, ascending.get?_ofList_without (by simp), Keyed.get?_set]
  by_cases isContract : key = "contractInfo"
  · simp [isContract, there, written, Keyed.ofList, Keyed.get?_insert]
  · simp [isContract, Ne.symm isContract]

theorem decode_encode (hs : value.Sorted) (h : decode value = .ok info) :
    decode info.encode = .ok info := by
  obtain ⟨members, contract, rfl, hcontract, rfl⟩ := decode_eq_ok_iff.1 h
  obtain ⟨inner, there, read⟩ := Keyed.member?_eq_ok_some_iff.1 hcontract
  have ⟨ascending, inside⟩ := (Json.sorted_object_iff _).1 hs
  have again := Contract.decode_encode (inside _ _ there) read
  refine decode_eq_ok_iff.2 ⟨_, contract, rfl, ?_, ?_⟩
  · rw [Keyed.member?_eq_ok_iff, ← List.singleton_append,
      ascending.get?_ofList_without (by simp)]
    simp [again, Keyed.ofList, Keyed.get?_insert]
  · have free : (Keyed.ofList ([("contractInfo", contract.encode)] ++
        members.without ["contractInfo"])).without ["contractInfo"] =
          members.without ["contractInfo"] := ascending.without_ofList_without (by simp)
    exact congrArg (TokenInfo.mk contract) free.symm

end TokenInfo

namespace MachineToken

variable {value : Json} {token : MachineToken}

/-- A decoded token is written as it was given, without the members that say nothing. -/
theorem encode_eq_pruned (hs : value.Sorted) (h : decode value = .ok token) :
    token.encode = pruned value := by
  obtain ⟨members, secret, info, rfl, hsecret, hinfo, rfl⟩ := decode_eq_ok_iff.1 h
  obtain ⟨inner, there, read⟩ := Keyed.member?_eq_ok_some_iff.1 hinfo
  have ⟨ascending, inside⟩ := (Json.sorted_object_iff _).1 hs
  have written := TokenInfo.encode_eq_pruned (inside _ _ there) read
  refine congrArg Json.object ((Keyed.sorted_ofList _).ext
    (ascending.set "machineTokenInfo" _) fun key => ?_)
  rw [ascending.get?_ofList_without (by simp), Keyed.get?_set]
  by_cases isSecret : key = "machineToken"
  · have found := Keyed.member?_asText_eq_ok_some_iff.1 hsecret
    simp [isSecret, found, Keyed.ofList, Keyed.get?_insert]
  by_cases isInfo : key = "machineTokenInfo"
  · simp [isInfo, there, written, Keyed.ofList, Keyed.get?_insert]
  · simp [isSecret, isInfo, Ne.symm isInfo]

/-- A written token is decoded to itself. -/
theorem decode_encode (hs : value.Sorted) (h : decode value = .ok token) :
    decode token.encode = .ok token := by
  obtain ⟨members, secret, info, rfl, hsecret, hinfo, rfl⟩ := decode_eq_ok_iff.1 h
  obtain ⟨inner, there, read⟩ := Keyed.member?_eq_ok_some_iff.1 hinfo
  have ⟨ascending, inside⟩ := (Json.sorted_object_iff _).1 hs
  have again := TokenInfo.decode_encode (inside _ _ there) read
  refine decode_eq_ok_iff.2 ⟨_, secret, info, rfl, ?_, ?_, ?_⟩
  · rw [Keyed.member?_asText_eq_ok_some_iff, ascending.get?_ofList_without (by simp)]
    simp [Keyed.ofList, Keyed.get?_insert]
  · rw [Keyed.member?_eq_ok_iff, ascending.get?_ofList_without (by simp)]
    simp [again, Keyed.ofList, Keyed.get?_insert]
  · rw [ascending.without_ofList_without (by simp)]

/-! ### What is kept -/

/-- The token has every member of the value that has no meaning of its own, at its level. -/
structure Keeps (token : MachineToken) (value : Json) : Prop where
  extra : ∀ key ∉ ["machineToken", "machineTokenInfo"],
    token.extra.get? key = value.member? key
  info : ∀ key ∉ ["contractInfo"],
    token.info.extra.get? key = value.at? ["machineTokenInfo", key]
  contract : ∀ key ∉ ["id", "resourceEntitlements"],
    token.info.contract.extra.get? key = value.at? ["machineTokenInfo", "contractInfo", key]
  records : ∀ (place : Nat) record, token.entitlements[place]? = some record →
    ∃ items item, value.at? ["machineTokenInfo", "contractInfo", "resourceEntitlements"] =
        some (.array items) ∧ items[place]? = some item ∧
      ∀ key ∉ Entitlement.knownKeys, record.fields.get? key = item.member? key

/-- Decoding keeps what has no meaning of its own, at every level. -/
theorem keeps_of_decode (h : decode value = .ok token) : token.Keeps value := by
  obtain ⟨members, secret, info, rfl, -, hinfo, rfl⟩ := decode_eq_ok_iff.1 h
  obtain ⟨infoValue, infoThere, hinfo⟩ := Keyed.member?_eq_ok_some_iff.1 hinfo
  obtain ⟨infoMembers, contract, rfl, hcontract, rfl⟩ := TokenInfo.decode_eq_ok_iff.1 hinfo
  obtain ⟨contractValue, contractThere, hcontract⟩ := Keyed.member?_eq_ok_some_iff.1 hcontract
  obtain ⟨contractMembers, id, records, rfl, -, hrecords, rfl⟩ :=
    Contract.decode_eq_ok_iff.1 hcontract
  have last (members : Keyed Json) (key : String) :
      (Json.object members).at? [key] = members.get? key := by
    simp [Json.at?, Json.member?_object]
  refine ⟨fun key other => ?_, fun key other => ?_, fun key other => ?_,
    fun place record there => ?_⟩
  · exact (Keyed.get?_without _ _ _).trans (if_neg other)
  · rw [Json.at?_object_cons infoThere, last]
    exact (Keyed.get?_without _ _ _).trans (if_neg other)
  · rw [Json.at?_object_cons infoThere, Json.at?_object_cons contractThere, last]
    exact (Keyed.get?_without _ _ _).trans (if_neg other)
  · rw [Json.at?_object_cons infoThere, Json.at?_object_cons contractThere, last]
    cases records with
    | none => simp [MachineToken.entitlements] at there
    | some records =>
      obtain ⟨list, inContract, read⟩ := Keyed.member?_eq_ok_some_iff.1 hrecords
      obtain ⟨items, rfl, read⟩ : ∃ items, list = .array items ∧
          items.mapM Entitlement.decode = .ok records := by
        simpa only [Entitlement.decodeAll, Except.bind_eq_ok_iff, Json.asItems_eq_ok_iff] using read
      -- Decoding keeps the places, so the record comes from the item at its own.
      have places := congrArg (·[place]?) (Except.mapM_eq_ok_iff.1 read)
      have found : records[place]? = some record := there
      simp only [List.getElem?_map, found, Option.map_some, Option.map_eq_some_iff] at places
      obtain ⟨item, inItems, decoded⟩ := places
      obtain ⟨itemMembers, _, _, _, rfl, -, -, -, rfl⟩ := Entitlement.decode_eq_ok_iff.1 decoded
      exact ⟨items, _, inContract, inItems, fun key other =>
        (Keyed.get?_without _ _ _).trans (if_neg other)⟩

/-! ### The token as a whole -/

/-- **Exactly the readable values are machine tokens, and nothing of them is lost.** Written again,
a token is the value that it was decoded from, up to members of its records that say nothing and a
list of records that was not there; the members without a meaning of their own are kept at every
level; and what is written decodes to the same token. -/
theorem decodes_exactly_readable (hs : value.Sorted) :
    ((∃ token, decode value = .ok token) ↔ Readable value) ∧
    ∀ token, decode value = .ok token →
      token.encode = pruned value ∧ token.Keeps value ∧ decode token.encode = .ok token :=
  ⟨exists_decode_eq_ok_iff, fun _ h =>
    ⟨encode_eq_pruned hs h, keeps_of_decode h, decode_encode hs h⟩⟩

/-- A token with two records, each with members that say nothing, and with other members at every
level. -/
def sentToken : Json :=
  .object [("expires", .string "2030-01-01"), ("machineToken", .string "secret"),
    ("machineTokenInfo", .object [
      ("accountInfo", .null),
      ("contractInfo", .object [
        ("id", .string "contract"), ("name", .string "main"),
        ("resourceEntitlements", .array [
          .object [("entitled", .null), ("tier", .null), ("type", .string "livepatch")],
          .object [("series", .object []), ("type", .null)]])])])]

/-- It is read, and written without them. -/
theorem decodes_exactly_readable_sentToken :
    ∃ token, decode sentToken = .ok token ∧ Readable sentToken ∧
      token.encode = .object [("expires", .string "2030-01-01"),
        ("machineToken", .string "secret"),
        ("machineTokenInfo", .object [
          ("accountInfo", .null),
          ("contractInfo", .object [
            ("id", .string "contract"), ("name", .string "main"),
            ("resourceEntitlements", .array [
              .object [("tier", .null), ("type", .string "livepatch")], .object []])])])] ∧
      decode token.encode = .ok token := by
  obtain ⟨exactly, kept⟩ := @decodes_exactly_readable sentToken (by decide)
  obtain ⟨written, -, again⟩ := kept _ rfl
  exact ⟨_, rfl, exactly.1 ⟨_, rfl⟩, written, again⟩

end MachineToken

end Subscription
