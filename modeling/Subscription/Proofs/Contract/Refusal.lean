import Subscription.Contract.Failure
import Subscription.Proofs.Json.Outlines

/-!
# Why a contract is refused

What the operator is told about a refusal with status 403 is decided by the whole body of the
answer. `ApiError.Grounds` says for a JSON object which contract it names and why: every known
member has its shape, wherever it stands, the status names a contract and one of three reasons, and
two of the reasons come with a date. The operator is told so exactly then, and of an expired token
otherwise; members that are not known never matter (`ApiError.refusal_is_decided_by_body`).

The body is read as an outline, so this rests on the outline of a written value
(`Outline.parse?_compact`). From there on reading is a chain of steps that can each fail, and the
envelope is what all of them together make of the members (`Envelope.read_info_iff`).
-/

namespace Subscription

/-! ### What is read of a body -/

namespace ContractStatus

/-- The status that the members of an object show. -/
structure ShownBy (members : Keyed Json) (status : ContractStatus) : Prop where
  contractId : Json.IsNullableText (members.get? "contractId") status.contractId
  reason : Json.IsNullableText (members.get? "reason") status.reason
  time : ∃ text, Json.IsNullableText (members.get? "time") text ∧
    status.time = text.bind Timestamp.parse?

/-- A status is read from a body where its members show it. -/
theorem ofOutline?_eq_some_iff {members : Keyed Json} (sorted : members.Sorted)
    {status : ContractStatus} :
    ofOutline? (Outline.ofJson (.object members)) = some status ↔ ShownBy members status := by
  have fields := Outline.fields?_ofJson sorted names
  simp only [names, List.map_cons, List.map_nil] at fields
  simp only [ofOutline?, names, fields, Option.bind_eq_bind, Option.bind_some,
    Option.bind_eq_some_iff, Outline.optional?_nullableText?_iff, Option.some.injEq]
  constructor
  · rintro ⟨time, isTime, contractId, isId, reason, isReason, rfl⟩
    exact ⟨isId, isReason, time, isTime, rfl⟩
  · rintro ⟨isId, isReason, time, isTime, same⟩
    exact ⟨time, isTime, _, isId, _, isReason, same ▸ rfl⟩

/-- A member that is no array holds a status exactly if it is an object that shows one. -/
theorem optional?_ofNullable?_eq_some_iff {member : Option Json}
    (sorted : ∀ v, member = some v → v.Sorted) (noArray : ∀ items, member ≠ some (.array items))
    {status : ContractStatus} :
    Outline.optional? ofNullable? (member.map Outline.ofJson) = some (some status) ↔
      ∃ members, member = some (.object members) ∧ ShownBy members status := by
  match member with
  | none => exact iff_of_false (by rintro ⟨⟩) (by rintro ⟨_, ⟨⟩, -⟩)
  | some .null | some (.bool _) | some (.number _) | some (.string _) =>
    exact iff_of_false (by rintro ⟨⟩) (by rintro ⟨_, ⟨⟩, -⟩)
  | some (.array items) => exact absurd rfl (noArray items)
  | some (.object members) =>
    have step : Outline.optional? ofNullable? (some (Outline.ofJson (.object members))) =
        (ofOutline? (Outline.ofJson (.object members))).map some := rfl
    have keys := ((Json.sorted_object_iff members).1 (sorted _ rfl)).1
    rw [Option.map_some, step, Option.map_eq_some_iff]
    constructor
    · rintro ⟨found, read, same⟩
      obtain rfl := Option.some.inj same
      exact ⟨members, rfl, (ofOutline?_eq_some_iff keys).1 read⟩
    · rintro ⟨others, same, shown⟩
      obtain rfl := Json.object.inj (Option.some.inj same)
      exact ⟨status, (ofOutline?_eq_some_iff keys).2 shown, rfl⟩

end ContractStatus

namespace Envelope

/-- An envelope is read where each of its known members can be. -/
theorem ofOutline?_eq_some_iff {members : Keyed Json} (sorted : members.Sorted)
    {envelope : Envelope} :
    ofOutline? (Outline.ofJson (.object members)) = some envelope ↔
      Json.IsNullableText (members.get? "code") envelope.code ∧
      Json.IsNullableText (members.get? "message") envelope.message ∧
      Outline.optional? ContractStatus.ofNullable?
        ((members.get? "info").map Outline.ofJson) = some envelope.info ∧
      Json.IsNullableText (members.get? "traceId") envelope.traceId := by
  have fields := Outline.fields?_ofJson sorted names
  simp only [names, List.map_cons, List.map_nil] at fields
  simp only [ofOutline?, names, fields, Option.bind_eq_bind, Option.bind_some,
    Option.bind_eq_some_iff, Outline.optional?_nullableText?_iff, Option.some.injEq]
  constructor
  · rintro ⟨code, isCode, message, isMessage, info, isInfo, traceId, isTrace, rfl⟩
    exact ⟨isCode, isMessage, isInfo, isTrace⟩
  · rintro ⟨isCode, isMessage, isInfo, isTrace⟩
    exact ⟨_, isCode, _, isMessage, _, isInfo, _, isTrace, rfl⟩

/-- A status is read of a written object exactly if every known member has its shape and the member
for the status shows it. -/
theorem read_info_iff {members : Keyed Json} (sorted : (Json.object members).Sorted)
    (noArray : ∀ items, members.get? "info" ≠ some (.array items)) {status : ContractStatus} :
    (read (Json.object members).compact).info = some status ↔
      (∃ code, Json.IsNullableText (members.get? "code") code) ∧
      (∃ message, Json.IsNullableText (members.get? "message") message) ∧
      (∃ traceId, Json.IsNullableText (members.get? "traceId") traceId) ∧
      ∃ inner, members.get? "info" = some (.object inner) ∧ status.ShownBy inner := by
  obtain ⟨keys, inside⟩ := (Json.sorted_object_iff members).1 sorted
  have shown : _ ↔ ∃ inner, members.get? "info" = some (.object inner) ∧ status.ShownBy inner :=
    ContractStatus.optional?_ofNullable?_eq_some_iff (inside "info") noArray
  rw [read, Outline.parse?_compact, Option.bind_some, ← shown]
  constructor
  · intro found
    cases whole : ofOutline? (Outline.ofJson (.object members)) with
    | none =>
      rw [whole] at found
      cases found
    | some envelope =>
      rw [whole, Option.getD_some] at found
      obtain ⟨isCode, isMessage, isInfo, isTrace⟩ := (ofOutline?_eq_some_iff keys).1 whole
      exact ⟨⟨_, isCode⟩, ⟨_, isMessage⟩, ⟨_, isTrace⟩, found ▸ isInfo⟩
  · rintro ⟨⟨code, isCode⟩, ⟨message, isMessage⟩, ⟨traceId, isTrace⟩, isInfo⟩
    have whole : ofOutline? (Outline.ofJson (.object members)) =
        some { code, message, info := some status, traceId } :=
      (ofOutline?_eq_some_iff keys).2 ⟨isCode, isMessage, isInfo, isTrace⟩
    rw [whole]
    rfl

end Envelope

/-! ### Grounds -/

namespace ApiError

/-- The body names a contract and a reason, and every known member of it has its shape. -/
structure Blames (body : Json) (reason contractId : String) (time : Option String) : Prop where
  hasCode : ∃ code, Json.IsNullableText (body.member? "code") code
  hasMessage : ∃ message, Json.IsNullableText (body.member? "message") message
  hasTraceId : ∃ traceId, Json.IsNullableText (body.member? "traceId") traceId
  hasContract : body.at? ["info", "contractId"] = some (.string contractId)
  named : contractId ≠ ""
  hasReason : body.at? ["info", "reason"] = some (.string reason)
  hasTime : Json.IsNullableText (body.at? ["info", "time"]) time

/-- What a body says about the contract, in the words of the operator. A contract that was never
effective needs no date, and a time there that is none does no harm. -/
inductive Grounds (body : Json) : Notice → Prop
  | expired {contractId text : String} {time : Timestamp} :
      Blames body "no-longer-effective" contractId (some text) →
      Timestamp.parse? text = some time →
      Grounds body (.contractExpired contractId time.date.text)
  | notYet {contractId text : String} {time : Timestamp} :
      Blames body "not-effective-yet" contractId (some text) →
      Timestamp.parse? text = some time →
      Grounds body (.contractNotYetEffective contractId time.date.text)
  | never {contractId : String} {time : Option String} :
      Blames body "never-effective" contractId time →
      Grounds body (.contractNeverEffective contractId)

/-- What a body blames on a contract, member by member. -/
theorem blames_object_iff {members : Keyed Json} {reason contractId : String}
    {time : Option String} :
    Blames (.object members) reason contractId time ↔
      (∃ code, Json.IsNullableText (members.get? "code") code) ∧
      (∃ message, Json.IsNullableText (members.get? "message") message) ∧
      (∃ traceId, Json.IsNullableText (members.get? "traceId") traceId) ∧
      contractId ≠ "" ∧ ∃ inner : Keyed Json, members.get? "info" = some (.object inner) ∧
        inner.get? "contractId" = some (.string contractId) ∧
        inner.get? "reason" = some (.string reason) ∧
        Json.IsNullableText (inner.get? "time") time := by
  -- A path through the status leads to the members of its object, and nowhere if it is none.
  have within {inner : Keyed Json} (info : members.get? "info" = some (.object inner))
      (name : String) : (Json.object members).at? ["info", name] = inner.get? name := by
    rw [Json.at?_object_cons info, Json.at?_cons, Json.member?_object]
    exact Option.bind_fun_some _
  constructor
  · intro h
    have found := h.hasContract
    rw [Json.at?_cons, Option.bind_eq_some_iff] at found
    obtain ⟨v, info, found⟩ := found
    cases v with
    | object inner =>
      refine ⟨h.hasCode, h.hasMessage, h.hasTraceId, h.named, inner, info, ?_, ?_, ?_⟩
      · rw [← within info]
        exact h.hasContract
      · rw [← within info]
        exact h.hasReason
      · rw [← within info]
        exact h.hasTime
    | _ => cases found
  · rintro ⟨code, message, traceId, named, inner, info, isId, isReason, isTime⟩
    rw [← within info] at isId isReason isTime
    exact ⟨code, message, traceId, isId, named, isReason, isTime⟩

/-- The status of a written object that names a contract and a reason. -/
theorem Blames.read_info {members : Keyed Json} (sorted : (Json.object members).Sorted)
    (noArray : ∀ items, members.get? "info" ≠ some (.array items)) {reason contractId : String}
    {time : Option String} (blames : Blames (.object members) reason contractId time) :
    (Envelope.read (Json.object members).compact).info =
      some ⟨some contractId, some reason, time.bind Timestamp.parse?⟩ := by
  obtain ⟨code, message, traceId, -, inner, info, isId, isReason, isTime⟩ :=
    blames_object_iff.1 blames
  refine (Envelope.read_info_iff sorted noArray).2
    ⟨code, message, traceId, inner, info, ⟨?_, ?_, time, isTime, rfl⟩⟩
  · exact Json.isNullableText_some.2 isId
  · exact Json.isNullableText_some.2 isReason

/-- A refusal of a written object is told as its grounds. -/
theorem forbiddenNotice_eq_of_grounds {members : Keyed Json}
    (sorted : (Json.object members).Sorted)
    (noArray : ∀ items, members.get? "info" ≠ some (.array items)) {notice : Notice}
    (grounds : Grounds (.object members) notice) :
    forbiddenNotice ((Envelope.read (Json.object members).compact).info.getD {}) = notice := by
  have told {reason contractId : String} {time : Option String}
      (blames : Blames (.object members) reason contractId time) :
      (Envelope.read (Json.object members).compact).info =
          some ⟨some contractId, some reason, time.bind Timestamp.parse?⟩ ∧
        (some contractId).filter (· ≠ "") = some contractId :=
    ⟨blames.read_info sorted noArray, by
      rw [Option.filter_some, if_pos (by simpa using blames.named)]⟩
  cases grounds with
  | expired blames parsed =>
    obtain ⟨info, named⟩ := told blames
    simp only [info, Option.getD_some, forbiddenNotice, named, Option.bind_some, parsed]
  | notYet blames parsed =>
    obtain ⟨info, named⟩ := told blames
    simp only [info, Option.getD_some, forbiddenNotice, named, Option.bind_some, parsed]
  | never blames =>
    obtain ⟨info, named⟩ := told blames
    simp only [info, Option.getD_some, forbiddenNotice, named]

/-- A refusal of a written object has its grounds there, or counts as one for an expired token. -/
theorem grounds_or_forbiddenNotice_eq {members : Keyed Json}
    (sorted : (Json.object members).Sorted)
    (noArray : ∀ items, members.get? "info" ≠ some (.array items)) :
    let notice := forbiddenNotice ((Envelope.read (Json.object members).compact).info.getD {})
    Grounds (.object members) notice ∨ notice = .expiredToken := by
  intro notice
  cases info : (Envelope.read (Json.object members).compact).info with
  | none =>
    refine .inr ?_
    change forbiddenNotice (Option.getD _ _) = _
    rw [info]
    rfl
  | some status =>
    obtain ⟨code, message, traceId, inner, isInfo, isId, isReason, text, isTime, parsed⟩ :=
      (Envelope.read_info_iff sorted noArray).1 info
    change Grounds _ (forbiddenNotice (Option.getD _ _)) ∨ forbiddenNotice (Option.getD _ _) = _
    rw [info, Option.getD_some, forbiddenNotice]
    -- Without a contract nothing is told of one, whatever the reason.
    split
    · exact .inr rfl
    next contractId found =>
    obtain ⟨found, named⟩ := Option.filter_eq_some_iff.1 found
    rw [found, Json.isNullableText_some] at isId
    have blames {reason : String} (same : status.reason = some reason) :
        Blames (.object members) reason contractId text := by
      rw [same, Json.isNullableText_some] at isReason
      exact blames_object_iff.2 ⟨code, message, traceId, by simpa using named, inner, isInfo, isId,
        isReason, isTime⟩
    have dated {time : Timestamp} (same : status.time = some time) :
        ∃ t, text = some t ∧ Timestamp.parse? t = some time :=
      Option.bind_eq_some_iff.1 (parsed.symm.trans same)
    split
    · next reason time =>
      obtain ⟨t, rfl, isDate⟩ := dated time
      exact .inl (.expired (blames reason) isDate)
    · next reason time =>
      obtain ⟨t, rfl, isDate⟩ := dated time
      exact .inl (.notYet (blames reason) isDate)
    · next reason => exact .inl (.never (blames reason))
    · exact .inr rfl

end ApiError

/-! ### Wordings -/

/-- A written number has no quotes. -/
theorem Date.quote_notMem_padded (width n : Nat) : '"' ∉ (padded width n).toList := by
  rw [padded, String.toList_ofList]
  intro mem
  rcases List.mem_append.1 mem with mem | mem
  · exact absurd (List.eq_of_mem_replicate mem) (by decide)
  · exact absurd (Nat.isDigit_of_mem_toDigits (by decide) (by decide) mem) (by decide)

/-- A date in words has no quotes. -/
theorem Date.quote_notMem_text (date : Date) : '"' ∉ date.text.toList := by
  have name : '"' ∉ (monthNames.getD (date.month - 1) "").toList := by
    have all : ∀ k < 12, '"' ∉ (monthNames.getD k "").toList := by decide
    have last := date.valid.2.1
    exact all _ (by omega)
  have year : '"' ∉ (yearText date.year).toList := by
    unfold yearText
    split
    · split
      · exact quote_notMem_padded 4 _
      · rw [String.toList_append, List.mem_append, not_or]
        exact ⟨by decide, quote_notMem_padded 4 _⟩
    · rw [String.toList_append, List.mem_append, not_or]
      exact ⟨by decide, quote_notMem_padded 4 _⟩
  have day := quote_notMem_padded 2 date.day
  simp only [text, String.toList_append, List.mem_append, not_or]
  exact ⟨⟨⟨⟨name, by decide⟩, day⟩, by decide⟩, year⟩

namespace Notice

/-- The notice names a contract. A date is written without quotes. -/
inductive NamesContract : Notice → Prop
  | expired (contractId : String) {date : String} (plain : '"' ∉ date.toList) :
      NamesContract (.contractExpired contractId date)
  | notYet (contractId : String) {date : String} (plain : '"' ∉ date.toList) :
      NamesContract (.contractNotYetEffective contractId date)
  | never (contractId : String) : NamesContract (.contractNeverEffective contractId)

/-- What is said of a contract behind its name. -/
def predicate : Notice → String
  | .contractExpired _ date => " expired on " ++ date
  | .contractNotYetEffective _ date => " is not effective until " ++ date
  | _ => " has never been effective"

/-- The contract that a notice is about. -/
def contractId : Notice → String
  | .contractExpired contractId _ | .contractNotYetEffective contractId _
  | .contractNeverEffective contractId => contractId
  | _ => ""

/-- The three notices about a contract have one form. -/
theorem text_eq_forbidden {a : Notice} (h : a.NamesContract) :
    a.text = forbidden (contract a.contractId ++ a.predicate) := by
  cases h with
  | expired contractId plain | notYet contractId plain =>
    exact congrArg forbidden (String.append_assoc ..)
  | never contractId => rfl

/-- What is said of a contract has no quote in it, so the last quote of the text ends its name. -/
theorem quote_notMem_predicate {a : Notice} (h : a.NamesContract) :
    '"' ∉ a.predicate.toList := by
  have dated {front date : String} (free : '"' ∉ front.toList) (plain : '"' ∉ date.toList) :
      '"' ∉ (front ++ date).toList := by
    rw [String.toList_append, List.mem_append, not_or]
    exact ⟨free, plain⟩
  have never : '"' ∉ " has never been effective".toList := by decide
  cases h with
  | expired contractId plain => exact dated (by decide) plain
  | notYet contractId plain => exact dated (by decide) plain
  | never contractId => exact never

/-- The last quote in a text can be told from the others. -/
theorem append_quote_inj {a b s t : List Char} (hs : '"' ∉ s) (ht : '"' ∉ t)
    (same : a ++ '"' :: s = b ++ '"' :: t) : a = b ∧ s = t := by
  rcases List.append_eq_append_iff.1 same with ⟨more, rfl, behind⟩ | ⟨more, rfl, behind⟩
  · cases more with
    | nil => exact ⟨(List.append_nil a).symm, (List.cons.inj behind).2⟩
    | cons c more =>
      rw [(List.cons.inj behind).2] at hs
      exact absurd (List.mem_append_right more List.mem_cons_self) hs
  · cases more with
    | nil => exact ⟨List.append_nil b, (List.cons.inj behind).2.symm⟩
    | cons c more =>
      rw [(List.cons.inj behind).2] at ht
      exact absurd (List.mem_append_right more List.mem_cons_self) ht

theorem toList_forbidden_contract (contractId words : String) :
    (forbidden (contract contractId ++ words)).toList =
      "Cannot attach machine. Contract \"".toList ++
        (contractId.toList ++ '"' :: words.toList) := by
  have front : "Cannot attach machine. Contract \"".toList =
      "Cannot attach machine. ".toList ++ "Contract \"".toList := by decide
  have quote : "\"".toList = ['"'] := by decide
  unfold forbidden contract
  rw [front]
  simp only [String.toList_append, List.append_assoc, quote, List.singleton_append]

/-- Texts with different second characters stay different whatever follows. -/
theorem append_ne_append {a b : String} (ha : 1 < a.toList.length) (hb : 1 < b.toList.length)
    (other : a.toList[1]? ≠ b.toList[1]?) (s t : String) : a ++ s ≠ b ++ t := by
  intro same
  have seconds := congrArg (fun text => text.toList[1]?) same
  simp only [String.toList_append, List.getElem?_append_left ha, List.getElem?_append_left hb]
    at seconds
  exact other seconds

/-- What is said of different contracts, or for different reasons, is worded differently. -/
theorem text_inj {a b : Notice} (ha : a.NamesContract) (hb : b.NamesContract)
    (same : a.text = b.text) : a = b := by
  rw [text_eq_forbidden ha, text_eq_forbidden hb, ← String.toList_inj, toList_forbidden_contract,
    toList_forbidden_contract, List.append_cancel_left_eq] at same
  obtain ⟨sameId, same⟩ :=
    append_quote_inj (quote_notMem_predicate ha) (quote_notMem_predicate hb) same
  rw [String.toList_inj] at sameId same
  have cancel (words : String) {s t : String} (h : words ++ s = words ++ t) : s = t := by
    rw [← String.toList_inj, String.toList_append, String.toList_append,
      List.append_cancel_left_eq, String.toList_inj] at h
    exact h
  have never : " has never been effective" = " has never been effective" ++ "" := by
    rw [String.append_empty]
  -- The words about different reasons differ in their second characters.
  have expired_notYet (s t : String) : " expired on " ++ s ≠ " is not effective until " ++ t :=
    append_ne_append (by decide) (by decide) (by decide) s t
  have expired_never (s : String) : " expired on " ++ s ≠ " has never been effective" :=
    never ▸ append_ne_append (by decide) (by decide) (by decide) s ""
  have notYet_never (s : String) : " is not effective until " ++ s ≠ " has never been effective" :=
    never ▸ append_ne_append (by decide) (by decide) (by decide) s ""
  cases ha with
  | expired a _ =>
    cases hb with
    | expired b _ => exact congrArg₂ _ sameId (cancel _ same)
    | notYet b _ => exact absurd same (expired_notYet _ _)
    | never b => exact absurd same (expired_never _)
  | notYet a _ =>
    cases hb with
    | expired b _ => exact absurd same.symm (expired_notYet _ _)
    | notYet b _ => exact congrArg₂ _ sameId (cancel _ same)
    | never b => exact absurd same (notYet_never _)
  | never a =>
    cases hb with
    | expired b _ => exact absurd same.symm (expired_never _)
    | notYet b _ => exact absurd same.symm (notYet_never _)
    | never b => exact congrArg _ sameId

/-- No notice about a contract reads like the one about the token: their first letters differ. -/
theorem text_ne_expiredToken {a : Notice} (ha : a.NamesContract) :
    a.text ≠ expiredToken.text := by
  intro same
  have first : expiredToken.text.toList.head? = some 'E' := by
    unfold text
    decide
  have front : "Cannot attach machine. Contract \"".toList =
      'C' :: "annot attach machine. Contract \"".toList := by decide
  rw [← same, text_eq_forbidden ha, toList_forbidden_contract, front, List.cons_append,
    List.head?_cons] at first
  exact absurd (Option.some.inj first) (by decide)

end Notice

/-! ### The message of a refusal -/

namespace ApiError

/-- The grounds of a refusal are a contract and, for two of them, a date. -/
theorem Grounds.namesContract {body : Json} {notice : Notice} (h : Grounds body notice) :
    notice.NamesContract := by
  cases h with
  | expired blames isDate => exact .expired _ (Date.quote_notMem_text _)
  | notYet blames isDate => exact .notYet _ (Date.quote_notMem_text _)
  | never blames => exact .never _

/-- The bodies have the same known members. -/
structure SameKnown (a b : Json) : Prop where
  members : ∀ name ∈ Envelope.names, name ≠ "info" → a.member? name = b.member? name
  info : a.member? "info" = b.member? "info" ∨ ∃ inner inner' : Keyed Json,
    a.member? "info" = some (.object inner) ∧ b.member? "info" = some (.object inner') ∧
      ∀ name ∈ ContractStatus.names, inner.get? name = inner'.get? name

/-- To have the same known members has no direction. -/
theorem SameKnown.symm {a b : Json} (h : SameKnown a b) : SameKnown b a where
  members name mem other := (h.members name mem other).symm
  info := by
    rcases h.info with same | ⟨inner, inner', info, info', same⟩
    · exact .inl same.symm
    · exact .inr ⟨inner', inner, info', info, fun name mem => (same name mem).symm⟩

/-- Bodies with the same known members agree on each known member of their status. -/
theorem SameKnown.at?_info {a b : Json} (h : SameKnown a b) {name : String}
    (known : name ∈ ContractStatus.names) : a.at? ["info", name] = b.at? ["info", name] := by
  rw [Json.at?_cons, Json.at?_cons]
  rcases h.info with same | ⟨inner, inner', info, info', same⟩
  · rw [same]
  · rw [info, info', Option.bind_some, Option.bind_some, Json.at?_cons, Json.at?_cons,
      Json.member?_object, Json.member?_object, same name known]

/-- A contract is blamed for what the known members say. -/
theorem Blames.of_sameKnown {a b : Json} (h : SameKnown a b) {reason contractId : String}
    {time : Option String} (blames : Blames a reason contractId time) :
    Blames b reason contractId time := by
  obtain ⟨code, message, traceId, isId, named, isReason, isTime⟩ := blames
  rw [h.members _ (by decide) (by decide)] at code message traceId
  rw [h.at?_info (by decide)] at isId isReason isTime
  exact ⟨code, message, traceId, isId, named, isReason, isTime⟩

/-- The grounds of a refusal are in the known members. -/
theorem Grounds.of_sameKnown {a b : Json} (h : SameKnown a b) {notice : Notice}
    (grounds : Grounds a notice) : Grounds b notice := by
  cases grounds with
  | expired blames isDate => exact .expired (blames.of_sameKnown h) isDate
  | notYet blames isDate => exact .notYet (blames.of_sameKnown h) isDate
  | never blames => exact .never (blames.of_sameKnown h)

/-- The request was refused with status 403, and the body is the text of an object whose status is
not written as an array. -/
structure Refused (network : NetworkError) (members : Keyed Json) : Prop where
  code : network.code = some 403
  body : network.body = (Json.object members).compact
  sorted : (Json.object members).Sorted
  noArray : ∀ items, members.get? "info" ≠ some (.array items)

namespace Refused

variable {network : NetworkError} {members : Keyed Json}

/-- A refusal is worded after the status in its body, or after an empty one. -/
theorem notice_eq (refused : Refused network members) : (ofNetwork network).notice =
    forbiddenNotice ((Envelope.read (Json.object members).compact).info.getD {}) := by
  rw [← refused.body, ApiError.notice, ofNetwork, refused.code]
  rfl

/-- A body that gives grounds decides the notice. -/
theorem notice_eq_of_grounds (refused : Refused network members) {notice : Notice}
    (grounds : Grounds (.object members) notice) : (ofNetwork network).notice = notice := by
  rw [refused.notice_eq]
  exact forbiddenNotice_eq_of_grounds refused.sorted refused.noArray grounds

/-- A body that gives no grounds leads to the notice about the token. -/
theorem grounds_or_notice_eq (refused : Refused network members) :
    Grounds (.object members) (ofNetwork network).notice ∨
      (ofNetwork network).notice = .expiredToken := by
  rw [refused.notice_eq]
  exact grounds_or_forbiddenNotice_eq refused.sorted refused.noArray

end Refused

/-- **The whole body decides what the operator is told about a refusal**: the message names a
contract for a reason exactly if the body has grounds for it, and is the one about an expired token
exactly if it has none. Members that are not known do not matter. -/
theorem refusal_is_decided_by_body {network : NetworkError} {members : Keyed Json}
    (refused : Refused network members) :
    (∀ notice : Notice, notice.NamesContract →
      ((ofNetwork network).notice.text = notice.text ↔ Grounds (.object members) notice)) ∧
    ((ofNetwork network).notice.text = Notice.expiredToken.text ↔
      ∀ notice, ¬Grounds (.object members) notice) ∧
    ∀ network' members', Refused network' members' →
      SameKnown (.object members) (.object members') →
        (ofNetwork network').notice.text = (ofNetwork network).notice.text := by
  -- A body grounds one notice or none, and the texts of notices differ.
  refine ⟨fun notice named => ⟨fun same => ?_, fun grounds => ?_⟩,
    ⟨fun same notice grounds => ?_, fun none => ?_⟩, fun network' members' refused' known => ?_⟩
  · rcases refused.grounds_or_notice_eq with grounds | expired
    · rwa [Notice.text_inj grounds.namesContract named same] at grounds
    · rw [expired] at same
      exact absurd same.symm (Notice.text_ne_expiredToken named)
  · rw [refused.notice_eq_of_grounds grounds]
  · rw [refused.notice_eq_of_grounds grounds] at same
    exact Notice.text_ne_expiredToken grounds.namesContract same
  · rcases refused.grounds_or_notice_eq with grounds | expired
    · exact absurd grounds (none _)
    · rw [expired]
  · rcases refused.grounds_or_notice_eq with grounds | expired
    · rw [refused'.notice_eq_of_grounds (grounds.of_sameKnown known)]
    · rcases refused'.grounds_or_notice_eq with grounds' | expired'
      · rw [refused.notice_eq_of_grounds (grounds'.of_sameKnown known.symm)]
      · rw [expired, expired']

/-- A body that names a contract and the day it ended, with members that are not known. -/
def endedBody : Keyed Json :=
  [("info", .object [("contractId", .string "c-1"), ("details", .array [.bool true]),
      ("reason", .string "no-longer-effective"), ("time", .string "2020-01-02T03:04:05Z")]),
    ("status", .number (.unsigned 403))]

/-- The same body with a number for the identifier of the exchange. -/
def mistypedBody : Keyed Json := endedBody ++ [("traceId", .number (.unsigned 7))]

/-- A refusal with a body. -/
def refusalWith (members : Keyed Json) : NetworkError :=
  { message := "forbidden", code := some 403, url := "https://contracts/v1/context/machines/token",
    headers := [], body := (Json.object members).compact }

theorem refusal_is_decided_by_body_ended :
    Refused (refusalWith endedBody) endedBody ∧ Refused (refusalWith mistypedBody) mistypedBody ∧
      (ofNetwork (refusalWith endedBody)).notice.text =
        "Cannot attach machine. Contract \"c-1\" expired on January 02, 2020" ∧
      (ofNetwork (refusalWith mistypedBody)).notice.text = Notice.expiredToken.text := by
  have ended : Refused (refusalWith endedBody) endedBody :=
    ⟨rfl, rfl, by decide, fun _ same => by cases same⟩
  have mistyped : Refused (refusalWith mistypedBody) mistypedBody :=
    ⟨rfl, rfl, by decide, fun _ same => by cases same⟩
  have blames : Blames (.object endedBody) "no-longer-effective" "c-1"
      (some "2020-01-02T03:04:05Z") :=
    ⟨⟨none, .missing⟩, ⟨none, .missing⟩, ⟨none, .missing⟩, rfl, by decide, rfl, .text _⟩
  have isDate : Timestamp.parse? "2020-01-02T03:04:05Z" =
      some ⟨⟨2020, 1, 2, by decide⟩, ⟨11045, 0, by decide⟩, 0, by decide⟩ := by
    decide +kernel
  have grounds := Grounds.expired blames isDate
  have nobody {reason contractId : String} {time : Option String} :
      ¬Blames (.object mistypedBody) reason contractId time := by
    rintro ⟨-, -, ⟨_, ⟨⟩⟩, -⟩
  have none (notice : Notice) : ¬Grounds (.object mistypedBody) notice := by
    rintro (⟨blames, -⟩ | ⟨blames, -⟩ | ⟨blames⟩)
    all_goals exact nobody blames
  refine ⟨ended, mistyped, ?_, (refusal_is_decided_by_body mistyped).2.1.2 none⟩
  have told := ((refusal_is_decided_by_body ended).1 _ grounds.namesContract).2 grounds
  rw [told]
  decide +kernel

end ApiError

end Subscription
