import Mathlib.Data.List.Nodup
import Subscription.Proofs.Command.Issued
import Subscription.Proofs.Entitlement.Arrangement
import Subscription.Proofs.Update.SideBySide

/-!
# The order of the records in a token does not matter

A server may list the records of a contract in any order. Where no two of them have the same type,
an update does not depend on it (`Update.order_of_records_does_not_matter`): tokens that differ in
the order alone are read alike, since the records are sorted and there is one record to be found
under each type (`MachineToken.Rearranged.readAlike`). The rest is a comparison of two runs. What
the server sends is logged, so the journals differ in what is logged while a token is exchanged;
from then on they go on in the same way, and a processor that does not read the log is told and
answers the same on both sides.
-/

namespace Subscription

/-! ### Tokens -/

namespace MachineToken

/-- The tokens differ in nothing that counts but the order of their records, of which no two have
the same type. A missing type counts as an empty one. -/
structure Rearranged (token token' : MachineToken) : Prop where
  secret : token.secret = token'.secret
  contractId : token.contractId = token'.contractId
  perm : token.entitlements.Perm token'.entitlements
  distinct : (token.entitlements.map (·.kind.getD "")).Nodup

variable {token token' : MachineToken}

/-- In a token without two records of one type, the type tells the record. -/
theorem eq_of_kind (distinct : (token.entitlements.map (·.kind.getD "")).Nodup)
    {record other : Entitlement} (mem : record ∈ token.entitlements)
    (mem' : other ∈ token.entitlements) (same : record.kind.getD "" = other.kind.getD "") :
    record = other :=
  List.inj_on_of_nodup_map distinct mem mem' same

/-- Sorting by distinct types has one result. -/
theorem Rearranged.sortedEntitlements_eq (h : token.Rearranged token') :
    token.sortedEntitlements = token'.sortedEntitlements := by
  have left := token.arranged_sortedEntitlements
  have right := token'.arranged_sortedEntitlements
  refine List.Perm.eq_of_pairwise ?_ left.ascending right.ascending
    ((left.perm.trans h.perm).trans right.perm.symm)
  intro record other mem mem' le ge
  have here : record ∈ token.entitlements := left.perm.mem_iff.1 mem
  have there : other ∈ token.entitlements := h.perm.mem_iff.2 (right.perm.mem_iff.1 mem')
  refine eq_of_kind h.distinct here there (String.le_antisymm ?_ ?_)
  · exact (Utf8.encode_le_encode_iff _ _).1 le
  · exact (Utf8.encode_le_encode_iff _ _).1 ge

/-- The record found under a type is the one record of the type. -/
theorem entitlement?_eq_some_iff (distinct : (token.entitlements.map (·.kind.getD "")).Nodup)
    {kind : String} {record : Entitlement} :
    token.entitlement? kind = some record ↔
      record ∈ token.entitlements ∧ record.kind = some kind := by
  constructor
  · intro found
    exact ⟨List.mem_of_find?_eq_some found, by simpa using List.find?_some found⟩
  · rintro ⟨mem, named⟩
    have there : (token.entitlement? kind).isSome := by
      rw [entitlement?, List.find?_isSome]
      exact ⟨record, mem, by simp [named]⟩
    obtain ⟨first, found⟩ := Option.isSome_iff_exists.1 there
    have firstNamed : first.kind = some kind := by simpa using List.find?_some found
    rw [found, eq_of_kind distinct (List.mem_of_find?_eq_some found) mem
      (by rw [firstNamed, named])]

theorem Rearranged.readAlike (h : token.Rearranged token') : token.ReadAlike token' where
  secret := h.secret
  contractId := h.contractId
  sorted := h.sortedEntitlements_eq
  found kind := by
    have distinct' := (h.perm.map (·.kind.getD "")).nodup_iff.1 h.distinct
    refine Option.ext fun record => ?_
    rw [entitlement?_eq_some_iff h.distinct, entitlement?_eq_some_iff distinct', h.perm.mem_iff]

/-- Two bodies are the same, or they are tokens that differ in the order of their records. -/
def SameButOrder (body body' : Json) : Prop :=
  body = body' ∨ ∃ token token', decode body = .ok token ∧ decode body' = .ok token' ∧
    token.Rearranged token'

theorem SameButOrder.decodes {body body' : Json} (h : SameButOrder body body') :
    Both ReadAlike (decode body) (decode body') := by
  rcases h with rfl | ⟨token, token', decoded, decoded', rearranged⟩
  · cases decode body with
    | ok token => exact .ok (.refl token)
    | error mismatch => exact .error mismatch
  · rw [decoded, decoded']
    exact .ok rearranged.readAlike

/-- Two tokens are the same, or they differ in the order of their records; or there is neither. -/
inductive KeptButOrder : Option MachineToken → Option MachineToken → Prop
  | same (stored : Option MachineToken) : KeptButOrder stored stored
  | rearranged {token token' : MachineToken} (h : token.Rearranged token') :
      KeptButOrder (some token) (some token')

/-- Whether the machine is attached is the same on both sides, and so is how its token is read. -/
theorem KeptButOrder.knownAlike {stored stored' : Option MachineToken}
    (h : KeptButOrder stored stored') :
    KnownAlike (stored.filter isAttached) (stored'.filter isAttached) := by
  cases h with
  | same stored =>
    cases stored.filter isAttached with
    | none => exact .none
    | some token => exact .some (.refl token)
  | @rearranged token token' h =>
    have attached : token.isAttached = token'.isAttached := by
      rw [isAttached, isAttached, h.secret]
    rw [Option.filter_some, Option.filter_some, ← attached]
    split
    · exact .some h.readAlike
    · exact .none

end MachineToken

/-! ### Journals up to the log -/

namespace Journal

/-- All that happened but what was logged. -/
def unlogged (journal : Journal) : Journal :=
  journal.filter fun
    | .logged _ => false
    | _ => true

@[simp] theorem unlogged_append (a b : Journal) :
    (a ++ b).unlogged = a.unlogged ++ b.unlogged :=
  List.filter_append ..

@[simp] theorem unlogged_logged (events : List LogEvent) : unlogged (events.map .logged) = [] := by
  induction events with
  | nil => rfl
  | cons event rest ih => exact ih

/-- The log has no part in what processors were told. -/
theorem calls_unlogged (journal : Journal) : journal.unlogged.calls = journal.calls := by
  induction journal with
  | nil => rfl
  | cons first rest ih =>
    cases first with
    | logged => exact ih
    | requested => exact ih
    | processed kind call outcome => exact congrArg ((kind, call, outcome) :: ·) ih

end Journal

/-- The processor does not read the log. -/
def Processor.IgnoresLog (processor : Processor) : Prop :=
  ∀ (past past' : Journal) (call : ProcessorCall), past.unlogged = past'.unlogged →
    processor past call = processor past' call

namespace Likeness

variable {σ : Type}

/-- While a token is exchanged, different things may be logged. -/
def upToLog (states : σ → σ → Prop) : Likeness σ where
  states
  pasts past past' := past.unlogged = past'.unlogged
  news added added' := added.unlogged = added'.unlogged
  same _ := rfl
  append first second := by rw [Journal.unlogged_append, Journal.unlogged_append, first, second]
  extend past added := by rw [Journal.unlogged_append, Journal.unlogged_append, past, added]

/-- From then on, everything that is added is the same. -/
def afterLog (states : σ → σ → Prop) : Likeness σ where
  states
  pasts past past' := past.unlogged = past'.unlogged
  news := Eq
  same _ := rfl
  append := by rintro a _ b _ rfl rfl; rfl
  extend := by
    rintro past past' added _ same rfl
    rw [Journal.unlogged_append, Journal.unlogged_append, same]

end Likeness

/-! ### Updates -/

/-- States that are alike are told apart neither by the host nor by what comes of writing the token
or the id of the machine, whatever is written. -/
structure Environment.Impartial {σ : Type} (env : Environment σ) (alike : σ → σ → Prop) :
    Prop where
  platform : ∀ state state', alike state state' →
    env.host.platform state = env.host.platform state'
  machineId : ∀ state state', alike state state' →
    (env.host.machineId state).1 = (env.host.machineId state').1 ∧
    alike (env.host.machineId state).2.1 (env.host.machineId state').2.1
  writes : ∀ key, Store.IsOfMachine key → ∀ value value' state state', alike state state' →
    ((env.store.write key value).perform state).1 =
      ((env.store.write key value').perform state').1 ∧
    alike ((env.store.write key value).perform state).2
      ((env.store.write key value').perform state').2

/-- A store that works takes any token, so where the host tells the same in all its states, no two
of them are told apart. -/
theorem Store.Works.impartial {σ : Type} {env : Environment σ} {holds : σ → Store.Entries → Prop}
    (works : env.store.Works holds)
    (platform : ∀ {state state' entries entries'}, holds state entries → holds state' entries' →
      env.host.platform state = env.host.platform state')
    (told : ∀ {state state' entries entries'}, holds state entries → holds state' entries' →
      (env.host.machineId state).1 = (env.host.machineId state').1)
    (keeps : ∀ {state entries}, holds state entries →
      holds (env.host.machineId state).2.1 entries) :
    env.Impartial fun state state' => (∃ entries, holds state entries) ∧
      ∃ entries, holds state' entries where
  platform := by
    rintro state state' ⟨⟨entries, held⟩, entries', held'⟩
    exact platform held held'
  machineId := by
    rintro state state' ⟨⟨entries, held⟩, entries', held'⟩
    exact ⟨told held held', ⟨entries, keeps held⟩, entries', keeps held'⟩
  writes := by
    rintro key ofMachine value value' state state' ⟨⟨entries, held⟩, entries', held'⟩
    have written := works.writes value held ofMachine
    have written' := works.writes value' held' ofMachine
    obtain ⟨shown, after, -⟩ := works.written held written
    obtain ⟨shown', after', -⟩ := works.written held' written'
    exact ⟨written.trans written'.symm, ⟨_, after⟩, _, after'⟩

namespace Update

variable {σ : Type}

/-- The world in which the services begin to be brought in line, or in which the update has ended
before that. -/
def exchanged (env : Environment σ) (contractToken : Option String) (world : World σ) : World σ :=
  match env.storedToken world.state with
  | .error _ => world
  | .ok stored =>
    ((fetch env (stored.filter MachineToken.isAttached) contractToken).perform world).2

/-- Both updates end with the same result. What was done, the log apart, is the same; and once the
token was exchanged, what goes into the journals is the same, the log included. -/
structure RanAlike (env env' : Environment σ) (contractToken : Option String)
    (world world' : World σ) : Prop where
  result : ((run env contractToken).perform world).1 = ((run env' contractToken).perform world').1
  unlogged : ((run env contractToken).perform world).2.journal.unlogged =
    ((run env' contractToken).perform world').2.journal.unlogged
  calls : ((run env contractToken).perform world).2.journal.calls =
    ((run env' contractToken).perform world').2.journal.calls
  services : ∃ news : Journal,
    ((run env contractToken).perform world).2.journal =
      (exchanged env contractToken world).journal ++ news ∧
    ((run env' contractToken).perform world').2.journal =
      (exchanged env' contractToken world').journal ++ news

/-- Once the exchange was alike up to the log, it is enough that the same comes after it. -/
theorem RanAlike.of_exchanged {env env' : Environment σ} {contractToken : Option String}
    {world world' : World σ}
    (result : ((run env contractToken).perform world).1 =
      ((run env' contractToken).perform world').1)
    (before : (exchanged env contractToken world).journal.unlogged =
      (exchanged env' contractToken world').journal.unlogged)
    {news : Journal}
    (journal : ((run env contractToken).perform world).2.journal =
      (exchanged env contractToken world).journal ++ news)
    (journal' : ((run env' contractToken).perform world').2.journal =
      (exchanged env' contractToken world').journal ++ news) :
    RanAlike env env' contractToken world world' := by
  have unlogged : ((run env contractToken).perform world).2.journal.unlogged =
      ((run env' contractToken).perform world').2.journal.unlogged := by
    rw [journal, journal', Journal.unlogged_append, Journal.unlogged_append, before]
  refine ⟨result, unlogged, ?_, news, journal, journal'⟩
  rw [← Journal.calls_unlogged, unlogged, Journal.calls_unlogged]

/-- What follows an exchange that was alike up to the log adds the same on both sides. -/
theorem bind_after_exchange {ε α β : Type} {alike : σ → σ → Prop} {relates : α → α → Prop}
    {exchange exchange' : Action (World σ) ε α} {next next' : α → Action (World σ) ε β}
    (h : Action.Alike (.upToLog alike) relates exchange exchange')
    (hnext : ∀ value value', relates value value' →
      Action.Alike (.afterLog alike) Eq (next value) (next' value'))
    {world world' : World σ} (worlds : (Likeness.upToLog alike).Worlds world world') :
    ((exchange >>= next).perform world).1 = ((exchange' >>= next').perform world').1 ∧
    (exchange.perform world).2.journal.unlogged = (exchange'.perform world').2.journal.unlogged ∧
    ∃ news : Journal,
      ((exchange >>= next).perform world).2.journal = (exchange.perform world).2.journal ++ news ∧
      ((exchange' >>= next').perform world').2.journal =
        (exchange'.perform world').2.journal ++ news := by
  have ⟨results, leads⟩ := h world world' worlds
  have between := worlds.of_leads leads
  rw [Action.perform_bind, Action.perform_bind]
  cases performed : exchange.perform world with | mk result after =>
  cases performed' : exchange'.perform world' with | mk result' after' =>
  rw [performed, performed'] at results between
  cases results with
  | error failure =>
    exact ⟨rfl, between.pasts, [], (List.append_nil _).symm, (List.append_nil _).symm⟩
  | ok related =>
    -- The states are alike, and the journals are up to the log: this is all that is asked for next.
    obtain ⟨ends, -, news, news', journal, journal', same⟩ :=
      hnext _ _ related after after' ⟨between.states, between.pasts⟩
    obtain rfl : news = news' := same
    exact ⟨ends.eq, between.pasts, news, journal, journal'⟩

section Orders

variable {env : Environment σ} {server' : Server} {alike : σ → σ → Prop}

/-- Servers that send the same tokens up to the order of their records. -/
theorem exchangesAlike_of_impartial (impartial : env.Impartial alike)
    (answers : ∀ request past past', past.unlogged = past'.unlogged →
      Both (fun response response' : Response =>
          MachineToken.SameButOrder response.body response'.body)
        (env.server past request).2 (server' past' request).2) :
    env.ExchangesAlike (.upToLog alike) MachineToken.SameButOrder
      { env with server := server' } where
  machineId state state' same := by
    have ⟨told, after⟩ := impartial.machineId state state' same
    refine ⟨told, after, ?_⟩
    -- What is logged does not count, so the lines of the host are dropped on both sides.
    change Journal.unlogged _ = Journal.unlogged _
    rw [Journal.unlogged_logged, Journal.unlogged_logged]
  platform := impartial.platform
  server request past past' same := by
    refine ⟨answers request past past' same, ?_⟩
    change Journal.unlogged ([.requested request] ++ _) =
      Journal.unlogged ([.requested request] ++ _)
    rw [Journal.unlogged_append, Journal.unlogged_append, Journal.unlogged_logged,
      Journal.unlogged_logged]
  decodes body body' := MachineToken.SameButOrder.decodes
  storesToken body body' _ state state' same := by
    have ⟨results, after⟩ := impartial.writes _ (.inl rfl) body body' state state' same
    exact ⟨.of_eq results, after⟩
  storesId value state state' same := by
    have ⟨results, after⟩ := impartial.writes _ (.inr rfl) value value state state' same
    exact ⟨.of_eq results, after⟩

/-- Processors that do not read the log, on a host that does not tell the states apart. -/
theorem servesAlike_of_impartial (impartial : env.Impartial alike)
    (ignores : ∀ kind processor, env.processors.get? kind = some processor →
      processor.IgnoresLog) :
    env.ServesAlike (.afterLog alike) { env with server := server' } where
  platform := impartial.platform
  processors := rfl
  takes kind processor registered past past' call same :=
    ignores kind processor registered past past' call same

/-- **The order of the records in a token does not matter.** Two servers answer alike, up to the
order of the records in the tokens that they send, where no two records have the same type; and the
tokens that were stored before, if any, are alike in the same way. Then the same update ends with
the same result. The same requests are sent and the same processors are called, with the same old
records, changes and flags, in the same order; and all that is logged about the services is logged
alike, in the same order. -/
theorem order_of_records_does_not_matter (reads : env.store.ReadsOnly)
    (impartial : env.Impartial alike)
    (ignores : ∀ kind processor, env.processors.get? kind = some processor →
      processor.IgnoresLog)
    (answers : ∀ request past past', past.unlogged = past'.unlogged →
      Both (fun response response' : Response =>
          MachineToken.SameButOrder response.body response'.body)
        (env.server past request).2 (server' past' request).2)
    {world world' : World σ} (states : alike world.state world'.state)
    (pasts : world.journal.unlogged = world'.journal.unlogged)
    (stored : Both MachineToken.KeptButOrder (env.storedToken world.state)
      (env.storedToken world'.state)) (contractToken : Option String) :
    RanAlike env { env with server := server' } contractToken world world' := by
  let env' : Environment σ := { env with server := server' }
  have exchanges : env.ExchangesAlike _ MachineToken.SameButOrder env' :=
    exchangesAlike_of_impartial impartial answers
  have serves : env.ServesAlike (.afterLog alike) env' := servesAlike_of_impartial impartial ignores
  have reads' : env'.store.ReadsOnly := reads
  -- A stored token that cannot be read ends both updates before anything is sent.
  cases found : env.storedToken world.state with
  | error cause =>
    have found' : env'.storedToken world'.state = .error cause := by
      rw [found] at stored
      cases same : env.storedToken world'.state <;> rw [same] at stored <;> cases stored
      exact same
    have ended := perform_run_unreadable reads found contractToken
    have ended' := perform_run_unreadable reads' found' contractToken
    have before : exchanged env contractToken world = world := by rw [exchanged, found]
    have before' : exchanged env' contractToken world' = world' := by rw [exchanged, found']
    have journal : ((run env contractToken).perform world).2.journal =
        (exchanged env contractToken world).journal ++ [] := by
      rw [ended, before, List.append_nil]
    have journal' : ((run env' contractToken).perform world').2.journal =
        (exchanged env' contractToken world').journal ++ [] := by
      rw [ended', before', List.append_nil]
    refine .of_exchanged ?_ ?_ journal journal'
    · rw [ended, ended']
    · rw [before, before']
      exact pasts
  | ok kept =>
    obtain ⟨kept', found', known⟩ : ∃ kept', env'.storedToken world'.state = .ok kept' ∧
        MachineToken.KeptButOrder kept kept' := by
      rw [found] at stored
      cases same : env.storedToken world'.state <;> rw [same] at stored <;> cases stored
      exact ⟨_, same, ‹_›⟩
    have ended := perform_run reads found contractToken
    have ended' := perform_run reads' found' contractToken
    have before : exchanged env contractToken world = ((fetch env
        (kept.filter MachineToken.isAttached) contractToken).perform world).2 := by
      rw [exchanged, found]
    have before' : exchanged env' contractToken world' = ((fetch env'
        (kept'.filter MachineToken.isAttached) contractToken).perform world').2 := by
      rw [exchanged, found']
    obtain ⟨result, same, news, journal, journal'⟩ := bind_after_exchange
      (alike_fetch exchanges known.knownAlike contractToken)
      (fun body body' same => alike_serve serves known.knownAlike same.decodes) ⟨states, pasts⟩
    rw [← ended, ← before] at journal
    rw [← ended', ← before'] at journal'
    refine .of_exchanged ?_ ?_ journal journal'
    · rw [ended, ended']
      exact result
    · rw [before, before']
      exact same

end Orders

/-- A record of a service on some tier. -/
def tiered (kind tier : String) : Json :=
  .object [("tier", .string tier), ("type", .string kind)]

/-- A machine token with these records. -/
def tokenOf (records : List Json) : Json :=
  let contract := .object [("id", .string "contract"), ("resourceEntitlements", .array records)]
  .object [("machineToken", .string "secret"),
    ("machineTokenInfo", .object [("contractInfo", contract)])]

/-- A machine whose one processor is always busy, and whose server only ever sends this token. -/
def steadyLivepatch (body : Json) : Environment (Keyed Json) :=
  { busyLivepatch with server := fun _ _ => ([], .ok { body, headers := [] }) }

/-- Two services move to the edge tier: one processor is busy and the other is missing, whichever of
the two the server and the stored token list first. -/
theorem order_of_records_does_not_matter_tiers :
    let listed (tier : String) : Json := tokenOf [tiered "livepatch" tier, tiered "esm" tier]
    let turned (tier : String) : Json := tokenOf [tiered "esm" tier, tiered "livepatch" tier]
    let env := steadyLivepatch (listed "edge")
    let env' := steadyLivepatch (turned "edge")
    let world : World (Keyed Json) := { state := [(Store.tokenKey, listed "stable")] }
    let world' : World (Keyed Json) := { state := [(Store.tokenKey, turned "stable")] }
    MachineToken.SameButOrder (listed "edge") (turned "edge") ∧
    Both MachineToken.KeptButOrder (env.storedToken world.state) (env.storedToken world'.state) ∧
    RanAlike env env' none world world' := by
  intro listed turned env env' world world'
  have rearranged (tier : String) : ∃ token token', MachineToken.decode (listed tier) = .ok token ∧
      MachineToken.decode (turned tier) = .ok token' ∧ token.Rearranged token' := by
    refine ⟨_, _, rfl, rfl, rfl, rfl, .swap .., ?_⟩
    change ["livepatch", "esm"].Nodup
    decide
  have sent : MachineToken.SameButOrder (listed "edge") (turned "edge") := .inr (rearranged "edge")
  have stored : Both MachineToken.KeptButOrder (env.storedToken world.state)
      (env.storedToken world'.state) := by
    obtain ⟨token, token', decoded, decoded', alike⟩ := rearranged "stable"
    have found (body : Json) : env.storedToken [(Store.tokenKey, body)] =
        ((MachineToken.decode body).mapError .unexpected).map some := rfl
    rw [found, found, decoded, decoded']
    exact .ok (.rearranged alike)
  have impartial : env.Impartial _ := Store.works_memory.impartial
    (fun _ _ => rfl) (fun _ _ => rfl) fun held => held
  have ignores : ∀ kind processor, env.processors.get? kind = some processor →
      processor.IgnoresLog := by
    intro kind processor registered
    have same := Keyed.mem_of_get? registered
    obtain ⟨-, rfl⟩ := Prod.mk.inj (List.mem_singleton.1 same)
    exact fun _ _ _ _ => rfl
  refine ⟨sent, stored, ?_⟩
  have reads : env.store.ReadsOnly := inMemory_busyLivepatch.readsOnly
  have answers : ∀ (request : Request) (past past' : Journal), past.unlogged = past'.unlogged →
      Both (fun response response' : Response =>
          MachineToken.SameButOrder response.body response'.body)
        (env.server past request).2 (env'.server past' request).2 := by
    intro request past past' _
    refine .ok ?_
    exact sent
  have pasts : world.journal.unlogged = world'.journal.unlogged := rfl
  exact order_of_records_does_not_matter reads impartial ignores answers ⟨⟨_, rfl⟩, _, rfl⟩ pasts
    stored none

end Update

end Subscription
