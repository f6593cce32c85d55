import Mathlib.Control.Monad.Basic
import Subscription.Proofs.Update.Course

/-!
# The token is replaced as a whole or not at all

An update writes two entries, the machine token and the id of the machine, and it may end in many
ways before and after that. `TokenReplaced` describes the entries after a new token came in. An
update that does not come to this leaves every entry as it was, and it comes to this exactly if the
one request it sent was answered by a machine token (`Ran.kept_or_replaced`). What the processors
make of the new token has no part in it.
-/

namespace Subscription

/-! ### Notices -/

/-- No contract that is refused is told of as services that are not in line. -/
theorem ApiError.forbiddenNotice_ne_services (status : ContractStatus) :
    forbiddenNotice status ≠ .servicesFailed ∧ forbiddenNotice status ≠ .servicesBroken := by
  rw [forbiddenNotice]
  split
  · exact ⟨nofun, nofun⟩
  · split <;> exact ⟨nofun, nofun⟩

/-- No failure of an exchange is told of as services that are not in line. -/
theorem ClientError.notice_ne_services (cause : ClientError) :
    cause.notice ≠ .servicesFailed ∧ cause.notice ≠ .servicesBroken := by
  cases cause with
  | store | platform | invalidResponse => exact ⟨nofun, nofun⟩
  | api cause =>
    rw [notice, ApiError.notice]
    split
    case h_3 => exact ApiError.forbiddenNotice_ne_services _
    all_goals exact ⟨nofun, nofun⟩

namespace Update

/-! ### Replacement -/

/-- The entries now hold a machine token that the server answered with, as it came, next to the id
of the machine. All other entries are as they were. -/
structure TokenReplaced (env : Environment (Keyed Json)) (world after : World (Keyed Json))
    (body : Json) : Prop where
  answered : ∃ (request : Request) (headers : Headers),
    (request, .ok { body, headers }) ∈ World.exchanges env.server world after
  token : after.state.get? Store.tokenKey = some body
  machineId : ∃ id, (env.host.machineId world.state).1 = .ok id ∧
    after.state.get? Store.machineIdKey = some (.string id)
  others : ∀ key, key ≠ Store.tokenKey → key ≠ Store.machineIdKey →
    after.state.get? key = world.state.get? key

/-! ### How far an update went -/

/-- The update went as far as the services: all of them were brought in line, or some were not. -/
def ReachedServices (result : Except UpdateError Unit) : Prop :=
  result = .ok () ∨ result = .error (.failed .servicesFailed) ∨
    result = .error (.failed .servicesBroken)

instance (result : Except UpdateError Unit) : Decidable (ReachedServices result) :=
  inferInstanceAs (Decidable (_ ∨ _ ∨ _))

/-- However the outcomes are summed up, the services were reached. -/
theorem reachedServices_summary (outcomes : List Outcome) :
    ReachedServices ((Outcome.summary outcomes).mapError .failed) := by
  rw [Outcome.summary]
  split
  · exact .inr (.inr rfl)
  · split
    · exact .inr (.inl rfl)
    · exact .inl rfl

theorem not_reachedServices_misuse (cause : Misuse) :
    ¬ReachedServices (.error (.misuse cause)) := by
  rintro (h | h | h) <;> cases h

theorem not_reachedServices_ofClient (cause : ClientError) :
    ¬ReachedServices (.error (.ofClient cause)) := by
  have ⟨notFailed, notBroken⟩ := cause.notice_ne_services
  rintro (h | h | h)
  · cases h
  · exact notFailed (UpdateError.failed.inj (Except.error.inj h))
  · exact notBroken (UpdateError.failed.inj (Except.error.inj h))

/-! ### The two ways an update can go -/

section Ways

variable {env : Environment (Keyed Json)} {contractToken : Option String}
  {world after : World (Keyed Json)} {result : Except UpdateError Unit}

/-- The update ended before anything was written. -/
structure Kept (env : Environment (Keyed Json)) (world after : World (Keyed Json))
    (result : Except UpdateError Unit) : Prop where
  state_eq : after.state = world.state
  unreached : ¬ReachedServices result
  refused : ∀ request response,
    (request, .ok response) ∈ World.exchanges env.server world after →
      ∃ mismatch, MachineToken.decode response.body = .error mismatch
  /-- An answer that is no machine token is not what was stored before, either. -/
  fresh : ∀ request response,
    (request, .ok response) ∈ World.exchanges env.server world after →
      world.state.get? Store.tokenKey ≠ some response.body

/-- The update went on to the services with the token that it had stored. -/
structure Replaced (env : Environment (Keyed Json)) (world after : World (Keyed Json))
    (result : Except UpdateError Unit) : Prop where
  reached : ReachedServices result
  exchanged : ∃ (request : Request) (headers : Headers) (body : Json) (token : MachineToken),
    World.exchanges env.server world after = [(request, .ok { body, headers })] ∧
    MachineToken.decode body = .ok token ∧ TokenReplaced env world after body

/-- A stored token that could be read was decoded. -/
theorem decode_of_storedToken {entries : Keyed Json} {stored : Option MachineToken} {value : Json}
    (read : storedToken entries = .ok stored) (found : entries.get? Store.tokenKey = some value) :
    ∃ token, MachineToken.decode value = .ok token := by
  rw [storedToken, found] at read
  cases decoded : MachineToken.decode value with
  | ok token => exact ⟨token, rfl⟩
  | error mismatch =>
    dsimp only at read
    rw [decoded] at read
    cases read

/-- An update that asked nobody anything keeps the entries. -/
theorem kept_of_eq (unreached : ¬ReachedServices result) : Kept env world world result := by
  have nothing : World.exchanges env.server world world = [] :=
    (World.Offline.refl world).exchanges_eq_nil
  refine ⟨rfl, unreached, fun _ _ mem => ?_, fun _ _ mem => ?_⟩ <;>
  · rw [nothing] at mem
    cases mem

/-- Where the entries are kept the token is not one that the server has given just now. -/
theorem Kept.not_tokenReplaced (h : Kept env world after result) (body : Json) :
    ¬TokenReplaced env world after body := by
  rintro ⟨⟨request, headers, answered⟩, found, -, -⟩
  rw [h.state_eq] at found
  exact h.fresh request _ answered found

/-- What an exchange stores makes the token replaced. -/
theorem tokenReplaced_of_storing {request : Request} {headers : Headers} {body : Json}
    {machineId : String}
    (one : World.exchanges env.server world after = [(request, .ok { body, headers })])
    (asked : (env.host.machineId world.state).1 = .ok machineId)
    (state_eq : after.state = TokenExchange.storing world.state body machineId) :
    TokenReplaced env world after body := by
  have answered : (request, .ok { body, headers }) ∈ World.exchanges env.server world after := by
    rw [one]
    exact List.mem_singleton_self _
  refine ⟨⟨request, headers, answered⟩, ?_, ⟨machineId, asked, ?_⟩, fun key hkey hid => ?_⟩ <;>
    rw [state_eq, TokenExchange.get?_storing]
  · rw [if_neg (by decide), if_pos rfl]
  · rw [if_pos rfl]
  · rw [if_neg hid.symm, if_neg hkey.symm]

/-- There is no third way. -/
theorem Ran.kept_or_replaced (h : Ran env contractToken world result after) :
    Kept env world after result ∨ Replaced env world after result := by
  cases h with
  | unreadable => exact .inl (kept_of_eq (not_reachedServices_ofClient _))
  | misused => exact .inl (kept_of_eq (not_reachedServices_misuse _))
  | failed read chosen exchanged =>
    obtain ⟨state_eq, refused⟩ := exchanged.of_error
    -- An answer that was refused is not the token from before, for that one was read.
    refine .inl ⟨state_eq, not_reachedServices_ofClient _, refused,
      fun request response mem found => ?_⟩
    obtain ⟨mismatch, undecodable⟩ := refused request response mem
    obtain ⟨token, decoded⟩ := decode_of_storedToken read found
    rw [undecodable] at decoded
    cases decoded
  | @applied stored exchange body updated fetched served _ outcomes read chosen exchanged decoded
      services logged =>
    obtain ⟨events, rfl⟩ := logged
    obtain ⟨request, headers, machineId, exchanges, asked, state_eq⟩ := exchanged.of_ok
    obtain ⟨news, before, -⟩ := exchanged.journal_eq
    have offline : World.Offline fetched
        { served with journal := served.journal ++ events.map .logged } := by
      have brought := offline_applyEntitlements env (stored.filter MachineToken.isAttached) updated
        fetched
      rw [services] at brought
      exact brought.trans (.of_logged _ _)
    -- Nothing is sent after the exchange, so its request is still the only one.
    obtain ⟨quiet, journal, none_sent⟩ := offline.journal_eq
    have one := (World.exchanges_append_quiet env.server before journal none_sent).trans exchanges
    exact .inr ⟨reachedServices_summary _, request, headers, body, updated, one, decoded,
      tokenReplaced_of_storing one asked (offline.state_eq.trans state_eq)⟩

/-- An update goes as far as the services when the call fits the machine, the host knows itself, and
every request is answered by a machine token. -/
theorem Ran.reachedServices (h : Ran env contractToken world result after)
    {stored : Option MachineToken} {exchange : TokenExchange} {machineId : String}
    {platform : Platform} (read : storedToken world.state = .ok stored)
    (chosen : exchangeFor (stored.filter MachineToken.isAttached) contractToken = .ok exchange)
    (identified : (env.host.machineId world.state).1 = .ok machineId)
    (placed : env.host.platform world.state = .ok platform)
    (answers : ∀ past request, ∃ response token, (env.server past request).2 = .ok response ∧
      MachineToken.decode response.body = .ok token) : ReachedServices result := by
  -- Each of the ways to end earlier contradicts one of the assumptions.
  cases h with
  | unreadable unreadable => cases read.symm.trans unreadable
  | misused read' misused =>
    obtain rfl := Except.ok.inj (read.symm.trans read')
    cases chosen.symm.trans misused
  | failed _ _ exchanged =>
    cases exchanged with
    | unidentified asked => cases identified.symm.trans asked
    | unplaced _ unplaced => cases placed.symm.trans unplaced
    | @refused _ _ _ request _ _ _ answer =>
      obtain ⟨response, token, answered, -⟩ :=
        answers (TokenExchange.identified env world).journal request
      cases answered.symm.trans answer
    | @undecodable _ _ _ request _ _ _ _ answer undecodable =>
      obtain ⟨response, token, answered, decoded⟩ :=
        answers (TokenExchange.identified env world).journal request
      obtain rfl := Except.ok.inj (answered.symm.trans answer)
      cases decoded.symm.trans undecodable
  | applied => exact reachedServices_summary _

/-- The token is replaced exactly by an update that goes as far as the services. -/
theorem Ran.tokenReplaced_iff (h : Ran env contractToken world result after) :
    (∃ body, TokenReplaced env world after body) ↔ ReachedServices result := by
  rcases h.kept_or_replaced with kept | ⟨reached, _, _, body, _, _, _, replaced⟩
  · exact ⟨fun ⟨body, h⟩ => absurd h (kept.not_tokenReplaced body),
      fun h => absurd h kept.unreached⟩
  · exact ⟨fun _ => reached, fun _ => ⟨body, replaced⟩⟩

end Ways

/-- **All or nothing**: an update replaces the machine token as a whole or leaves every entry as it
was. It replaces the token exactly if the server answered the one request that was sent with a
machine token, and this is so exactly if the update went as far as the services. Before that it ends
in a misuse or in the failure of an exchange, and both leave the entries alone. -/
theorem replaces_token_or_keeps_entries {env : Environment (Keyed Json)} (h : env.InMemory)
    {contractToken : Option String} {world after : World (Keyed Json)}
    {result : Except UpdateError Unit}
    (ran : (run env contractToken).perform world = (result, after)) :
    (after.state = world.state ∨ ∃ body, TokenReplaced env world after body) ∧
    (∀ body, TokenReplaced env world after body ↔
      ∃ (request : Request) (headers : Headers) (token : MachineToken),
        World.exchanges env.server world after = [(request, .ok { body, headers })] ∧
        MachineToken.decode body = .ok token) ∧
    ((∃ body, TokenReplaced env world after body) ↔ ReachedServices result) ∧
    (∀ cause : Misuse, result = .error (.misuse cause) → after.state = world.state) ∧
    (∀ cause : ClientError, result = .error (.ofClient cause) → after.state = world.state) := by
  have course := Update.ran h contractToken world
  rw [ran] at course
  have reached := course.tokenReplaced_iff
  rcases course.kept_or_replaced with kept | ⟨served, request, headers, stored, token, one, decoded,
    replaced⟩
  · refine ⟨.inl kept.state_eq, fun body => ⟨fun h => absurd h (kept.not_tokenReplaced body), ?_⟩,
      reached, fun _ _ => kept.state_eq, fun _ _ => kept.state_eq⟩
    -- If there was an answer, it could not be decoded.
    rintro ⟨request, headers, token, one, decoded⟩
    obtain ⟨mismatch, undecodable⟩ := kept.refused request { body, headers }
      (one ▸ List.mem_singleton_self _)
    rw [undecodable] at decoded
    cases decoded
  · refine ⟨.inr ⟨stored, replaced⟩, fun body => ⟨fun h => ?_, ?_⟩, reached,
      fun cause same => absurd (same ▸ served) (not_reachedServices_misuse cause),
      fun cause same => absurd (same ▸ served) (not_reachedServices_ofClient cause)⟩
    · obtain ⟨request', headers', answered⟩ := h.answered
      rw [one] at answered
      obtain ⟨rfl, rfl, rfl⟩ : request' = request ∧ body = stored ∧ headers' = headers := by
        simpa using answered
      exact ⟨_, _, token, one, decoded⟩
    · rintro ⟨request', headers', token', one', -⟩
      rw [one] at one'
      obtain ⟨-, rfl, -⟩ : request = request' ∧ stored = body ∧ headers = headers' := by
        simpa using one'
      exact replaced

/-- A machine token of one record: a tier of the service `livepatch`, with members to put over the
record on some release series. -/
def livepatchToken (tier : String) (series : List (String × Json)) : Json :=
  let record := .object [("entitled", .bool true), ("series", .object series),
    ("tier", .string tier), ("type", .string "livepatch")]
  let contract := .object [("id", .string "contract"), ("resourceEntitlements", .array [record])]
  .object [("machineToken", .string "secret"),
    ("machineTokenInfo", .object [("contractInfo", contract)])]

/-- A machine token of a contract without services. -/
def bareToken (secret : String) : Json :=
  .object [("machineToken", .string secret),
    ("machineTokenInfo", .object [("contractInfo", .object [("id", .string "contract")])])]

/-- A machine on the series `noble`. -/
def noble : Platform where
  arch := "x86_64"
  kernel := "6.8.0"
  series := "noble"
  distribution := "Ubuntu"
  release := "24.04"

/-- A machine whose server first grants the stable tier, with another one on its own series, and
later the edge tier. The processor of its one service never gets anything done. -/
def busyLivepatch : Environment (Keyed Json) where
  store := .memory
  host := {
    platform := fun _ => .ok noble
    machineId := fun entries => (.ok "machine", entries, []) }
  server past _ := ([], .ok {
    body := if past.requests.isEmpty
      then livepatchToken "stable" [("noble", .object [("tier", .string "beta")])]
      else livepatchToken "edge" []
    headers := [] })
  processors := [("livepatch", fun _ _ => ([], .error (.forOperator "busy")))]

theorem inMemory_busyLivepatch : busyLivepatch.InMemory := ⟨rfl, fun _ => rfl⟩

/-- The service is not brought in line, and yet the token stays. -/
theorem replaces_token_or_keeps_entries_busyLivepatch :
    busyLivepatch.InMemory ∧
    ∃ after, (run busyLivepatch (some "token")).perform { state := [] } =
        (.error (.failed .servicesFailed), after) ∧
      ∃ body, TokenReplaced busyLivepatch { state := [] } after body := by
  have told : ((run busyLivepatch (some "token")).perform { state := [] }).1 =
      .error (.failed .servicesFailed) := by decide +kernel
  refine ⟨inMemory_busyLivepatch, _, Prod.ext told rfl, ?_⟩
  exact (replaces_token_or_keeps_entries inMemory_busyLivepatch (Prod.ext told rfl)).2.2.1.2
    (by decide)

end Update

end Subscription
