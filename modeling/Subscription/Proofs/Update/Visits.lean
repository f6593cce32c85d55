import Subscription.Proofs.Entitlement.Arrangement
import Subscription.Proofs.Update.Replacement
import Subscription.Proofs.Update.Services
import Subscription.Proofs.Update.Visit

/-!
# The visits of an update

An update that stored a token visits its records one by one, in the order of their types. Each is
compared with the first record of its type in the token that was stored before the request
(`LastKnown`), and the visits together are all that the processors hear of the update (`Visited`).
What is reported in the end is the worst that became of any record.
-/

namespace Subscription

/-! ### Outcomes taken together -/

namespace Outcome

/-- What is reported of several outcomes: something that broke comes first, then something that was
refused. -/
structure Reported (outcomes : List Outcome) (result : Except UpdateError Unit) : Prop where
  broken_iff : result = .error (.failed .servicesBroken) ↔
    ∃ outcome ∈ outcomes, outcome.isBroken = true
  refused_iff : result = .error (.failed .servicesFailed) ↔
    (∀ outcome ∈ outcomes, outcome.isBroken = false) ∧
      ∃ outcome ∈ outcomes, outcome.isRefused = true
  applied_iff : result = .ok () ↔ ∀ outcome ∈ outcomes, outcome = .applied

/-- What is neither broken nor refused was applied. -/
theorem eq_applied_iff (outcome : Outcome) :
    outcome = .applied ↔ outcome.isBroken = false ∧ outcome.isRefused = false := by
  cases outcome <;> simp [isBroken, isRefused]

theorem reported_summary (outcomes : List Outcome) :
    Reported outcomes ((summary outcomes).mapError .failed) := by
  have unbroken : (∀ outcome ∈ outcomes, outcome.isBroken = false) ↔
      outcomes.any isBroken = false := by simp
  have applied : (∀ outcome ∈ outcomes, outcome = .applied) ↔
      outcomes.any isBroken = false ∧ outcomes.any isRefused = false := by
    simp [eq_applied_iff, forall_and]
  rw [summary]
  constructor
  · rw [← List.any_eq_true]
    cases outcomes.any isBroken <;> cases outcomes.any isRefused <;> simp [Except.mapError]
  · rw [unbroken, ← List.any_eq_true]
    cases outcomes.any isBroken <;> cases outcomes.any isRefused <;> simp [Except.mapError]
  · rw [applied]
    cases outcomes.any isBroken <;> cases outcomes.any isRefused <;> simp [Except.mapError]

end Outcome

/-! ### Visits one after another -/

namespace Visit

/-- The visits follow one another from one journal to another. -/
def Follow (journal : Journal) : List Visit → Journal → Prop
  | [], final => final = journal
  | visit :: rest, final => visit.past = journal ∧ Follow (journal ++ visit.news) rest final

/-- All calls of processors are made in the visits. -/
theorem Follow.calls_eq {journal final : Journal} {visits : List Visit}
    (h : Follow journal visits final) :
    final.calls = journal.calls ++ visits.flatMap (·.news.calls) := by
  induction visits generalizing journal with
  | nil =>
    rw [show final = journal from h, List.flatMap_nil, List.append_nil]
  | cons visit rest ih =>
    rw [ih h.2, Journal.calls_append, List.append_assoc, List.flatMap_cons]

end Visit

/-! ### The record before -/

/-- The record of a service before an update, from the token that is compared with. -/
inductive LastKnown (previous : Option MachineToken) (record : Entitlement) : Access → Prop
  /-- The first record of the type counts. -/
  | first {token : MachineToken} {kind : String} {earlier later : List Entitlement}
      {known : Entitlement} (compared : previous = some token) (named : record.kind = some kind)
      (listed : token.entitlements = earlier ++ known :: later) (same : known.kind = some kind)
      (others : ∀ other ∈ earlier, other.kind ≠ some kind) :
      LastKnown previous record (.ofEntitlement known)
  | missing {token : MachineToken} {kind : String} (compared : previous = some token)
      (named : record.kind = some kind) (others : ∀ other ∈ token.entitlements,
        other.kind ≠ some kind) : LastKnown previous record {}
  | untyped (unnamed : record.kind = none) : LastKnown previous record {}
  | attached (fresh : previous = none) : LastKnown previous record {}

namespace Update

/-- The record known before is the first one of its type in the token before, or an empty one. -/
theorem lastKnown_previousAccess (previous : Option MachineToken) (record : Entitlement) :
    LastKnown previous record (previousAccess previous record) := by
  rw [previousAccess]
  cases named : record.kind with
  | none => exact .untyped named
  | some kind =>
    cases compared : previous with
    | none => exact .attached rfl
    | some token =>
      cases found : token.entitlement? kind with
      | none =>
        have others : ∀ other ∈ token.entitlements, other.kind ≠ some kind := by
          simpa [MachineToken.entitlement?] using found
        simpa [found] using LastKnown.missing rfl named others
      | some known =>
        obtain ⟨same, earlier, later, listed, others⟩ := List.find?_eq_some_iff_append.1 found
        simpa [found] using LastKnown.first rfl named listed (beq_iff_eq.1 same)
          fun other mem => by simpa using others other mem

/-! ### The visits of an update -/

section Visits

variable {σ : Type} (env : Environment σ) (previous : Option MachineToken)

/-- To apply one entitlement is to visit its record. -/
theorem visit_applyEntitlement {record : Entitlement} (h : record.WellFormed)
    (hprevious : (previousAccess previous record).WellFormed) (world : World σ) :
    ∃ visit : Visit, visit.record = record ∧ visit.old = previousAccess previous record ∧
      visit.past = world.journal ∧ visit.Attempted env world.state ∧
      StateT.run (applyEntitlement env previous record) world =
        (visit.outcome, { world with journal := world.journal ++ visit.news }) := by
  have reconciled := Access.reconciled env (previousAccess previous record) (.ofEntitlement record)
    {} world
  rw [run_applyEntitlement]
  cases performed : (Access.reconcile env (previousAccess previous record)
    (.ofEntitlement record) {}).perform world with | mk result after =>
  rw [performed] at reconciled
  obtain ⟨news, journal, -⟩ := reconciled.offline.journal_eq
  -- What is logged of the outcome stands behind what reconciling added, and belongs to the visit.
  let visit : Visit :=
    { record
      old := previousAccess previous record
      past := world.journal
      news := news ++ ((Outcome.ofResult result).events record.kind).map .logged
      outcome := .ofResult result }
  have added : world.journal ++ visit.news =
      after.journal ++ (visit.outcome.events visit.record.kind).map .logged := by
    rw [journal, List.append_assoc]
  have attempted : visit.Attempted env world.state := Visit.attempted_of_reconciled reconciled
    hprevious (Access.wellFormed_ofEntitlement h) rfl rfl added
  refine ⟨visit, rfl, rfl, rfl, attempted, ?_⟩
  rw [added, ← reconciled.offline.state_eq]

variable {env previous}

theorem run_mapM_cons_of_eq {record : Entitlement} {rest : List Entitlement}
    {world middle final : World σ} {outcome : Outcome} {outcomes : List Outcome}
    (first : StateT.run (applyEntitlement env previous record) world = (outcome, middle))
    (others : StateT.run (rest.mapM (applyEntitlement env previous)) middle = (outcomes, final)) :
    StateT.run ((record :: rest).mapM (applyEntitlement env previous)) world =
      (outcome :: outcomes, final) := by
  rw [List.mapM_cons, StateT.run_bind, first]
  change StateT.run (rest.mapM (applyEntitlement env previous) >>= _) middle = _
  rw [StateT.run_bind, others]
  rfl

/-- To apply several entitlements is to visit their records one after another. -/
theorem visits_mapM_applyEntitlement {records : List Entitlement}
    (h : ∀ record ∈ records, record.WellFormed ∧ (previousAccess previous record).WellFormed)
    (world : World σ) : ∃ (visits : List Visit) (final : Journal),
      visits.map Visit.record = records ∧
      (∀ visit ∈ visits, LastKnown previous visit.record visit.old ∧
        visit.Attempted env world.state) ∧
      Visit.Follow world.journal visits final ∧
      StateT.run (records.mapM (applyEntitlement env previous)) world =
        (visits.map Visit.outcome, { world with journal := final }) := by
  induction records generalizing world with
  | nil => exact ⟨[], world.journal, rfl, fun _ mem => absurd mem List.not_mem_nil, rfl, rfl⟩
  | cons record rest ih =>
    obtain ⟨⟨wellFormed, wellFormedOld⟩, hrest⟩ := List.forall_mem_cons.1 h
    obtain ⟨visit, rfl, old, past, attempted, first⟩ :=
      visit_applyEntitlement env previous wellFormed wellFormedOld world
    obtain ⟨visits, final, rfl, each, follow, others⟩ :=
      ih hrest { world with journal := world.journal ++ visit.news }
    refine ⟨visit :: visits, final, rfl, List.forall_mem_cons.2 ⟨⟨?_, attempted⟩, each⟩,
      ⟨past, follow⟩, run_mapM_cons_of_eq first others⟩
    rw [old]
    exact lastKnown_previousAccess previous visit.record

end Visits

/-- The visits of an update that stored the token `updated`: one for each of its records, in the
order of their types, and no call of a processor besides. -/
structure Visited (env : Environment (Keyed Json)) (previous : Option MachineToken)
    (updated : MachineToken) (world after : World (Keyed Json)) (result : Except UpdateError Unit)
    (visits : List Visit) : Prop where
  arranged : Entitlement.Arranged (visits.map Visit.record) updated.entitlements
  compared : ∀ visit ∈ visits, LastKnown previous visit.record visit.old
  attempted : ∀ visit ∈ visits, visit.Attempted env after.state
  follow : ∃ news final : Journal, news.calls = [] ∧
    Visit.Follow (world.journal ++ news) visits final ∧
    ∃ events : List LogEvent, after.journal = final ++ events.map .logged
  reported : Outcome.Reported (visits.map Visit.outcome) result

section Updates

variable {env : Environment (Keyed Json)} {contractToken : Option String}
  {world after : World (Keyed Json)} {result : Except UpdateError Unit}

/-- The calls of a round are those of its visits, in their order. -/
theorem Visited.calls_eq {previous : Option MachineToken} {updated : MachineToken}
    {visits : List Visit} (h : Visited env previous updated world after result visits) :
    after.journal.calls = world.journal.calls ++ visits.flatMap (·.news.calls) := by
  obtain ⟨news, final, quiet, follow, events, journal⟩ := h.follow
  rw [journal, Journal.calls_append, Journal.calls_logged, List.append_nil, follow.calls_eq,
    Journal.calls_append, quiet, List.append_nil]

/-- The token that is compared with is the one stored before, and none when a machine is
attached. -/
theorem filter_isAttached_of_exchangeFor {stored : Option MachineToken} {exchange : TokenExchange}
    (chosen : exchangeFor (stored.filter MachineToken.isAttached) contractToken = .ok exchange) :
    stored.filter MachineToken.isAttached = if contractToken.isSome then none else stored := by
  cases attached : stored.filter MachineToken.isAttached with
  | none =>
    rw [attached] at chosen
    cases contractToken with
    | none => cases chosen
    | some contractToken => rfl
  | some current =>
    rw [attached] at chosen
    cases contractToken with
    | none => exact (Option.filter_eq_some_iff.1 attached).1.symm
    | some contractToken => cases chosen

/-- An update that goes as far as the services visits the records of the token that it stored. -/
theorem Ran.visited (h : Ran env contractToken world result after)
    (reached : ReachedServices result)
    (answers : ∀ past request response, (env.server past request).2 = .ok response →
      response.body.Sorted)
    (kept : contractToken = none → ∀ token, storedToken world.state = .ok (some token) →
      ∀ record ∈ token.entitlements, record.WellFormed) :
    ∃ stored updated visits, storedToken world.state = .ok stored ∧
      storedToken after.state = .ok (some updated) ∧
      Visited env (if contractToken.isSome then none else stored) updated world after result
        visits := by
  cases h with
  | unreadable => exact absurd reached (not_reachedServices_ofClient _)
  | misused => exact absurd reached (not_reachedServices_misuse _)
  | failed => exact absurd reached (not_reachedServices_ofClient _)
  | @applied stored exchange body updated fetched served _ outcomes read chosen exchanged decoded
      services logged =>
    obtain ⟨events, rfl⟩ := logged
    rw [filter_isAttached_of_exchangeFor chosen] at services
    -- The new records come from the answer, the old ones from the store or from nowhere.
    have wellFormed : ∀ record ∈ updated.sortedEntitlements, record.WellFormed ∧
        (previousAccess (if contractToken.isSome then none else stored) record).WellFormed := by
      intro record mem
      refine ⟨MachineToken.wellFormed_of_decode (exchanged.sorted answers) decoded record
        ((List.mergeSort_perm _ _).mem_iff.1 mem), wellFormed_previousAccess ?_ record⟩
      intro token compared
      cases contractToken with
      | none => exact kept rfl token (read.trans (congrArg Except.ok compared))
      | some _ => cases compared
    obtain ⟨visits, final, records, each, follow, run⟩ :=
      visits_mapM_applyEntitlement wellFormed fetched
    obtain ⟨rfl, rfl⟩ := Prod.mk.inj (services.symm.trans run)
    obtain ⟨news, journal, quiet⟩ := exchanged.journal_eq
    rw [journal] at follow
    refine ⟨stored, updated, visits, read, ?_, ?_, fun visit mem => (each visit mem).1,
      fun visit mem => (each visit mem).2, ⟨news, final, quiet, follow, events, rfl⟩,
      Outcome.reported_summary _⟩
    · exact storedToken_eq_ok_some_iff.2 ⟨body, exchanged.get?_tokenKey, decoded⟩
    · rw [records]
      exact MachineToken.arranged_sortedEntitlements updated

end Updates

/-- **Every record is visited once, and no failure hides another.** An update that stored a token
visits its records in ascending order of their types, each compared with the first record of its
type in the token stored before the request, or with nothing when the machine is attached. What
becomes of a record depends on that comparison and its processor alone, all that went wrong is
logged, and the worst of it is reported. -/
theorem every_record_is_visited_once {env : Environment (Keyed Json)} (h : env.InMemory)
    (answers : ∀ past request response, (env.server past request).2 = .ok response →
      response.body.Sorted)
    {contractToken : Option String} {world after : World (Keyed Json)}
    {result : Except UpdateError Unit}
    (kept : ∀ value, world.state.get? Store.tokenKey = some value → value.Sorted)
    (ran : (run env contractToken).perform world = (result, after))
    (stores : ∃ body, TokenReplaced env world after body) :
    ∃ (stored : Option MachineToken) (updated : MachineToken) (visits : List Visit),
      storedToken world.state = .ok stored ∧ storedToken after.state = .ok (some updated) ∧
      visits.length = updated.entitlements.length ∧
      Visited env (if contractToken.isSome then none else stored) updated world after result
        visits := by
  have course := Update.ran h contractToken world
  rw [ran] at course
  have wellFormed (token : MachineToken) (read : storedToken world.state = .ok (some token)) :
      ∀ record ∈ token.entitlements, record.WellFormed := by
    obtain ⟨value, found, decoded⟩ := storedToken_eq_ok_some_iff.1 read
    exact MachineToken.wellFormed_of_decode (kept value found) decoded
  obtain ⟨stored, updated, visits, before, now, visited⟩ :=
    course.visited (course.tokenReplaced_iff.1 stores) answers fun _ => wellFormed
  refine ⟨stored, updated, visits, before, now, ?_, visited⟩
  rw [← visited.arranged.perm.length_eq, List.length_map]

/-- A machine token with two records of the service `livepatch` among others: one of a service that
no machine has, and one without a type. -/
def crowdedToken : Json :=
  let livepatch (tier : String) : Json :=
    .object [("tier", .string tier), ("type", .string "livepatch")]
  let records := [livepatch "stable", .object [("type", .string "esm")],
    .object [("tier", .string "lost")], livepatch "edge"]
  let contract := .object [("id", .string "contract"), ("resourceEntitlements", .array records)]
  .object [("machineToken", .string "secret"),
    ("machineTokenInfo", .object [("contractInfo", contract)])]

/-- A busy machine whose server only ever hands out the crowded token. -/
def crowded : Environment (Keyed Json) :=
  { busyLivepatch with server := fun _ _ => ([], .ok { body := crowdedToken, headers := [] }) }

/-- A machine that was attached with an edge tier is refreshed: four records are visited, two of
them against the one record from before. -/
theorem every_record_is_visited_once_crowded :
    let world : World (Keyed Json) := { state := [(Store.tokenKey, livepatchToken "edge" [])] }
    let after := ((run crowded none).perform world).2
    let result := ((run crowded none).perform world).1
    crowded.InMemory ∧
    (∀ past request response, (crowded.server past request).2 = .ok response →
      response.body.Sorted) ∧
    (∀ value, world.state.get? Store.tokenKey = some value → value.Sorted) ∧
    (∃ body, TokenReplaced crowded world after body) ∧
    ∃ (stored : Option MachineToken) (updated : MachineToken) (visits : List Visit),
      storedToken world.state = .ok stored ∧ storedToken after.state = .ok (some updated) ∧
      visits.length = updated.entitlements.length ∧
      Visited crowded stored updated world after result visits := by
  intro world after result
  have ran : (run crowded none).perform world = (result, after) := rfl
  have memory : crowded.InMemory := ⟨rfl, fun _ => rfl⟩
  have answers : ∀ past request response, (crowded.server past request).2 = .ok response →
      response.body.Sorted := by
    rintro past request response ⟨⟩
    decide
  have kept : ∀ value, world.state.get? Store.tokenKey = some value → value.Sorted := by
    rintro value ⟨⟩
    decide
  have course := Update.ran memory none world
  have reached := course.reachedServices rfl rfl rfl rfl fun _ _ => ⟨_, _, rfl, rfl⟩
  have stores := course.tokenReplaced_iff.2 reached
  exact ⟨memory, answers, kept, stores,
    every_record_is_visited_once memory answers kept ran stores⟩

end Update

end Subscription
