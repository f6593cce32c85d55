import Subscription.Proofs.Update.Progress
import Subscription.Proofs.Update.Visits

/-!
# Services in sync

A processor may refuse the changes that it is handed. The new token is stored before any processor
is called, and the next update compares with it, so changes that were refused are not handed over
again. An update that succeeds vouches for the changes of its own calls only
(`Ran.accepted_of_succeeded`). So a service is in sync after it if its processor refused nothing
since the service was last in sync, and may be out of sync if something was refused.
-/

namespace Subscription

/-! ### Changes that were accepted -/

/-- Any number of changes do the same to equal objects. -/
theorem Changes.equal_foldl_patch {a b : Keyed Json}
    (h : (Json.object a).equal (.object b) = true) (handed : List Changes) :
    (Json.object (handed.foldl patch a)).equal (.object (handed.foldl patch b)) = true := by
  induction handed generalizing a b with
  | nil => exact h
  | cons changes rest ih => exact ih (equal_patch h changes)

namespace Journal

/-- The changes that the processor registered for `kind` accepted, in order. -/
def accepted (kind : String) (journal : Journal) : List Changes :=
  journal.calls.filterMap fun (called, call, outcome) =>
    if called = kind ∧ outcome.isOk then some call.delta.changes else none

variable {kind : String} {journal : Journal}

/-- Nothing is accepted that was not handed over. -/
theorem accepted_eq_nil (h : journal.handed kind = []) : journal.accepted kind = [] := by
  rw [handed, List.filterMap_eq_nil_iff] at h
  rw [accepted, List.filterMap_eq_nil_iff]
  rintro ⟨called, call, outcome⟩ mem
  have other : called ≠ kind := by simpa using h _ mem
  exact if_neg fun both => other both.1

/-- As long as the processor goes along with all calls, what is accepted is what is handed over. -/
theorem handed_accepted_of_calls_eq {later : Journal}
    {news : List (String × ProcessorCall × Except ProcessFailure Unit)}
    (calls_eq : later.calls = journal.calls ++ news)
    (h : ∀ made ∈ news, made.1 = kind → made.2.2 = .ok ()) :
    ∃ changes, later.handed kind = journal.handed kind ++ changes ∧
      later.accepted kind = journal.accepted kind ++ changes := by
  refine ⟨news.filterMap fun (called, call, _) =>
    if called = kind then some call.delta.changes else none, ?_, ?_⟩
  · rw [handed, calls_eq, List.filterMap_append, handed]
  · rw [accepted, calls_eq, List.filterMap_append, accepted]
    congr 1
    refine List.filterMap_congr ?_
    rintro ⟨called, call, outcome⟩ mem
    by_cases same : called = kind
    · obtain rfl : outcome = .ok () := h _ mem same
      simp [same, Except.isOk, Except.toBool]
    · simp [same]

end Journal

/-! ### What success vouches for -/

/-- A visit without anything to report is one without a failed call. -/
theorem Visit.Attempted.accepted_of_applied {σ : Type} {env : Environment σ} {state : σ}
    {visit : Visit} (h : visit.Attempted env state) (applied : visit.outcome = .applied) :
    ∀ made ∈ visit.news.calls, made.2.2 = .ok () := by
  rintro ⟨kind, call, outcome⟩ mem
  cases outcome with
  | ok => rfl
  | error failure =>
    cases failure with
    | forOperator message =>
      have refused := h.refused_iff.2 (.inr ⟨kind, call, message, mem⟩)
      rw [applied] at refused
      cases refused
    | unexpected doing causes =>
      have broken := h.broken_iff.2 (.inr (.inr ⟨kind, call, doing, causes, mem⟩))
      rw [applied] at broken
      cases broken

namespace Update

section Updates

variable {env : Environment (Keyed Json)} {contractToken : Option String}
  {world after : World (Keyed Json)} {result : Except UpdateError Unit}

/-- What happened before an update stays in the journal. -/
theorem Ran.journal_isPrefix (h : Ran env contractToken world result after) :
    world.journal <+: after.journal := by
  cases h with
  | unreadable | misused => exact List.prefix_rfl
  | failed _ _ exchanged =>
    obtain ⟨news, journal, -⟩ := exchanged.journal_eq
    exact ⟨news, journal.symm⟩
  | @applied stored _ _ updated fetched _ _ _ _ _ exchanged _ services logged =>
    obtain ⟨events, rfl⟩ := logged
    obtain ⟨news, journal, -⟩ := exchanged.journal_eq
    obtain ⟨brought, journal', -⟩ := (offline_applyEntitlements env
      (stored.filter MachineToken.isAttached) updated fetched).journal_eq
    rw [services, journal, List.append_assoc] at journal'
    refine ⟨news ++ brought ++ events.map .logged, ?_⟩
    rw [← List.append_assoc, ← journal']

/-- No call of an update that succeeds was refused. -/
theorem Ran.accepted_of_succeeded (h : Ran env contractToken world (.ok ()) after)
    (answers : ∀ past request response, (env.server past request).2 = .ok response →
      response.body.Sorted)
    (kept : contractToken = none → ∀ token, storedToken world.state = .ok (some token) →
      ∀ record ∈ token.entitlements, record.WellFormed) :
    ∃ news, after.journal.calls = world.journal.calls ++ news ∧
      ∀ made ∈ news, made.2.2 = .ok () := by
  obtain ⟨_, _, visits, -, -, visited⟩ := h.visited (.inl rfl) answers kept
  refine ⟨_, visited.calls_eq, fun made mem => ?_⟩
  obtain ⟨visit, visit_mem, mem⟩ := List.mem_flatMap.1 mem
  have applied := visited.reported.applied_iff.1 rfl visit.outcome (List.mem_map_of_mem visit_mem)
  exact (visited.attempted visit visit_mem).accepted_of_applied applied made mem

end Updates

/-! ### Calls in a row -/

section Calls

variable {env : Environment (Keyed Json)} {contractToken : String} {platform : Platform}
  {kind : String} {world : World (Keyed Json)}

/-- The contract token of each call: the first attaches the machine, the others refresh it. -/
def contractTokenOf (contractToken : String) : Nat → Option String
  | 0 => some contractToken
  | _ + 1 => none

/-- The world before each call. -/
def worldBefore (env : Environment (Keyed Json)) (contractToken : String)
    (world : World (Keyed Json)) : Nat → World (Keyed Json)
  | 0 => world
  | count + 1 =>
    ((run env (contractTokenOf contractToken count)).perform
      (worldBefore env contractToken world count)).2

theorem worldBefore_succ (count : Nat) : worldBefore env contractToken world (count + 1) =
    refreshed env (worldBefore env contractToken world 1) count := by
  induction count with
  | zero => rfl
  | succ count ih => rw [refreshed, ← ih, worldBefore, contractTokenOf]

theorem journal_isPrefix_worldBefore (memory : env.InMemory) {earlier later : Nat}
    (le : earlier ≤ later) :
    (worldBefore env contractToken world earlier).journal <+:
      (worldBefore env contractToken world later).journal := by
  induction le with
  | refl => exact List.prefix_rfl
  | step _ ih => exact ih.trans (Update.ran memory _ _).journal_isPrefix

/-- The changes that the processor of the type accepted lead to the record of the stored token, in
what counts on machines of the series. -/
def InSync (kind series : String) (world : World (Keyed Json)) : Prop :=
  ∃ token record, storedToken world.state = .ok (some token) ∧
    token.entitlement? kind = some record ∧
    (Json.object ((world.journal.accepted kind).foldl Changes.patch [])).equal
      (.object (record.forSeries series).members) = true

/-- What the processor accepted comes to the same as all that it was handed. -/
def NothingMissed (kind : String) (world : World (Keyed Json)) : Prop :=
  (Json.object ((world.journal.accepted kind).foldl Changes.patch [])).equal
    (.object (world.journal.patched kind)) = true

theorem nothingMissed_of_fresh (fresh : world.journal.handed kind = []) :
    NothingMissed kind world := by
  rw [NothingMissed, Journal.patched, Journal.accepted_eq_nil fresh, fresh]
  exact Json.equal_refl _

/-- A processor that goes along with all calls misses nothing more. -/
theorem NothingMissed.of_calls_eq (h : NothingMissed kind world) {after : World (Keyed Json)}
    {news : List (String × ProcessorCall × Except ProcessFailure Unit)}
    (calls_eq : after.journal.calls = world.journal.calls ++ news)
    (accepted : ∀ made ∈ news, made.1 = kind → made.2.2 = .ok ()) : NothingMissed kind after := by
  obtain ⟨changes, handed, taken⟩ := Journal.handed_accepted_of_calls_eq calls_eq accepted
  rw [NothingMissed, Journal.patched, handed, taken, List.foldl_append, List.foldl_append]
  exact Changes.equal_foldl_patch h changes

/-- An update that succeeds misses nothing more. -/
theorem NothingMissed.of_succeeded (h : NothingMissed kind world) (memory : env.InMemory)
    (answers : ∀ past request response, (env.server past request).2 = .ok response →
      response.body.Sorted)
    {contractToken : Option String}
    (kept : contractToken = none → ∀ token, storedToken world.state = .ok (some token) →
      ∀ record ∈ token.entitlements, record.WellFormed)
    (succeeded : ((run env contractToken).perform world).1 = .ok ()) :
    NothingMissed kind ((run env contractToken).perform world).2 := by
  have course := Update.ran memory contractToken world
  rw [succeeded] at course
  obtain ⟨news, calls_eq, agreed⟩ := course.accepted_of_succeeded answers kept
  exact h.of_calls_eq calls_eq fun made mem _ => agreed made mem

/-- Where all that was handed over leads to the stored record, a service is in sync exactly if its
processor missed nothing. -/
theorem UpToDate.inSync_iff {series : String} {token : MachineToken}
    (h : UpToDate kind series world token) :
    InSync kind series world ↔ NothingMissed kind world := by
  have stored := h.storedToken_eq
  obtain ⟨record, entitlement, handed⟩ := h.current
  constructor
  · rintro ⟨token', record', stored', entitlement', accepted⟩
    obtain rfl := Option.some.inj (Except.ok.inj (stored.symm.trans stored'))
    obtain rfl := Option.some.inj (entitlement.symm.trans entitlement')
    rw [Json.equal_comm] at handed
    exact Json.equal_trans accepted handed
  · exact fun missed => ⟨token, record, stored, entitlement, Json.equal_trans missed handed⟩

/-- After the attachment and any number of refreshes, all that was handed over leads to the stored
record. -/
theorem upToDate_worldBefore (steady : Steady env platform kind)
    (fresh : world.journal.handed kind = [])
    (stores : ∃ body, TokenReplaced env world (worldBefore env contractToken world 1) body)
    (count : Nat)
    (carries : ∀ earlier ≤ count, ∀ token,
      storedToken (worldBefore env contractToken world (earlier + 1)).state = .ok (some token) →
        token.CarriesOnce kind platform.series) :
    ∃ token,
      UpToDate kind platform.series (worldBefore env contractToken world (count + 1)) token := by
  have ran : (run env (some contractToken)).perform world =
      (_, worldBefore env contractToken world 1) := rfl
  have begun := upToDate_of_attached steady ran stores fresh (carries 0 (Nat.zero_le _))
  rw [worldBefore_succ]
  exact UpToDate.refreshed steady begun count fun earlier le token stored =>
    carries earlier le token (by rwa [worldBefore_succ])

/-- The records of the token that a refresh starts from are well-formed. -/
theorem UpToDate.wellFormed {series : String} {token : MachineToken}
    (h : UpToDate kind series world token) {stored : MachineToken}
    (read : storedToken world.state = .ok (some stored)) :
    ∀ record ∈ stored.entitlements, record.WellFormed := by
  obtain rfl := Option.some.inj (Except.ok.inj (read.symm.trans h.storedToken_eq))
  obtain ⟨_, _, sorted, decoded⟩ := h.stored
  exact MachineToken.wellFormed_of_decode sorted decoded

end Calls

/-- **A success vouches for what was not refused**: after a call of a run that succeeds, the changes
that the processor of a type accepted lead to the record of the stored token, in what counts on the
machine, if it went along with all calls since the service was last in sync or the run began. Every
stored token has to have one record of the type, and no override on the series that changes a
type; the answers of the server are left open, and so is what the other processors do. -/
theorem accepted_changes_lead_to_stored_record {env : Environment (Keyed Json)}
    {platform : Platform} {kind : String} (steady : Steady env platform kind)
    {world : World (Keyed Json)} {contractToken : String}
    (fresh : world.journal.handed kind = [])
    (stores : ∃ body, TokenReplaced env world (worldBefore env contractToken world 1) body)
    (count : Nat)
    (carries : ∀ earlier ≤ count, ∀ token,
      storedToken (worldBefore env contractToken world (earlier + 1)).state = .ok (some token) →
        token.CarriesOnce kind platform.series)
    {since : Nat} (le : since ≤ count)
    (synced : since = 0 ∨ InSync kind platform.series (worldBefore env contractToken world since))
    (accepted : ∀ made ∈ (worldBefore env contractToken world count).journal.calls.drop
      (worldBefore env contractToken world since).journal.calls.length,
        made.1 = kind → made.2.2 = .ok ())
    (succeeded : ((run env (contractTokenOf contractToken count)).perform
      (worldBefore env contractToken world count)).1 = .ok ()) :
    InSync kind platform.series (worldBefore env contractToken world (count + 1)) := by
  have upToDate (earlier : Nat) (le : earlier ≤ count) :=
    upToDate_worldBefore steady fresh stores earlier fun first le' =>
      carries first (Nat.le_trans le' le)
  have missed : NothingMissed kind (worldBefore env contractToken world since) := by
    cases since with
    | zero => exact nothingMissed_of_fresh fresh
    | succ earlier =>
      obtain ⟨token, current⟩ := upToDate earlier (Nat.le_of_succ_le le)
      exact current.inSync_iff.1 (synced.resolve_left (Nat.succ_ne_zero earlier))
  -- What is between then and the last call was accepted by assumption.
  have between : NothingMissed kind (worldBefore env contractToken world count) := by
    obtain ⟨news, journal⟩ := journal_isPrefix_worldBefore steady.memory le
    have calls_eq := congrArg Journal.calls journal.symm
    rw [Journal.calls_append] at calls_eq
    rw [calls_eq, List.drop_left] at accepted
    exact missed.of_calls_eq calls_eq accepted
  have kept : contractTokenOf contractToken count = none → ∀ token,
      storedToken (worldBefore env contractToken world count).state = .ok (some token) →
        ∀ record ∈ token.entitlements, record.WellFormed := by
    intro refresh token read
    cases count with
    | zero => cases refresh
    | succ earlier =>
      obtain ⟨_, current⟩ := upToDate earlier (Nat.le_succ earlier)
      exact current.wellFormed read
  obtain ⟨token, current⟩ := upToDate count (Nat.le_refl count)
  -- What the last call handed over was accepted because the call succeeded.
  exact current.inSync_iff.2 (between.of_succeeded steady.memory steady.sorted kept succeeded)

/-- The busy machine with a processor that gets everything done. -/
def willingLivepatch : Environment (Keyed Json) :=
  { busyLivepatch with processors := [("livepatch", fun _ _ => ([], .ok ()))] }

/-- The stable tier of the attachment was accepted, and so is the edge tier of the refresh. -/
theorem accepted_changes_lead_to_stored_record_willingLivepatch :
    let before := worldBefore willingLivepatch "token" { state := [] }
    Steady willingLivepatch noble "livepatch" ∧
    (∃ body, TokenReplaced willingLivepatch { state := [] } (before 1) body) ∧
    (∀ earlier ≤ 1, ∀ token, storedToken (before (earlier + 1)).state = .ok (some token) →
      token.CarriesOnce "livepatch" "noble") ∧
    (∀ made ∈ (before 1).journal.calls.drop (before 0).journal.calls.length,
      made.1 = "livepatch" → made.2.2 = .ok ()) ∧
    ((run willingLivepatch none).perform (before 1)).1 = .ok () ∧
    InSync "livepatch" "noble" (before 2) := by
  intro before
  have steady : Steady willingLivepatch noble "livepatch" :=
    ⟨⟨rfl, fun _ => rfl⟩, fun _ => rfl, steady_busyLivepatch.sorted, rfl⟩
  have course := Update.ran steady.memory (some "token") { state := [] }
  have stores := course.tokenReplaced_iff.2 (by decide +kernel)
  have tokens : ∀ earlier ≤ 1,
      ∀ token ∈ (storedToken (before (earlier + 1)).state).toOption.join,
        token.CarriesOnce "livepatch" "noble" := by decide +kernel
  have carries : ∀ earlier ≤ 1, ∀ token,
      storedToken (before (earlier + 1)).state = .ok (some token) →
        token.CarriesOnce "livepatch" "noble" := fun earlier le token stored =>
    tokens earlier le token (mem_storedToken stored)
  have accepted : ∀ made ∈ (before 1).journal.calls.drop (before 0).journal.calls.length,
      made.1 = "livepatch" → made.2.2 = .ok () := by decide +kernel
  have succeeded : ((run willingLivepatch none).perform (before 1)).1 = .ok () := by
    decide +kernel
  exact ⟨steady, stores, carries, accepted, succeeded,
    accepted_changes_lead_to_stored_record steady rfl stores 1 carries (Nat.zero_le 1) (.inl rfl)
      accepted succeeded⟩

/-- The busy machine with a server that only ever grants the stable tier. -/
def unmovedLivepatch : Environment (Keyed Json) :=
  { busyLivepatch with
    server := fun _ _ => ([], .ok { body := livepatchToken "stable" [], headers := [] }) }

/-- The processor refuses the stable tier when the machine is attached. A refresh brings the same
token, so there is nothing to hand over, and it succeeds although nothing was ever accepted. -/
theorem succeeds_out_of_sync :
    let before := worldBefore unmovedLivepatch "token" { state := [] }
    Steady unmovedLivepatch noble "livepatch" ∧
    (∃ body, TokenReplaced unmovedLivepatch { state := [] } (before 1) body) ∧
    (∀ earlier ≤ 1, ∀ token, storedToken (before (earlier + 1)).state = .ok (some token) →
      token.CarriesOnce "livepatch" "noble" ∧
        token.entitlements.map Entitlement.kind = [some "livepatch"]) ∧
    ((run unmovedLivepatch none).perform (before 1)).1 = .ok () ∧
    ¬InSync "livepatch" "noble" (before 2) := by
  intro before
  have steady : Steady unmovedLivepatch noble "livepatch" := by
    refine ⟨⟨rfl, fun _ => rfl⟩, fun _ => rfl, ?_, rfl⟩
    rintro past request response ⟨⟩
    decide
  have course := Update.ran steady.memory (some "token") { state := [] }
  have stores := course.tokenReplaced_iff.2 (by decide +kernel)
  have tokens : ∀ earlier ≤ 1,
      ∀ token ∈ (storedToken (before (earlier + 1)).state).toOption.join,
        token.CarriesOnce "livepatch" "noble" ∧
          token.entitlements.map Entitlement.kind = [some "livepatch"] := by decide +kernel
  have apart : ∀ token ∈ (storedToken (before 2).state).toOption.join,
      ∀ record ∈ token.entitlement? "livepatch",
        (Json.object (((before 2).journal.accepted "livepatch").foldl Changes.patch [])).equal
          (.object (record.forSeries "noble").members) = false := by decide +kernel
  refine ⟨steady, stores, fun earlier le token stored =>
    tokens earlier le token (mem_storedToken stored), by decide +kernel, ?_⟩
  rintro ⟨token, record, stored, entitlement, equal⟩
  rw [apart token (mem_storedToken stored) record entitlement] at equal
  cases equal

end Update

end Subscription
