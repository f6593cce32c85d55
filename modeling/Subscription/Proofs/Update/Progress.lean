import Subscription.Proofs.Entitlement.ChangeEquality
import Subscription.Proofs.Update.Replacement
import Subscription.Proofs.Update.Services

/-!
# Processors keep up with the token

The changes that an update hands to a processor are those from the record of the token before to the
record of the new one. So all changes handed over so far, made one after another from nothing, lead
to the record of the token that is stored now (`UpToDate`): an attachment brings this about, and no
refresh breaks it, however the server answers and whatever becomes of the changes.
-/

namespace Subscription

namespace Update

/-! ### Keeping up -/

/-- The entries are kept in memory, the platform is always known and the same, and there is a
processor for the type. -/
structure Steady (env : Environment (Keyed Json)) (platform : Platform) (kind : String) : Prop where
  memory : env.InMemory
  placed : ∀ entries, env.host.platform entries = .ok platform
  /-- The keys of an answer ascend, as those of every value read from text do. -/
  sorted : ∀ past request response, (env.server past request).2 = .ok response →
    response.body.Sorted
  registered : (env.processors.get? kind).isSome

/-- The changes handed to the processor of the type lead to the record of the stored token, in what
counts on machines of the series. -/
structure UpToDate (kind series : String) (world : World (Keyed Json)) (token : MachineToken) :
    Prop where
  stored : ∃ body, world.state.get? Store.tokenKey = some body ∧ body.Sorted ∧
    MachineToken.decode body = .ok token
  current : ∃ record, token.entitlement? kind = some record ∧
    (Json.object (world.journal.patched kind)).equal
      (.object ((Access.ofEntitlement record).comparisonView (some series))) = true

section Updates

variable {env : Environment (Keyed Json)} {platform : Platform} {kind : String}
  {world after : World (Keyed Json)} {contractToken : Option String}
  {result : Except UpdateError Unit} {token : MachineToken}

theorem UpToDate.storedToken_eq {series : String} (h : UpToDate kind series world token) :
    storedToken world.state = .ok (some token) := by
  obtain ⟨body, found, -, decoded⟩ := h.stored
  exact storedToken_eq_ok_some_iff.2 ⟨body, found, decoded⟩

theorem UpToDate.of_eq (h : UpToDate kind platform.series world token)
    (state_eq : after.state = world.state)
    (calls_eq : after.journal.calls = world.journal.calls) :
    UpToDate kind platform.series after token := by
  obtain ⟨stored, current⟩ := h
  refine ⟨by rwa [state_eq], ?_⟩
  rwa [Journal.patched_of_calls_eq calls_eq]

/-- The changes of a record lead from what is equal to the record before to the new one. -/
theorem equal_patch_changesFrom {previous : Option MachineToken} {record : Entitlement}
    {series : String} (hprevious : (previousAccess previous record).WellFormed)
    (h : record.WellFormed) {members : Keyed Json}
    (before : (Json.object members).equal
      (.object ((previousAccess previous record).comparisonView (some series))) = true) :
    (Json.object (Changes.patch members (changesFrom previous record series))).equal
      (.object ((Access.ofEntitlement record).comparisonView (some series))) = true := by
  have made := Changes.normal_patch_between
    (Access.sorted_comparisonView hprevious.ordered (some series))
    (Access.sorted_comparisonView (Access.wellFormed_ofEntitlement h).ordered (some series))
  exact Json.equal_trans (Changes.equal_patch before _) ((Json.equal_iff _ _).2 made)

/-- An update that goes as far as the services brings their processors up to date with the token
that it stored, if the changes so far lead to the token that it was compared with. -/
theorem Ran.upToDate (h : Ran env contractToken world result after)
    (reached : ReachedServices result) (steady : Steady env platform kind)
    (carries : ∀ token, storedToken after.state = .ok (some token) →
      token.CarriesOnce kind platform.series)
    (previous : Option MachineToken)
    (compared : ∀ stored exchange, storedToken world.state = .ok stored →
      exchangeFor (stored.filter MachineToken.isAttached) contractToken = .ok exchange →
      stored.filter MachineToken.isAttached = previous)
    (wellFormed : ∀ token, previous = some token →
      ∀ record ∈ token.entitlements, record.WellFormed)
    (before : ∀ record, record.kind = some kind → (Json.object (world.journal.patched kind)).equal
      (.object ((previousAccess previous record).comparisonView (some platform.series))) = true) :
    ∃ token, UpToDate kind platform.series after token := by
  cases h with
  | unreadable => exact absurd reached (not_reachedServices_ofClient _)
  | misused => exact absurd reached (not_reachedServices_misuse _)
  | failed => exact absurd reached (not_reachedServices_ofClient _)
  | @applied stored exchange body updated fetched served _ outcomes read chosen exchanged decoded
      services logged =>
    obtain ⟨events, rfl⟩ := logged
    rw [compared stored exchange read chosen] at services
    obtain rfl : (StateT.run (applyEntitlements env previous updated) fetched).2 = served := by
      rw [services]
    -- The token is in place before the first processor is called, and stays there.
    have found : Keyed.get? (StateT.run (applyEntitlements env previous updated) fetched).2.state
        Store.tokenKey = some body := by
      rw [(offline_applyEntitlements env previous updated fetched).state_eq,
        exchanged.get?_tokenKey]
    have sorted : body.Sorted := exchanged.sorted steady.sorted
    have wellFormedNew := MachineToken.wellFormed_of_decode sorted decoded
    obtain ⟨record, entitlement, patched⟩ := patched_applyEntitlements wellFormedNew
      (carries updated (storedToken_eq_ok_some_iff.2 ⟨body, found, decoded⟩)) steady.placed
      steady.registered previous fetched
    have named : record.kind = some kind := by
      simpa using List.find?_some entitlement
    refine ⟨updated, ⟨body, found, sorted, decoded⟩, record, entitlement, ?_⟩
    rw [Journal.patched_append_logged, patched, Journal.patched_of_calls_eq exchanged.calls_eq]
    exact equal_patch_changesFrom (wellFormed_previousAccess wellFormed record)
      (wellFormedNew record (List.mem_of_find?_eq_some entitlement)) (before record named)

/-- An update that does not go as far as the services leaves all as it was. -/
theorem Ran.eq_of_not_reached (h : Ran env contractToken world result after)
    (unreached : ¬ReachedServices result) :
    after.state = world.state ∧ after.journal.calls = world.journal.calls := by
  cases h with
  | unreadable | misused => exact ⟨rfl, rfl⟩
  | failed _ _ exchanged => exact ⟨exchanged.of_error.1, exchanged.calls_eq⟩
  | applied => exact absurd (reachedServices_summary _) unreached

/-- An attachment that stored a token, on a machine whose processor was handed nothing before. -/
theorem upToDate_of_attached (steady : Steady env platform kind) {contractToken : String}
    (ran : (run env (some contractToken)).perform world = (result, after))
    (stores : ∃ body, TokenReplaced env world after body) (fresh : world.journal.handed kind = [])
    (carries : ∀ token, storedToken after.state = .ok (some token) →
      token.CarriesOnce kind platform.series) :
    ∃ token, UpToDate kind platform.series after token := by
  have course := Update.ran steady.memory (some contractToken) world
  rw [ran] at course
  have reached := course.tokenReplaced_iff.1 stores
  -- A machine with a token cannot be attached, so the new records are compared with nothing.
  refine course.upToDate reached steady carries none ?_ nofun fun record _ => ?_
  · intro stored exchange _ chosen
    cases attached : stored.filter MachineToken.isAttached with
    | none => rfl
    | some token =>
      rw [attached] at chosen
      cases chosen
  · have nothing : previousAccess none record = {} := by
      rw [previousAccess]
      cases record.kind <;> rfl
    rw [Journal.patched, fresh, nothing]
    exact Json.equal_refl _

/-- A refresh keeps the processor up to date, whether or not it stores a token. -/
theorem UpToDate.run_refresh (steady : Steady env platform kind)
    (h : UpToDate kind platform.series world token)
    (carries : ∀ token, storedToken ((run env none).perform world).2.state = .ok (some token) →
      token.CarriesOnce kind platform.series) :
    ∃ token, UpToDate kind platform.series ((run env none).perform world).2 token := by
  have course := Update.ran steady.memory none world
  by_cases reached : ReachedServices ((run env none).perform world).1
  · obtain ⟨body, found, sorted, decoded⟩ := h.stored
    obtain ⟨old, entitlement, equal⟩ := h.current
    have read := h.storedToken_eq
    -- The records are compared with those of the token that was stored before the request.
    refine course.upToDate reached steady carries (some token) ?_ ?_ ?_
    · intro stored exchange read' chosen
      obtain rfl := Except.ok.inj (read.symm.trans read')
      cases attached : token.isAttached with
      | true => simp [attached]
      | false =>
        rw [Option.filter_some, attached] at chosen
        cases chosen
    · rintro _ ⟨⟩
      exact MachineToken.wellFormed_of_decode sorted decoded
    · intro record named
      have known : previousAccess (some token) record = .ofEntitlement old := by
        simp [previousAccess, named, entitlement]
      rw [known]
      exact equal
  · obtain ⟨state_eq, calls_eq⟩ := course.eq_of_not_reached reached
    exact ⟨token, h.of_eq state_eq calls_eq⟩

/-- The world after a number of refreshes, one after another. -/
def refreshed (env : Environment (Keyed Json)) (world : World (Keyed Json)) :
    Nat → World (Keyed Json)
  | 0 => world
  | count + 1 => ((run env none).perform (refreshed env world count)).2

/-- Refreshes in a row keep the processor up to date. -/
theorem UpToDate.refreshed (steady : Steady env platform kind)
    (h : ∃ token, UpToDate kind platform.series world token) (count : Nat)
    (carries : ∀ earlier ≤ count, ∀ token,
      storedToken (refreshed env world earlier).state = .ok (some token) →
        token.CarriesOnce kind platform.series) :
    ∃ token, UpToDate kind platform.series (Update.refreshed env world count) token := by
  induction count with
  | zero => exact h
  | succ count ih =>
    obtain ⟨token, before⟩ := ih fun earlier le => carries earlier (Nat.le_succ_of_le le)
    exact before.run_refresh steady (carries (count + 1) (Nat.le_refl _))

end Updates

/-- **No change is lost or handed over twice**: on a machine that was attached and then refreshed
any number of times, all changes handed to the processor of a type so far, made one after another
from nothing, lead to the record of the stored token in what counts on the machine. Every stored
token has to have one record of the type, and no override on the series that changes a type; the
answers of the server and the outcomes of the processors are left open. That the machine was not
attached before need not be said: the attachment would not have stored anything. -/
theorem handed_changes_lead_to_stored_record {env : Environment (Keyed Json)} {platform : Platform}
    {kind : String} (steady : Steady env platform kind) {world attached : World (Keyed Json)}
    {contractToken : String} {result : Except UpdateError Unit}
    (fresh : world.journal.handed kind = [])
    (ran : (run env (some contractToken)).perform world = (result, attached))
    (stores : ∃ body, TokenReplaced env world attached body) (count : Nat)
    (carries : ∀ earlier ≤ count, ∀ token,
      storedToken (refreshed env attached earlier).state = .ok (some token) →
        token.CarriesOnce kind platform.series) :
    ∃ token record, storedToken (refreshed env attached count).state = .ok (some token) ∧
      token.entitlement? kind = some record ∧
      (Json.object (((refreshed env attached count).journal.handed kind).foldl Changes.patch
        [])).equal (.object (record.forSeries platform.series).members) = true := by
  have begun := upToDate_of_attached steady ran stores fresh (carries 0 (Nat.zero_le _))
  obtain ⟨token, ⟨body, found, -, decoded⟩, record, entitlement, equal⟩ :=
    UpToDate.refreshed steady begun count carries
  exact ⟨token, record, storedToken_eq_ok_some_iff.2 ⟨body, found, decoded⟩, entitlement, equal⟩

theorem steady_busyLivepatch : Steady busyLivepatch noble "livepatch" where
  memory := inMemory_busyLivepatch
  placed _ := rfl
  sorted past request response h := by
    obtain rfl := Except.ok.inj h
    dsimp only
    split <;> decide
  registered := rfl

/-- The stable tier that the machine was attached with was another one on its series, and is the
edge tier after one refresh; the processor was handed both, and refused both. -/
theorem handed_changes_lead_to_stored_record_busyLivepatch :
    let attached := ((run busyLivepatch (some "token")).perform { state := [] }).2
    Steady busyLivepatch noble "livepatch" ∧
    (∃ body, TokenReplaced busyLivepatch { state := [] } attached body) ∧
    (∀ earlier ≤ 1, ∀ token,
      storedToken (refreshed busyLivepatch attached earlier).state = .ok (some token) →
        token.CarriesOnce "livepatch" "noble") ∧
    ∃ token record,
      storedToken (refreshed busyLivepatch attached 1).state = .ok (some token) ∧
      token.entitlement? "livepatch" = some record ∧
      (Json.object (((refreshed busyLivepatch attached 1).journal.handed "livepatch").foldl
        Changes.patch [])).equal (.object (record.forSeries "noble").members) = true := by
  intro attached
  have course := Update.ran inMemory_busyLivepatch (some "token") { state := [] }
  have stores := course.tokenReplaced_iff.2 (by decide +kernel)
  have tokens : ∀ earlier ≤ 1,
      ∀ token ∈ (storedToken (refreshed busyLivepatch attached earlier).state).toOption.join,
        token.CarriesOnce "livepatch" "noble" := by decide +kernel
  have carries : ∀ earlier ≤ 1, ∀ token,
      storedToken (refreshed busyLivepatch attached earlier).state = .ok (some token) →
        token.CarriesOnce "livepatch" "noble" := fun earlier le token stored =>
    tokens earlier le token (by rw [stored]; rfl)
  exact ⟨steady_busyLivepatch, stores, carries,
    handed_changes_lead_to_stored_record steady_busyLivepatch rfl rfl stores 1 carries⟩

end Update

end Subscription
