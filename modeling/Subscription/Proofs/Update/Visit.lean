import Subscription.Proofs.Entitlement.Tight
import Subscription.Update

/-!
# The visit of a record

A `Visit` is what an update does about one record: what the record is compared with, what is added
to the journal, and the outcome. `Visit.Attempted` says when a processor is called and what becomes
of the record, from the record and what it is compared with alone; so nothing that went wrong for
other records has a part in it. Bringing a service in line is a visit of this kind
(`Visit.attempted_of_reconciled`).
-/

namespace Subscription

/-! ### One visit -/

/-- What an update does about one record. -/
structure Visit where
  record : Entitlement
  /-- What the record is compared with. -/
  old : Access
  /-- All that happened before. -/
  past : Journal
  /-- All that happened in the visit. -/
  news : Journal
  outcome : Outcome

namespace Visit

variable {σ : Type} {env : Environment σ} {state : σ} {visit : Visit} {series : Option String}

/-- The record as it is compared. -/
def new (visit : Visit) : Access := .ofEntitlement visit.record

/-- The series whose overrides count for the record, or that the platform does not tell it. It is
asked only if there are overrides on either side. -/
def asked (env : Environment σ) (state : σ) (visit : Visit) :
    Except PlatformError (Option String) :=
  if visit.old.hasOverrides || visit.new.hasOverrides then
    (env.host.platform state).map fun platform => some platform.series
  else .ok none

/-- The record is not what it was before, in what counts on a machine of the series. -/
structure Differs (env : Environment σ) (state : σ) (visit : Visit) (series : Option String) :
    Prop where
  asked : visit.asked env state = .ok series
  differ : (Json.object (visit.old.comparisonView series)).equal
    (.object (visit.new.comparisonView series)) = false

/-- The type that the service goes by: that of the old record, else the one in the changes. -/
def name (visit : Visit) (series : Option String) : Option String :=
  visit.old.kind?.or (visit.old.delta visit.new series).kind?

/-- The call that hands over the changes. Nothing is enabled on the way. -/
def call (visit : Visit) (series : Option String) : ProcessorCall :=
  { old := visit.old, delta := visit.old.delta visit.new series, allowEnable := false }

/-- There is something to hand over, and a processor to hand it to. -/
structure Due (env : Environment σ) (state : σ) (visit : Visit) (series : Option String)
    (kind : String) (processor : Processor) : Prop where
  differs : visit.Differs env state series
  named : visit.name series = some kind
  registered : env.processors.get? kind = some processor

/-- How the processor takes the call. The processing of the changes is logged before it. -/
def answer (visit : Visit) (series : Option String) (kind : String) (processor : Processor) :
    Except ProcessFailure Unit :=
  (processor (visit.past ++ [.logged (.processing kind (visit.call series).delta)])
    (visit.call series)).2

/-- What becomes of a record: one call of a processor if it is due and none otherwise, and an
outcome that says whether it broke or was refused. Either is logged. -/
structure Attempted (env : Environment σ) (state : σ) (visit : Visit) : Prop where
  called : ∀ series kind processor, visit.Due env state series kind processor →
    visit.news.calls = [(kind, visit.call series, visit.answer series kind processor)]
  spared : (¬∃ series kind processor, visit.Due env state series kind processor) →
    visit.news.calls = []
  broken_iff : visit.outcome.isBroken = true ↔
    (∃ cause, visit.asked env state = .error cause) ∨
    (∃ series, visit.Differs env state series ∧ visit.name series = none) ∨
    ∃ kind call doing causes, (kind, call, .error (.unexpected doing causes)) ∈ visit.news.calls
  refused_iff : visit.outcome.isRefused = true ↔
    (∃ series kind, visit.Differs env state series ∧ visit.name series = some kind ∧
      env.processors.get? kind = none) ∨
    ∃ kind call message, (kind, call, .error (.forOperator message)) ∈ visit.news.calls
  logged : ∃ before : Journal,
    visit.news = before ++ (visit.outcome.events visit.record.kind).map .logged

/-- There is at most one series to differ on. -/
theorem Differs.series_eq (h : visit.Differs env state series) {series' : Option String}
    (asked : visit.asked env state = .ok series') : series = series' :=
  Except.ok.inj (h.asked.symm.trans asked)

/-- Where the series is known there is one way to differ on it, and that is to have changes. -/
theorem differs_iff (hold : visit.old.WellFormed) (hnew : visit.new.WellFormed)
    (asked : visit.asked env state = .ok series) (series' : Option String) :
    visit.Differs env state series' ↔
      series' = series ∧ (visit.old.delta visit.new series).isEmpty = false := by
  have sameView := Access.isEmpty_delta hold.ordered hnew.ordered
  constructor
  · intro h
    obtain rfl := h.series_eq asked
    exact ⟨rfl, (sameView _).trans h.differ⟩
  · rintro ⟨rfl, something⟩
    exact ⟨asked, (sameView series').symm.trans something⟩

theorem not_differs_of_unplaced {cause : PlatformError}
    (unplaced : visit.asked env state = .error cause) (series : Option String) :
    ¬visit.Differs env state series :=
  fun h => by cases unplaced.symm.trans h.asked

/-- Without a call there is nothing to be said of the answer of a processor. -/
private theorem attempted_of_spared
    (undue : ¬∃ series kind processor, visit.Due env state series kind processor)
    (calls : visit.news.calls = [])
    (logged : ∃ before : Journal,
      visit.news = before ++ (visit.outcome.events visit.record.kind).map .logged)
    (broken : visit.outcome.isBroken = true ↔ (∃ cause, visit.asked env state = .error cause) ∨
      ∃ series, visit.Differs env state series ∧ visit.name series = none)
    (refused : visit.outcome.isRefused = true ↔ ∃ series kind, visit.Differs env state series ∧
      visit.name series = some kind ∧ env.processors.get? kind = none) :
    visit.Attempted env state where
  called _ _ _ due := absurd ⟨_, _, _, due⟩ undue
  spared _ := calls
  broken_iff := by simp [calls, broken]
  refused_iff := by simp [calls, refused]
  logged := logged

/-- A call that is due, with its answer, settles the outcome. -/
private theorem attempted_of_due {kind : String} {processor : Processor}
    (due : visit.Due env state series kind processor)
    (calls : visit.news.calls =
      [(kind, visit.call series, visit.answer series kind processor)])
    (logged : ∃ before : Journal,
      visit.news = before ++ (visit.outcome.events visit.record.kind).map .logged)
    (broken : visit.outcome.isBroken = true ↔
      ∃ doing causes, visit.answer series kind processor = .error (.unexpected doing causes))
    (refused : visit.outcome.isRefused = true ↔
      ∃ message, visit.answer series kind processor = .error (.forOperator message)) :
    visit.Attempted env state := by
  have asked := due.differs.asked
  have named {series' : Option String} (h : visit.Differs env state series') :
      visit.name series' = some kind := by
    rw [h.series_eq asked, due.named]
  refine ⟨fun series' kind' processor' due' => ?_, fun undue => absurd ⟨_, _, _, due⟩ undue, ?_, ?_,
    logged⟩
  -- There is one series to ask for, one name and one processor, so one call can be due.
  · obtain rfl := due'.differs.series_eq asked
    obtain rfl := Option.some.inj (due.named.symm.trans due'.named)
    obtain rfl := Option.some.inj (due.registered.symm.trans due'.registered)
    exact calls
  · rw [broken, calls]
    constructor
    · rintro ⟨doing, causes, answered⟩
      exact .inr (.inr ⟨kind, _, doing, causes, by rw [answered]; exact List.mem_cons_self⟩)
    · rintro (⟨cause, unplaced⟩ | ⟨series', differs, unnamed⟩ | ⟨_, _, doing, causes, mem⟩)
      · cases asked.symm.trans unplaced
      · cases (named differs).symm.trans unnamed
      · obtain ⟨-, -, answered⟩ : _ ∧ _ ∧ _ = _ := by simpa using mem
        exact ⟨doing, causes, answered.symm⟩
  · rw [refused, calls]
    constructor
    · rintro ⟨message, answered⟩
      exact .inr ⟨kind, _, message, by rw [answered]; exact List.mem_cons_self⟩
    · rintro (⟨series', kind', differs, named', unregistered⟩ | ⟨_, _, message, mem⟩)
      · obtain rfl := Option.some.inj ((named differs).symm.trans named')
        cases due.registered.symm.trans unregistered
      · obtain ⟨-, -, answered⟩ : _ ∧ _ ∧ _ = _ := by simpa using mem
        exact ⟨message, answered.symm⟩

/-- What bringing a service in line comes to is what becomes of its record. -/
theorem attempted_of_reconciled {world after : World σ} {result : Except ReconcileError Delta}
    (h : Access.Reconciled env visit.old visit.new {} world result after)
    (hold : visit.old.WellFormed) (hnew : visit.new.WellFormed)
    (past : visit.past = world.journal) (outcome : visit.outcome = .ofResult result)
    (news : world.journal ++ visit.news =
      after.journal ++ (visit.outcome.events visit.record.kind).map .logged) :
    visit.Attempted env world.state := by
  -- Without a call all that is added to the journal is what is logged about the outcome.
  have quiet (same : after = world) : visit.news.calls = [] ∧ ∃ before : Journal,
      visit.news = before ++ (visit.outcome.events visit.record.kind).map .logged := by
    rw [same] at news
    have logged := List.append_cancel_left news
    exact ⟨by rw [logged, Journal.calls_logged], [], logged⟩
  cases h with
  | unplaced unplaced =>
    have unplaced : visit.asked env world.state = .error _ := unplaced
    have same := not_differs_of_unplaced unplaced
    obtain ⟨calls, logged⟩ := quiet rfl
    refine attempted_of_spared (fun ⟨_, _, _, due⟩ => same _ due.differs) calls logged ?_ ?_
    · simp [outcome, Outcome.ofResult, Outcome.isBroken, unplaced]
    · simp [outcome, Outcome.ofResult, Outcome.isRefused, same]
  | @unchanged series asked nothing =>
    have asked : visit.asked env world.state = .ok series := asked
    have differs := differs_iff hold hnew asked
    obtain ⟨calls, logged⟩ := quiet rfl
    refine attempted_of_spared ?_ calls logged ?_ ?_
    · rintro ⟨_, _, _, due⟩
      simpa [nothing] using (differs _).1 due.differs
    · simp [outcome, Outcome.ofResult, Outcome.isBroken, asked, differs, nothing]
    · simp [outcome, Outcome.ofResult, Outcome.isRefused, differs, nothing]
  | @untyped series asked something unnamed =>
    have asked : visit.asked env world.state = .ok series := asked
    have unnamed : visit.name series = none := unnamed
    have differs := differs_iff hold hnew asked
    obtain ⟨calls, logged⟩ := quiet rfl
    refine attempted_of_spared ?_ calls logged ?_ ?_
    · rintro ⟨_, _, _, due⟩
      simpa [((differs _).1 due.differs).1, unnamed] using due.named
    · simp [outcome, Outcome.ofResult, Outcome.isBroken, differs, something, unnamed]
    · simp [outcome, Outcome.ofResult, Outcome.isRefused, differs, unnamed]
  | @unsupported series kind asked something named unregistered =>
    have asked : visit.asked env world.state = .ok series := asked
    have named : visit.name series = some kind := named
    have differs := differs_iff hold hnew asked
    obtain ⟨calls, logged⟩ := quiet rfl
    refine attempted_of_spared ?_ calls logged ?_ ?_
    · rintro ⟨_, _, processor, due⟩
      have known := due.named
      rw [((differs _).1 due.differs).1, named] at known
      simpa [← Option.some.inj known, unregistered] using due.registered
    · simp [outcome, Outcome.ofResult, Outcome.isBroken, asked, differs, named]
    · simp [outcome, Outcome.ofResult, Outcome.isRefused, differs, something, named, unregistered]
  | @called series kind processor call asked something named registered told =>
    subst told
    have due : visit.Due env world.state series kind processor :=
      ⟨(differs_iff hold hnew asked series).2 ⟨rfl, something⟩, named, registered⟩
    -- The processor is asked in the world that the visit began in.
    have answered : Access.answer processor kind (visit.call series) world =
        visit.answer series kind processor := by rw [Access.answer, answer, past]
    obtain ⟨events, journal⟩ := Access.journal_afterCall processor kind (visit.call series) world
    have added := List.append_cancel_left
      ((news.trans (congrArg (· ++ _) journal)).trans (List.append_assoc ..))
    rw [answered] at added
    have settled : visit.outcome = .ofResult (((visit.answer series kind processor).mapError
        .processor).map fun _ => (visit.call series).delta) := by
      rw [outcome, ← answered]
      rfl
    refine attempted_of_due due ?_ ⟨_, added⟩ ?_ ?_
    · rw [added]
      simp only [Journal.calls_append, Journal.calls_logged, List.append_nil]
      rfl
    · rw [settled]
      rcases visit.answer series kind processor with (_ | _) | _ <;>
        simp [Except.map, Except.mapError, Outcome.ofResult, Outcome.isBroken]
    · rw [settled]
      rcases visit.answer series kind processor with (_ | _) | _ <;>
        simp [Except.map, Except.mapError, Outcome.ofResult, Outcome.isRefused]

end Visit

end Subscription
