import Subscription.Proofs.Action

/-!
# Reading a journal

A journal holds the requests that were sent, but not how they were answered: a server answers by all
that happened before, so the answers are found again by going along the journal
(`Journal.exchanges`). Work between two worlds is `World.Offline` when it sent no request and left
the state alone; such work can be put before and after anything without changing what was exchanged.
-/

namespace Subscription

namespace Journal

/-! ### Requests and calls -/

@[simp] theorem requests_append (a b : Journal) : (a ++ b).requests = a.requests ++ b.requests :=
  List.filterMap_append

@[simp] theorem calls_append (a b : Journal) : (a ++ b).calls = a.calls ++ b.calls :=
  List.filterMap_append

@[simp] theorem requests_logged (events : List LogEvent) :
    requests (events.map .logged) = [] := by
  induction events with
  | nil => rfl
  | cons event rest ih => exact ih

@[simp] theorem calls_logged (events : List LogEvent) : calls (events.map .logged) = [] := by
  induction events with
  | nil => rfl
  | cons event rest ih => exact ih

/-! ### Exchanges -/

/-- The requests of `news`, each with the answer that the server gave after all that happened
before it, what happened in `past` included. -/
def exchanges (server : Server) (past : Journal) :
    Journal → List (Request × Except NetworkError Response)
  | [] => []
  | .requested request :: rest =>
    (request, (server past request).2) :: exchanges server (past ++ [.requested request]) rest
  | other :: rest => exchanges server (past ++ [other]) rest

variable {server : Server}

/-- The server answers the later requests with the earlier ones in its journal. -/
theorem exchanges_append (past a b : Journal) :
    exchanges server past (a ++ b) =
      exchanges server past a ++ exchanges server (past ++ a) b := by
  induction a generalizing past with
  | nil => simp [exchanges]
  | cons first rest ih => cases first <;> simp [exchanges, ih]

/-- What was exchanged is one answer for each request that was sent. -/
theorem map_fst_exchanges (past news : Journal) :
    (exchanges server past news).map Prod.fst = news.requests := by
  induction news generalizing past with
  | nil => rfl
  | cons first rest ih =>
    cases first with
    | requested request => exact congrArg (request :: ·) (ih _)
    | logged | processed => exact ih _

/-- Without a request there is no exchange. -/
theorem exchanges_eq_nil {past news : Journal} (h : news.requests = []) :
    exchanges server past news = [] := by
  rw [← List.map_eq_nil_iff (f := Prod.fst), map_fst_exchanges, h]

/-- One request among other news was answered after what went before it. -/
theorem exchanges_eq_singleton (past : Journal) {before after : Journal} (request : Request)
    (hbefore : before.requests = []) (hafter : after.requests = []) :
    exchanges server past (before ++ .requested request :: after) =
      [(request, (server (past ++ before) request).2)] := by
  rw [exchanges_append, exchanges_eq_nil hbefore, exchanges, exchanges_eq_nil hafter]
  rfl

end Journal

/-! ### From world to world -/

namespace World

variable {σ : Type} {first second third : World σ}

/-- The requests sent between two worlds, with the answers to them. -/
def exchanges (server : Server) (first second : World σ) :
    List (Request × Except NetworkError Response) :=
  Journal.exchanges server first.journal (second.journal.drop first.journal.length)

/-- The exchanges between two worlds are those of the news in the journal. -/
theorem exchanges_of_journal_eq {server : Server} {news : Journal}
    (h : second.journal = first.journal ++ news) :
    exchanges server first second = Journal.exchanges server first.journal news := by
  rw [exchanges, h, List.drop_left]

/-- What happens without a request adds nothing to what was exchanged before. -/
theorem exchanges_append_quiet (server : Server) {news quiet : Journal}
    (before : second.journal = first.journal ++ news)
    (after : third.journal = second.journal ++ quiet) (h : quiet.requests = []) :
    exchanges server first third = exchanges server first second := by
  rw [before, List.append_assoc] at after
  rw [exchanges_of_journal_eq after, exchanges_of_journal_eq before, Journal.exchanges_append,
    Journal.exchanges_eq_nil h, List.append_nil]

/-- Between the two worlds no request was sent, and the state was left alone. -/
structure Offline (first second : World σ) : Prop where
  state_eq : second.state = first.state
  journal_eq : ∃ news : Journal, second.journal = first.journal ++ news ∧ news.requests = []

namespace Offline

theorem refl (world : World σ) : Offline world world := ⟨rfl, [], by simp, rfl⟩

theorem trans (h : Offline first second) (h' : Offline second third) : Offline first third := by
  obtain ⟨news, journal, quiet⟩ := h.journal_eq
  obtain ⟨news', journal', quiet'⟩ := h'.journal_eq
  exact ⟨h'.state_eq.trans h.state_eq, news ++ news', by simp [journal', journal],
    by simp [quiet, quiet']⟩

theorem of_news (world : World σ) {news : Journal} (h : news.requests = []) :
    Offline world { world with journal := world.journal ++ news } :=
  ⟨rfl, news, rfl, h⟩

/-- Logging events is work of this kind. -/
theorem of_logged (world : World σ) (events : List LogEvent) :
    Offline world { world with journal := world.journal ++ events.map .logged } :=
  of_news world (Journal.requests_logged events)

theorem exchanges_eq_nil {server : Server} (h : Offline first second) :
    exchanges server first second = [] := by
  obtain ⟨news, journal, quiet⟩ := h.journal_eq
  rw [exchanges_of_journal_eq journal, Journal.exchanges_eq_nil quiet]

end Offline

end World

end Subscription
