import Subscription.Proofs.Sending

/-!
# Commands one after another

A run of commands is a list of turns. In each turn one command is carried out in surroundings of its
own, from the world that the turn before has left. So the server may answer differently in every
turn, and the host may have become another.
-/

namespace Subscription

variable {σ : Type}

/-- One command of a run, with its surroundings and the world that it begins in. -/
structure Turn (σ : Type) where
  env : Environment σ
  command : Command
  before : World σ

namespace Turn

/-- What comes of the command. -/
def result (turn : Turn σ) : Except CommandError Report :=
  ((turn.command.run turn.env).perform turn.before).1

/-- The world that the command leaves. -/
def after (turn : Turn σ) : World σ := ((turn.command.run turn.env).perform turn.before).2

/-- What happened in the turn. -/
def news (turn : Turn σ) : Journal := turn.after.journal.drop turn.before.journal.length

/-- The requests that were sent in the turn. -/
def requests (turn : Turn σ) : List Request := turn.news.requests

/-- The requests that were sent in the turn, with the answers to them. -/
def exchanges (turn : Turn σ) : List (Request × Except NetworkError Response) :=
  World.exchanges turn.env.server turn.before turn.after

theorem requests_of_sent {turn : Turn σ} {sent : List Request}
    (h : World.Sent turn.before turn.after sent) : turn.requests = sent := by
  obtain ⟨news, journal, rfl⟩ := h
  rw [requests, Turn.news, journal, List.drop_left]

end Turn

namespace Command

/-- The turns of the commands, from a world on. -/
def turns : World σ → List (Environment σ × Command) → List (Turn σ)
  | _, [] => []
  | world, (env, command) :: rest =>
    let turn : Turn σ := { env, command, before := world }
    turn :: turns turn.after rest

/-- The world that the commands leave. -/
def afterAll : World σ → List (Environment σ × Command) → World σ
  | world, [] => world
  | world, (env, command) :: rest => afterAll (Turn.after { env, command, before := world }) rest

variable {world : World σ}

theorem mem_of_mem_turns {steps : List (Environment σ × Command)} {turn : Turn σ}
    (mem : turn ∈ turns world steps) : (turn.env, turn.command) ∈ steps := by
  induction steps generalizing world with
  | nil => cases mem
  | cons step rest ih =>
    rcases List.mem_cons.1 mem with rfl | later
    · exact List.mem_cons_self
    · exact List.mem_cons_of_mem _ (ih later)

/-- The last turn begins in the world that those before it have left. -/
theorem turns_concat (world : World σ) (steps : List (Environment σ × Command))
    (env : Environment σ) (command : Command) :
    turns world (steps ++ [(env, command)]) =
      turns world steps ++ [{ env, command, before := afterAll world steps }] := by
  induction steps generalizing world with
  | nil => rfl
  | cons step rest ih => exact congrArg _ (ih _)

theorem afterAll_concat (world : World σ) (steps : List (Environment σ × Command))
    (env : Environment σ) (command : Command) :
    afterAll world (steps ++ [(env, command)]) =
      Turn.after { env, command, before := afterAll world steps } := by
  induction steps generalizing world with
  | nil => rfl
  | cons step rest ih => exact ih _

end Command

end Subscription
