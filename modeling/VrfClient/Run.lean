import VrfClient.Plan
import VrfClient.Clock

/-!
Running a plan against a model of its service. The model answers each question from its state and the
time; the clock moves only when the plan sleeps. A run keeps the result and, in order, everything that
happened: the questions, the notes and the sleeps. -/

namespace VrfClient

/-- Something that happened in a run. -/
inductive Event (S : Service) (τ : Type) where
  | asked (call : S.Call)
  | told (note : Note)
  | slept (duration : τ)

/-- Who answers: from the time and a state, an answer or an error, and the next state. -/
structure Model (S : Service) (τ σ : Type) where
  answer : (call : S.Call) → τ → σ → Except Error (S.Reply call) × σ

/-- What a run leaves behind. -/
structure Run (S : Service) (τ σ α : Type) where
  result : Except Error α
  events : List (Event S τ)
  clock : τ
  state : σ

namespace Run

variable {S : Service} {τ σ α : Type}

/-- A run with one more event in front. -/
def after (e : Event S τ) (r : Run S τ σ α) : Run S τ σ α := { r with events := e :: r.events }

/-- The questions asked, in order. -/
def calls (r : Run S τ σ α) : List S.Call :=
  r.events.filterMap fun e => match e with
    | .asked c => some c
    | _ => none

/-- The notes, in order. -/
def notes (r : Run S τ σ α) : List Note :=
  r.events.filterMap fun e => match e with
    | .told n => some n
    | _ => none

/-- The sleeps, in order. -/
def sleeps (r : Run S τ σ α) : List τ :=
  r.events.filterMap fun e => match e with
    | .slept d => some d
    | _ => none

end Run

namespace Plan

variable {S : Service} {τ σ α : Type}

/-- The run of a plan from a time and a state. -/
def run [Clock τ] (m : Model S τ σ) : Plan S τ α → τ → σ → Run S τ σ α
  | .done r, t, s => ⟨r, [], t, s⟩
  | .ask c k, t, s =>
    let (r, s) := m.answer c t s
    ((k r).run m t s).after (.asked c)
  | .tell n p, t, s => (p.run m t s).after (.told n)
  | .now k, t, s => (k t).run m t s
  | .sleep d p, t, s => (p.run m (Clock.add t d) s).after (.slept d)

end Plan

end VrfClient
