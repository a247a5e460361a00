import VrfClient.Proofs.Transcript

/-!
Runs in sequence. The run of a sequence is the run of its first part, followed by the run of what comes
next from where the first part has left clock and service (`run_handle`): the events of the one stand
before those of the other, and the result of the one decides what comes next. Where the events of a run are
cut at a question, its questions are cut there too (`Run.exists_calls_of_events`). -/

namespace VrfClient

/-- A run with more events in front. -/
def Run.behind {S : Service} {τ σ α : Type} (events : List (Event S τ)) (r : Run S τ σ α) :
    Run S τ σ α := { r with events := events ++ r.events }

/-- A run behind which nothing more happens. -/
theorem Run.behind_done {S : Service} {τ σ α : Type} (r : Except Error α)
    (events : List (Event S τ)) (t : τ) (s : σ) :
    (Run.mk r [] t s).behind events = ⟨r, events, t, s⟩ := by
  simp [behind]

namespace Plan

variable {S : Service} {τ σ α β : Type}

/-! ### Plans that are done -/

@[simp] theorem done_ok_bind (a : α) (f : α → Plan S τ β) : (done (.ok a) >>= f) = f a := rfl

/-- Plans that are done without a question or a note, in sequence, are one. -/
theorem exists_done_bind {p : Plan S τ α} {f : α → Plan S τ β} (hp : ∃ r, p = done r)
    (hf : ∀ a, ∃ r, f a = done r) : ∃ r, (p >>= f) = done r := by
  obtain ⟨r, rfl⟩ := hp
  cases r with
  | ok a => exact hf a
  | error e => exact ⟨.error e, rfl⟩

/-! ### The laws of sequences -/

theorem bind_done (p : Plan S τ α) : (p >>= fun a => done (.ok a)) = p := by
  induction p with
  | done r => cases r <;> rfl
  | ask c k ih => exact congrArg (ask c) (funext ih)
  | tell n p ih => exact congrArg (tell n) ih
  | now k ih => exact congrArg now (funext ih)
  | sleep d p ih => exact congrArg (sleep d) ih

theorem bind_bind {γ : Type} (p : Plan S τ α) (f : α → Plan S τ β) (g : β → Plan S τ γ) :
    p >>= f >>= g = p >>= fun a => f a >>= g := by
  induction p with
  | done r => cases r <;> rfl
  | ask c k ih => exact congrArg (ask c) (funext ih)
  | tell n p ih => exact congrArg (tell n) ih
  | now k ih => exact congrArg now (funext ih)
  | sleep d p ih => exact congrArg (sleep d) ih

/-! ### Runs -/

variable [Clock τ] (m : Model S τ σ)

/-- A sequel runs from where the first plan has left clock and service. -/
theorem run_handle (p : Plan S τ α) (f : Except Error α → Plan S τ β) (t : τ) (s : σ) :
    (p.handle f).run m t s = ((f (p.run m t s).result).run m (p.run m t s).clock
      (p.run m t s).state).behind (p.run m t s).events := by
  induction p generalizing t s with
  | done r => rfl
  | ask c k ih => exact congrArg (Run.after (.asked c)) (ih _ t _)
  | tell n p ih => exact congrArg (Run.after (.told n)) (ih t s)
  | now k ih => exact ih t t s
  | sleep d p ih => exact congrArg (Run.after (.slept d)) (ih _ s)

variable {m} {p : Plan S τ α} {f : α → Plan S τ β} {t : τ} {s : σ}

theorem run_bind_ok {a : α} (h : (p.run m t s).result = .ok a) :
    (p >>= f).run m t s =
      ((f a).run m (p.run m t s).clock (p.run m t s).state).behind (p.run m t s).events :=
  (run_handle m p _ t s).trans (by rw [h])

theorem run_bind_error {e : Error} (h : (p.run m t s).result = .error e) :
    (p >>= f).run m t s =
      ⟨.error e, (p.run m t s).events, (p.run m t s).clock, (p.run m t s).state⟩ :=
  (run_handle m p _ t s).trans (by rw [h]; simp [run, Run.behind])

/-- What is done without a question asks nothing more. -/
theorem calls_bind_done (hf : ∀ a, ∃ r, f a = done r) : ((p >>= f).run m t s).calls = (p.run m t s).calls := by
  cases hr : (p.run m t s).result with
  | error e => rw [run_bind_error hr]; rfl
  | ok a =>
    obtain ⟨r, hdone⟩ := hf a
    rw [run_bind_ok hr, hdone, run, Run.behind_done]
    rfl

/-- The result of a sequence is that of its second plan, if the first gives a value. -/
theorem result_bind (m : Model S τ σ) (p : Plan S τ α) (f : α → Plan S τ β) (t : τ) (s : σ) :
    ((p >>= f).run m t s).result = (p.run m t s).result.bind fun a =>
      ((f a).run m (p.run m t s).clock (p.run m t s).state).result := by
  cases hr : (p.run m t s).result with
  | ok a =>
    rw [run_bind_ok hr]
    rfl
  | error e =>
    rw [run_bind_error hr]
    rfl

theorem run_tell (m : Model S τ σ) (n : Note) (p : Plan S τ α) (t : τ) (s : σ) :
    (tell n p).run m t s = (p.run m t s).after (.told n) := rfl

theorem run_call (m : Model S τ σ) (c : S.Call) (t : τ) (s : σ) :
    (call c).run m t s = ⟨(m.answer c t s).1, [.asked c], t, (m.answer c t s).2⟩ := rfl

end Plan

/-! ### Questions among the events -/

/-- The question that an event is. -/
def Event.call? {S : Service} {τ : Type} : Event S τ → Option S.Call
  | .asked c => some c
  | _ => none

section Events

variable {S : Service} {τ σ α : Type} {r : Run S τ σ α} {c : S.Call} {before after : List (Event S τ)}

theorem Run.calls_eq : r.calls = r.events.filterMap Event.call? := rfl

/-- The questions of a run are cut where its events are cut at a question. -/
theorem Run.exists_calls_of_events (h : r.events = before ++ .asked c :: after) :
    ∃ earlier later, r.calls = earlier ++ c :: later ∧ ∀ d, .asked d ∈ after → d ∈ later := by
  refine ⟨before.filterMap Event.call?, after.filterMap Event.call?, ?_, fun d hd => ?_⟩
  · rw [calls_eq, h, List.filterMap_append]
    rfl
  · exact List.mem_filterMap.2 ⟨.asked d, hd, rfl⟩

/-- A question of a run is one of its events. -/
theorem Run.exists_events_of_mem_calls (h : c ∈ r.calls) :
    ∃ before after, r.events = before ++ .asked c :: after := by
  obtain ⟨e, he, hc⟩ := List.mem_filterMap.1 h
  cases e with
  | asked d =>
    obtain rfl := Option.some.inj hc
    exact List.append_of_mem he
  | told n => cases hc
  | slept d => cases hc

/-- What is told first stands before every question. -/
theorem exists_of_told_cons {n : Note} {events : List (Event S τ)}
    (h : .told n :: events = before ++ .asked c :: after) :
    ∃ rest, before = .told n :: rest ∧ events = rest ++ .asked c :: after := by
  cases before with
  | nil => cases h
  | cons e rest =>
    obtain ⟨rfl, hrest⟩ := List.cons_eq_cons.1 h
    exact ⟨rest, rfl, hrest⟩

end Events

end VrfClient
