import VrfClient.Run

/-!
Transcripts. All that a plan learns from its service is how its questions are answered, so what a plan
can do is a relation between the exchanges of a run and its result, `Reaches`, in which no service
occurs: each answer may be any answer, or any error. A run against a model is one way to get there
(`reaches_run`), so a property of every `Reaches` holds of every run against every model. The relation
is taken apart along the plan by `Reaches.of_bind` and the lemmas for the small plans. -/

namespace VrfClient

/-- A question and how it was answered. -/
structure Exchange (S : Service) where
  call : S.Call
  answer : Except Error (S.Reply call)

namespace Plan

variable {S : Service} {τ σ α β : Type}

/-- The questions of a run with their answers, in order. -/
def transcript [Clock τ] (m : Model S τ σ) : Plan S τ α → τ → σ → List (Exchange S)
  | .done _, _, _ => []
  | .ask c k, t, s => ⟨c, (m.answer c t s).1⟩ :: (k (m.answer c t s).1).transcript m t (m.answer c t s).2
  | .tell _ p, t, s => p.transcript m t s
  | .now k, t, s => (k t).transcript m t s
  | .sleep d p, t, s => p.transcript m (Clock.add t d) s

/-- These exchanges, at some times, lead a plan to this result. -/
inductive Reaches : Plan S τ α → List (Exchange S) → Except Error α → Prop
  | done (r : Except Error α) : Reaches (.done r) [] r
  | ask {c : S.Call} {k : Except Error (S.Reply c) → Plan S τ α} {a : Except Error (S.Reply c)}
      {x : List (Exchange S)} {r : Except Error α} :
      Reaches (k a) x r → Reaches (.ask c k) (⟨c, a⟩ :: x) r
  | tell {n : Note} {p : Plan S τ α} {x : List (Exchange S)} {r : Except Error α} :
      Reaches p x r → Reaches (.tell n p) x r
  | now {k : τ → Plan S τ α} {t : τ} {x : List (Exchange S)} {r : Except Error α} :
      Reaches (k t) x r → Reaches (.now k) x r
  | sleep {d : τ} {p : Plan S τ α} {x : List (Exchange S)} {r : Except Error α} :
      Reaches p x r → Reaches (.sleep d p) x r

/-! ### Runs -/

/-- The transcript of a run leads to the result of the run. -/
theorem reaches_run [Clock τ] (m : Model S τ σ) (p : Plan S τ α) (t : τ) (s : σ) :
    Reaches p (p.transcript m t s) (p.run m t s).result := by
  induction p generalizing t s with
  | done r => exact .done r
  | ask c k ih => exact .ask (ih _ t _)
  | tell n p ih => exact .tell (ih t s)
  | now k ih => exact .now (ih t t s)
  | sleep d p ih => exact .sleep (ih _ s)

/-- The questions of a run are those of its transcript. -/
theorem calls_run [Clock τ] (m : Model S τ σ) (p : Plan S τ α) (t : τ) (s : σ) :
    (p.run m t s).calls = (p.transcript m t s).map Exchange.call := by
  induction p generalizing t s with
  | done r => rfl
  | ask c k ih => exact congrArg (c :: ·) (ih _ t _)
  | tell n p ih => exact ih t s
  | now k ih => exact ih t t s
  | sleep d p ih => exact ih _ s

/-! ### Plans in sequence -/

/-- A sequel asks from where the first plan has left clock and service. -/
theorem transcript_handle [Clock τ] (m : Model S τ σ) (p : Plan S τ α)
    (f : Except Error α → Plan S τ β) (t : τ) (s : σ) :
    (p.handle f).transcript m t s = p.transcript m t s ++
      (f (p.run m t s).result).transcript m (p.run m t s).clock (p.run m t s).state := by
  induction p generalizing t s with
  | done r => rfl
  | ask c k ih => exact congrArg (⟨c, (m.answer c t s).1⟩ :: ·) (ih _ t _)
  | tell n p ih => exact ih t s
  | now k ih => exact ih t t s
  | sleep d p ih => exact ih _ s

/-- What a plan and its sequel do is what the one does and then, from its outcome, the other. -/
theorem Reaches.of_handle {p : Plan S τ α} {f : Except Error α → Plan S τ β}
    {x : List (Exchange S)} {r : Except Error β} (h : Reaches (p.handle f) x r) :
    ∃ r₁ x₁ x₂, Reaches p x₁ r₁ ∧ Reaches (f r₁) x₂ r ∧ x = x₁ ++ x₂ := by
  induction p generalizing x with
  | done r₁ => exact ⟨r₁, [], x, .done r₁, h, rfl⟩
  | ask c k ih =>
    cases h with
    | ask h =>
      obtain ⟨r₁, x₁, x₂, h₁, h₂, rfl⟩ := ih _ h
      exact ⟨r₁, _, x₂, .ask h₁, h₂, rfl⟩
  | tell n p ih =>
    cases h with
    | tell h =>
      obtain ⟨r₁, x₁, x₂, h₁, h₂, rfl⟩ := ih h
      exact ⟨r₁, x₁, x₂, .tell h₁, h₂, rfl⟩
  | now k ih =>
    cases h with
    | now h =>
      obtain ⟨r₁, x₁, x₂, h₁, h₂, rfl⟩ := ih _ h
      exact ⟨r₁, x₁, x₂, .now h₁, h₂, rfl⟩
  | sleep d p ih =>
    cases h with
    | sleep h =>
      obtain ⟨r₁, x₁, x₂, h₁, h₂, rfl⟩ := ih h
      exact ⟨r₁, x₁, x₂, .sleep h₁, h₂, rfl⟩

/-- A sequence ends with the error of its first plan, or goes on with its value. -/
theorem Reaches.of_bind {p : Plan S τ α} {f : α → Plan S τ β} {x : List (Exchange S)}
    {r : Except Error β} (h : Reaches (p >>= f) x r) :
    (∃ e, Reaches p x (.error e) ∧ r = .error e) ∨
      ∃ a x₁ x₂, Reaches p x₁ (.ok a) ∧ Reaches (f a) x₂ r ∧ x = x₁ ++ x₂ := by
  obtain ⟨r₁, x₁, x₂, h₁, h₂, rfl⟩ := Reaches.of_handle h
  cases r₁ with
  | error e =>
    cases h₂
    exact .inl ⟨e, by simpa using h₁, rfl⟩
  | ok a => exact .inr ⟨a, x₁, x₂, h₁, h₂, rfl⟩

/-! ### Small plans -/

theorem reaches_done {r₀ r : Except Error α} {x : List (Exchange S)} :
    Reaches (τ := τ) (.done r₀) x r ↔ x = [] ∧ r = r₀ := by
  constructor
  · rintro ⟨⟩
    exact ⟨rfl, rfl⟩
  · rintro ⟨rfl, rfl⟩
    exact .done _

@[simp] theorem reaches_pure {a : α} {r : Except Error α} {x : List (Exchange S)} :
    Reaches (τ := τ) (pure a) x r ↔ x = [] ∧ r = .ok a := reaches_done

@[simp] theorem reaches_fail {e : Error} {r : Except Error α} {x : List (Exchange S)} :
    Reaches (τ := τ) (fail e) x r ↔ x = [] ∧ r = .error e := reaches_done

@[simp] theorem reaches_lift {r₀ r : Except Error α} {x : List (Exchange S)} :
    Reaches (τ := τ) (lift r₀) x r ↔ x = [] ∧ r = r₀ := reaches_done

@[simp] theorem reaches_require {e : Error} {a : Option α} {r : Except Error α}
    {x : List (Exchange S)} :
    Reaches (τ := τ) (require e a) x r ↔ x = [] ∧ r = a.elim (.error e) .ok := by
  cases a <;> exact reaches_done

@[simp] theorem reaches_call {c : S.Call} {r : Except Error (S.Reply c)} {x : List (Exchange S)} :
    Reaches (τ := τ) (call c) x r ↔ x = [⟨c, r⟩] := by
  constructor
  · intro h
    cases h with
    | ask h =>
      cases h
      rfl
  · rintro rfl
    exact .ask (.done r)

@[simp] theorem reaches_note {n : Note} {r : Except Error Unit} {x : List (Exchange S)} :
    Reaches (τ := τ) (note n) x r ↔ x = [] ∧ r = .ok () := by
  constructor
  · intro h
    cases h with
    | tell h => exact reaches_done.1 h
  · exact fun h => .tell (reaches_done.2 h)

@[simp] theorem reaches_log {l : Level} {ch : Channel} {text : String} {r : Except Error Unit}
    {x : List (Exchange S)} :
    Reaches (τ := τ) (log l ch text) x r ↔ x = [] ∧ r = .ok () := reaches_note

/-- A log record in front changes nothing that is asked, nor the result. -/
@[simp] theorem reaches_log_bind {l : Level} {ch : Channel} {text : String} {p : Unit → Plan S τ β}
    {r : Except Error β} {x : List (Exchange S)} :
    Reaches (log l ch text >>= p) x r ↔ Reaches (p ()) x r := by
  constructor
  · intro h
    cases h with
    | tell h => exact h
  · exact fun h => .tell h

/-! ### Services at rest -/

/-- Every question was answered, and as this view of the service has it. -/
def Shown (view : (c : S.Call) → S.Reply c) (x : List (Exchange S)) : Prop :=
  ∀ e ∈ x, e.answer = .ok (view e.call)

theorem shown_cons {view : (c : S.Call) → S.Reply c} {e : Exchange S} {x : List (Exchange S)} :
    Shown view (e :: x) ↔ e.answer = .ok (view e.call) ∧ Shown view x := List.forall_mem_cons

/-- The model of a service that never changes and never fails. -/
def atRest (view : (c : S.Call) → S.Reply c) : Model S τ σ := ⟨fun c _ s => (.ok (view c), s)⟩

theorem shown_atRest [Clock τ] (view : (c : S.Call) → S.Reply c) (p : Plan S τ α) (t : τ) (s : σ) :
    Shown view (p.transcript (atRest view) t s) := by
  induction p generalizing t s with
  | done r => exact List.forall_mem_nil _
  | ask c k ih => exact shown_cons.2 ⟨rfl, ih _ t _⟩
  | tell n p ih => exact ih t s
  | now k ih => exact ih t t s
  | sleep d p ih => exact ih _ s

/-! ### Later states of a service -/

section Later

variable [Clock τ] {m : Model S τ σ}

/-- The times and states that questions and waiting lead to. -/
inductive Later (m : Model S τ σ) : τ → σ → τ → σ → Prop
  | refl (t : τ) (s : σ) : Later m t s t s
  | asked {t t' : τ} {s s' : σ} (c : S.Call) : Later m t (m.answer c t s).2 t' s' → Later m t s t' s'
  | waited {t t' : τ} {s s' : σ} (d : τ) : Later m (Clock.add t d) s t' s' → Later m t s t' s'

theorem Later.trans {t t' t'' : τ} {s s' s'' : σ} (h : Later m t s t' s') (h' : Later m t' s' t'' s'') :
    Later m t s t'' s'' := by
  induction h with
  | refl t s => exact h'
  | asked c _ ih => exact .asked c (ih h')
  | waited d _ ih => exact .waited d (ih h')

/-- What every answer preserves holds of all later states. -/
theorem Later.preserves {I : σ → Prop} (hstep : ∀ c t s, I s → I (m.answer c t s).2) {t t' : τ} {s s' : σ}
    (h : Later m t s t' s') (hs : I s) : I s' := by
  induction h with
  | refl t s => exact hs
  | asked c _ ih => exact ih (hstep c _ _ hs)
  | waited d _ ih => exact ih hs

/-- A run ends in a later state. -/
theorem later_run (m : Model S τ σ) (p : Plan S τ α) (t : τ) (s : σ) :
    Later m t s (p.run m t s).clock (p.run m t s).state := by
  induction p generalizing t s with
  | done r => exact .refl t s
  | ask c k ih => exact .asked c (ih _ t _)
  | tell n p ih => exact ih t s
  | now k ih => exact ih t t s
  | sleep d p ih => exact .waited d (ih _ s)

/-- An exchange of a run took place in a later state, and the run ended later still. -/
theorem exists_later_of_mem_transcript {p : Plan S τ α} {t : τ} {s : σ} {e : Exchange S}
    (h : e ∈ p.transcript m t s) : ∃ t' s', Later m t s t' s' ∧
      e.answer = (m.answer e.call t' s').1 ∧
      Later m t' (m.answer e.call t' s').2 (p.run m t s).clock (p.run m t s).state := by
  induction p generalizing t s with
  | done r => cases h
  | ask c k ih =>
    rcases List.mem_cons.1 h with rfl | h
    · exact ⟨t, s, .refl t s, rfl, later_run m _ t _⟩
    · obtain ⟨t', s', hl, ha, he⟩ := ih _ h
      exact ⟨t', s', .asked c hl, ha, he⟩
  | tell n p ih => exact ih h
  | now k ih => exact ih t h
  | sleep d p ih =>
    obtain ⟨t', s', hl, ha, he⟩ := ih h
    exact ⟨t', s', .waited d hl, ha, he⟩

end Later

end Plan

end VrfClient
