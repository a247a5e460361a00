import VrfClient.Ledger.Simulated
import VrfClient.Proofs.Transcript

/-!
Accounts that stay. Whether an account is there shows in the answers alone: it stays when from now on no
answer says that it is absent, and a ledger never removes accounts when every account that it has shown
stays. The ledger in memory is such a ledger as long as its schedule removes none. -/

namespace VrfClient.Ledger

open Plan

variable {τ σ α : Type}

section Stays

variable [Clock τ] {m : Model service τ σ}

/-- From this moment on the ledger never answers that the account is absent. -/
def Stays (m : Model Ledger.service τ σ) (t : τ) (s : σ) (a : Address) : Prop :=
  ∀ t' s', Later m t s t' s' → (m.answer (.accountData a) t' s').1 ≠ .ok none

/-- From this moment on the ledger removes no account: one that it has shown stays. -/
def NeverRemoves (m : Model Ledger.service τ σ) (t : τ) (s : σ) : Prop :=
  ∀ t' s' a data, Later m t s t' s' → (m.answer (.accountData a) t' s').1 = .ok (some data) →
    Stays m t' (m.answer (.accountData a) t' s').2 a

theorem Stays.later {t t' : τ} {s s' : σ} {a : Address} (h : Stays m t s a)
    (hl : Later m t s t' s') : Stays m t' s' a := fun _ _ hl' => h _ _ (hl.trans hl')

theorem NeverRemoves.later {t t' : τ} {s s' : σ} (h : NeverRemoves m t s)
    (hl : Later m t s t' s') : NeverRemoves m t' s' := fun _ _ _ _ hl' => h _ _ _ _ (hl.trans hl')

/-- An account stays where something that every answer preserves keeps it from being absent. -/
theorem stays_of_preserved {I : σ → Prop} {a : Address} (hstep : ∀ c t s, I s → I (m.answer c t s).2)
    (hshown : ∀ t s, I s → (m.answer (.accountData a) t s).1 ≠ .ok none) {t : τ} {s : σ} (hs : I s) :
    Stays m t s a := fun t' s' hl => hshown t' s' (hl.preserves hstep hs)

/-- An account that a run has shown stays when the run is over. -/
theorem NeverRemoves.stays {t : τ} {s : σ} (h : NeverRemoves m t s) {p : Ledger.Action τ α}
    {a : Address} {data : Bytes} (hmem : ⟨.accountData a, .ok (some data)⟩ ∈ p.transcript m t s) :
    Stays m (p.run m t s).clock (p.run m t s).state a := by
  obtain ⟨t', s', hl, hanswer, hend⟩ := exists_later_of_mem_transcript hmem
  exact (h t' s' a data hl hanswer.symm).later hend

end Stays

/-! ### The ledger in memory -/

namespace Simulated

variable {a : Address}

/-- The schedule removes no account. -/
def Kept (s : State τ) : Prop := ∀ e ∈ s.schedule, e.data ≠ none

/-- The ledger holds the account. -/
def Held (s : State τ) (a : Address) : Prop := get? s.accounts a ≠ none

theorem get?_put_self {κ ν : Type} [DecidableEq κ] (pairs : List (κ × ν)) (k : κ) (v : ν) :
    get? (put pairs k v) k = some v := by
  simp [get?, put]

theorem get?_put_of_ne {κ ν : Type} [DecidableEq κ] (pairs : List (κ × ν)) {k k' : κ} (v : ν)
    (h : k ≠ k') : get? (put pairs k v) k' = get? pairs k' := by
  have hfind : (pairs.filter fun p => p.1 ≠ k).find? (fun p => p.1 = k') =
      pairs.find? fun p => p.1 = k' := by
    rw [List.find?_filter]
    congr 1
    funext p
    by_cases hp : p.1 = k' <;> simp [hp, h.symm]
  simp only [get?, put]
  rw [List.find?_cons_of_neg (by simpa using h), hfind]

theorem held_setAccount {s : State τ} {b : Address} {data : Option Bytes} (hd : data ≠ none)
    (h : Held s a) : Held (s.setAccount b data) a := by
  cases data with
  | none => exact absurd rfl hd
  | some bs =>
    by_cases hab : b = a
    · subst hab
      simp [Held, State.setAccount, get?_put_self]
    · simpa [Held, State.setAccount, get?_put_of_ne _ _ hab] using h

/-- Edits that remove nothing lose no account, and leave the schedule. -/
theorem held_edits {es : List (Edit τ)} :
    ∀ {s : State τ}, (∀ e ∈ es, e.data ≠ none) →
      (Held s a → Held (es.foldl (fun s e => s.setAccount e.address e.data) s) a) ∧
      (es.foldl (fun s e => s.setAccount e.address e.data) s).schedule = s.schedule := by
  induction es with
  | nil => exact fun _ => ⟨id, rfl⟩
  | cons e es ih =>
    intro s he
    obtain ⟨hheld, hschedule⟩ := ih (s := s.setAccount e.address e.data)
      fun e' he' => he e' (List.mem_cons_of_mem _ he')
    exact ⟨fun h => hheld (held_setAccount (he e (by simp)) h), hschedule⟩

section Clocked

variable [Clock τ] {s s' : State τ} {t t' : τ}

theorem kept_and_held_advance (h : Kept s) (t : τ) :
    Kept (s.advance t) ∧ (Held s a → Held (s.advance t) a) := by
  have hdue : ∀ e ∈ s.schedule.filter fun e => !Clock.isAfter e.time t, e.data ≠ none :=
    fun e he => h e (List.mem_filter.1 he).1
  obtain ⟨hheld, hschedule⟩ := held_edits (a := a)
    (s := { s with schedule := s.schedule.filter fun e => Clock.isAfter e.time t }) hdue
  refine ⟨?_, hheld⟩
  intro e he
  rw [State.advance, hschedule] at he
  exact h e (List.mem_filter.1 he).1

/-- The ledger after it has counted a question for account data. -/
def counted (s : State τ) : State τ :=
  { s with counts := put s.counts .accountData (s.count .accountData) }

/-- Account data is read once the edits whose time has come are made, unless a fault strikes. -/
theorem answer_accountData (b : Address) (t : τ) (s : State τ) :
    (∃ e, model.answer (.accountData b) t s = (.error e, counted s)) ∨
      model.answer (.accountData b) t s =
        (.ok (get? ((counted s).advance t).accounts b), (counted s).advance t) := by
  simp only [model]
  cases hf : s.fault? (methodOf (.accountData b)) with
  | some e => exact .inl ⟨e, rfl⟩
  | none => exact .inr rfl

/-- An answer loses no account. -/
theorem kept_and_held_answer (h : Kept s) (c : Call) (t : τ) :
    Kept (model.answer c t s).2 ∧ (Held s a → Held (model.answer c t s).2 a) := by
  cases c with
  | accountData b =>
    rcases answer_accountData b t s with ⟨e, ha⟩ | ha
    · rw [ha]
      exact ⟨h, id⟩
    · rw [ha]
      exact kept_and_held_advance (s := counted s) h t
  | _ =>
    simp only [model]
    split <;> exact ⟨h, id⟩

/-- A ledger that holds an account, with a schedule that removes none, never answers that it is
absent. -/
theorem stays_of_held (h : Kept s) (ha : Held s a) (t : τ) : Stays model t s a := by
  refine stays_of_preserved (I := fun s => Kept s ∧ Held s a) (fun c t s hs => ?_) (fun t s hs hanswer => ?_)
    ⟨h, ha⟩
  · obtain ⟨hkept, hheld⟩ := kept_and_held_answer hs.1 c t
    exact ⟨hkept, hheld hs.2⟩
  · rcases answer_accountData a t s with ⟨e, he⟩ | he
    · rw [he] at hanswer
      cases hanswer
    · rw [he] at hanswer
      exact (kept_and_held_advance (s := counted s) hs.1 t).2 hs.2 (Except.ok.inj hanswer)

/-- A ledger in memory whose schedule removes no account never removes one. -/
theorem neverRemoves_of_kept (h : Kept s) (t : τ) : NeverRemoves model t s := by
  intro t' s' a data hl hanswer
  have hkept : Kept s' :=
    hl.preserves (I := Kept) (fun c t s hs => (kept_and_held_answer (a := a) hs c t).1) h
  refine stays_of_held (kept_and_held_answer (a := a) hkept _ t').1 ?_ t'
  rcases answer_accountData a t' s' with ⟨e, he⟩ | he
  · rw [he] at hanswer
    cases hanswer
  · rw [he] at hanswer ⊢
    have hdata : get? ((counted s').advance t').accounts a = some data := Except.ok.inj hanswer
    simp [Held, hdata]

end Clocked

end Simulated

end VrfClient.Ledger
