import Mathlib.Data.List.Basic
import VrfClient.Ledger.Simulated
import VrfClient.Proofs.Direct
import VrfClient.Proofs.Lasting
import VrfClient.Proofs.Polling

/-!
Ledgers that are made to fail. Failures are assigned to calls by method and count, whatever the ledger
would have answered (`failing`). A run against the failing ledger goes as the run without failures does up
to the first call of that run that a failure is assigned to. A direct plan ends there, with the failure
(`Direct.endsAt`), and as every operation of the client is direct, none of them retries or swallows a
failure, wherever it strikes (`failures_surface`). The faults of the ledger in memory are failures of this
kind (`Simulated.run_of_faults`). -/

namespace VrfClient

namespace Ledger

open Simulated (Method methodOf)

/-- A failure that a ledger is made to have: of transport, or a crash. -/
inductive Failure where
  | transport (fault : TransportFault)
  | crash (detail : String)

/-- What a call that is struck is answered with. -/
def Failure.error : Failure → Error
  | .transport fault => .transport fault
  | .crash detail => .node ⟨.crash, detail⟩

/-- Which calls of which method fail, and how; calls of a method are counted from one. -/
abbrev Assignment := Method → Nat → Option Failure

/-- How often each method was called. -/
abbrev Counts := Method → Nat

/-- The counts after one more call. -/
def Counts.after (counts : Counts) (c : Call) : Counts :=
  Function.update counts (methodOf c) (counts (methodOf c) + 1)

/-- The ledger, made to fail: a call that a failure is assigned to does not reach it. -/
def failing {τ σ : Type} (assigned : Assignment) (m : Model service τ σ) :
    Model service τ (σ × Counts) where
  answer c t s :=
    match assigned (methodOf c) (s.2.after c (methodOf c)) with
    | some f => (.error f.error, s.1, s.2.after c)
    | none => ((m.answer c t s.1).1, (m.answer c t s.1).2, s.2.after c)

/-- The failure assigned to the `n`-th of these calls, counted from zero, after earlier calls as often as
the counts say. -/
def strikes (assigned : Assignment) (counts : Counts) (calls : List Call) (n : Nat) : Option Failure :=
  calls[n]?.bind fun c =>
    assigned (methodOf c)
      (counts (methodOf c) + (calls.take (n + 1)).countP fun earlier => methodOf earlier = methodOf c)

variable {assigned : Assignment} {counts : Counts} {c : Call} {calls : List Call}

theorem strikes_cons_zero :
    strikes assigned counts (c :: calls) 0 = assigned (methodOf c) (counts.after c (methodOf c)) := by
  simp [strikes, Counts.after]

/-- What strikes later calls is found by counting the first one. -/
theorem strikes_cons_succ (n : Nat) :
    strikes assigned counts (c :: calls) (n + 1) = strikes assigned (counts.after c) calls n := by
  unfold strikes
  rw [List.getElem?_cons_succ, List.take_succ_cons]
  congr 1
  funext later
  rw [List.countP_cons]
  by_cases h : methodOf c = methodOf later
  · simp only [Counts.after, h, Function.update_self, decide_true, if_true]
    congr 1
    omega
  · simp only [Counts.after, Function.update_of_ne (Ne.symm h), h, decide_false, Bool.false_eq_true,
      if_false, Nat.add_zero]

variable {τ σ : Type} {m : Model service τ σ} {t : τ} {s : σ}

theorem failing_of_struck {f : Failure} (h : assigned (methodOf c) (counts.after c (methodOf c)) = some f) :
    (failing assigned m).answer c t (s, counts) = (.error f.error, s, counts.after c) := by
  simp only [failing, h]

theorem failing_of_spared (h : assigned (methodOf c) (counts.after c (methodOf c)) = none) :
    (failing assigned m).answer c t (s, counts) =
      ((m.answer c t s).1, (m.answer c t s).2, counts.after c) := by
  simp only [failing, h]

end Ledger

namespace Plan

open Ledger

variable {τ σ α : Type} [Clock τ]

/-! ### The failure that ends a run -/

/-- A failure is assigned to the `n`-th of these calls, and to none before it. -/
structure FirstStruck (assigned : Assignment) (counts : Counts) (calls : List Ledger.Call) (n : Nat)
    (f : Failure) : Prop where
  struck : strikes assigned counts calls n = some f
  spared : ∀ i < n, strikes assigned counts calls i = none

theorem FirstStruck.tail {assigned : Assignment} {counts : Counts} {c : Ledger.Call}
    {calls : List Ledger.Call} {n : Nat} {f : Failure}
    (h : FirstStruck assigned counts (c :: calls) (n + 1) f) :
    FirstStruck assigned (counts.after c) calls n f where
  struck := strikes_cons_succ n ▸ h.struck
  spared i hi := strikes_cons_succ i ▸ h.spared (i + 1) (Nat.succ_lt_succ hi)

/-- A run that no failure strikes goes as without failures. -/
structure Unharmed (plain : Run service τ σ α) (run : Run service τ (σ × Counts) α) : Prop where
  result_eq : run.result = plain.result
  events_eq : run.events = plain.events
  clock_eq : run.clock = plain.clock
  state_eq : run.state.1 = plain.state

/-- A run that ends with its `n`-th call, with the failure of that call; so far, it went as without. -/
structure EndsAt (plain : Run service τ σ α) (run : Run service τ (σ × Counts) α) (n : Nat)
    (f : Failure) : Prop where
  result_eq : run.result = .error f.error
  calls_eq : run.calls = plain.calls.take (n + 1)
  events_le : run.events <+: plain.events

section

variable {asks : Ledger.service.Call → Prop} {p : Ledger.Action τ α} {m : Model service τ σ}
  {assigned : Assignment}

/-- Failures that strike no call of a run leave it as it is, whatever the plan. -/
theorem unharmed_of_spared (p : Ledger.Action τ α) {t : τ} {s : σ} {counts : Counts}
    (h : ∀ n, strikes assigned counts (p.run m t s).calls n = none) :
    Unharmed (p.run m t s) (p.run (failing assigned m) t (s, counts)) := by
  induction p generalizing t s counts with
  | done r => exact ⟨rfl, rfl, rfl, rfl⟩
  | ask c k ih =>
    have hspared := strikes_cons_zero.symm.trans (h 0)
    have hrest := ih (m.answer c t s).1 fun n => (strikes_cons_succ n).symm.trans (h (n + 1))
    simp only [run, failing_of_spared hspared]
    exact ⟨hrest.result_eq, congrArg (Event.asked c :: ·) hrest.events_eq, hrest.clock_eq,
      hrest.state_eq⟩
  | tell n p ih =>
    have hrest := ih h
    exact ⟨hrest.result_eq, congrArg (Event.told n :: ·) hrest.events_eq, hrest.clock_eq,
      hrest.state_eq⟩
  | now k ih => exact ih t h
  | sleep d p ih =>
    have hrest := ih h
    exact ⟨hrest.result_eq, congrArg (Event.slept d :: ·) hrest.events_eq, hrest.clock_eq,
      hrest.state_eq⟩

/-- A direct plan ends with the first call that is struck, with its failure. -/
theorem Direct.endsAt (hp : Direct asks p) {t : τ} {s : σ} {counts : Counts} {n : Nat} {f : Failure}
    (h : FirstStruck assigned counts (p.run m t s).calls n f) :
    EndsAt (p.run m t s) (p.run (failing assigned m) t (s, counts)) n f := by
  -- Both runs go the same way until the struck call, so the counts of methods are the same there.
  induction hp generalizing t s counts n with
  | done r => exact absurd h.struck (by simp [run, Run.calls, strikes])
  | @ask c k hc hfail hk ih =>
    cases n with
    | zero =>
      have hstruck := strikes_cons_zero.symm.trans h.struck
      simp only [run, failing_of_struck hstruck, hfail]
      exact ⟨rfl, rfl, (List.prefix_cons_inj _).2 List.nil_prefix⟩
    | succ n =>
      have hspared := strikes_cons_zero.symm.trans (h.spared 0 n.succ_pos)
      have hrest : FirstStruck assigned (counts.after c)
          ((k (m.answer c t s).1).run m t (m.answer c t s).2).calls n f := h.tail
      simp only [run, failing_of_spared hspared]
      cases hanswer : (m.answer c t s).1 with
      | error e =>
        -- After an error of its own there is no call left to strike.
        rw [hanswer, hfail] at hrest
        exact absurd hrest.struck (by simp [run, Run.calls, strikes])
      | ok a =>
        rw [hanswer] at hrest
        have hends := ih a hrest
        exact ⟨hends.result_eq, congrArg (c :: ·) hends.calls_eq,
          (List.prefix_cons_inj _).2 hends.events_le⟩
  | tell _ ih =>
    have hends := ih h
    exact ⟨hends.result_eq, hends.calls_eq, (List.prefix_cons_inj _).2 hends.events_le⟩
  | now _ ih => exact ih t h
  | sleep _ ih =>
    have hends := ih h
    exact ⟨hends.result_eq, hends.calls_eq, (List.prefix_cons_inj _).2 hends.events_le⟩

end

/-- Whatever the ledger and however failures are assigned to it, the run ends with the first of its calls
that is struck, with the failure of that call; where none is struck, nothing changes. -/
structure SurfacesFailures (p : Ledger.Action τ α) : Prop where
  ends : ∀ {σ : Type} (m : Model service τ σ) (assigned : Assignment) (counts : Counts) (t : τ) (s : σ)
    (n : Nat) (f : Failure), FirstStruck assigned counts (p.run m t s).calls n f →
    EndsAt (p.run m t s) (p.run (failing assigned m) t (s, counts)) n f
  unharmed : ∀ {σ : Type} (m : Model service τ σ) (assigned : Assignment) (counts : Counts) (t : τ)
    (s : σ), (∀ n, strikes assigned counts (p.run m t s).calls n = none) →
    Unharmed (p.run m t s) (p.run (failing assigned m) t (s, counts))

theorem Direct.surfacesFailures {asks : Ledger.service.Call → Prop} {p : Ledger.Action τ α}
    (hp : Direct asks p) : SurfacesFailures p where
  ends _ _ _ _ _ _ _ h := hp.endsAt h
  unharmed _ _ _ _ _ h := unharmed_of_spared p h

end Plan

/-! ### Faults of the ledger in memory -/

section Simulation

variable {S : Service} {τ σ₁ σ₂ α : Type} [Clock τ] {m₁ : Model S τ σ₁} {m₂ : Model S τ σ₂}
  {R : σ₁ → σ₂ → Prop}

/-- Services that answer alike from related states, and keep them related, cannot be told apart by a run. -/
theorem Plan.run_of_simulation
    (h : ∀ c t s₁ s₂, R s₁ s₂ → (m₁.answer c t s₁).1 = (m₂.answer c t s₂).1 ∧
      R (m₁.answer c t s₁).2 (m₂.answer c t s₂).2) (p : Plan S τ α) {t : τ} {s₁ : σ₁} {s₂ : σ₂}
    (hs : R s₁ s₂) : (p.run m₁ t s₁).result = (p.run m₂ t s₂).result ∧
      (p.run m₁ t s₁).events = (p.run m₂ t s₂).events ∧
      (p.run m₁ t s₁).clock = (p.run m₂ t s₂).clock := by
  induction p generalizing t s₁ s₂ with
  | done r => exact ⟨rfl, rfl, rfl⟩
  | ask c k ih =>
    obtain ⟨hanswer, hstates⟩ := h c t s₁ s₂ hs
    obtain ⟨hresult, hevents, hclock⟩ := ih (m₁.answer c t s₁).1 (t := t) hstates
    simp only [run, Run.after]
    rw [← hanswer]
    exact ⟨hresult, congrArg (Event.asked c :: ·) hevents, hclock⟩
  | tell n p ih =>
    obtain ⟨hresult, hevents, hclock⟩ := ih (t := t) hs
    exact ⟨hresult, congrArg (Event.told n :: ·) hevents, hclock⟩
  | now k ih => exact ih t hs
  | sleep d p ih =>
    obtain ⟨hresult, hevents, hclock⟩ := ih (t := Clock.add t d) hs
    exact ⟨hresult, congrArg (Event.slept d :: ·) hevents, hclock⟩

end Simulation

namespace Ledger.Simulated

variable {τ : Type}

/-- Failures of methods, each on the calls that are listed, or on all. -/
abbrev Faults := List (Method × Failure × Option (List Nat))

/-- The failures as the ledger in memory keeps them. -/
def Faults.assigned (faults : Faults) : List (Method × Fault) :=
  faults.map fun p => (p.1, ⟨p.2.1.error, p.2.2⟩)

/-- Which calls they strike. -/
def Faults.assignment (faults : Faults) : Assignment := fun method count =>
  (get? faults method).bind fun p => if Fault.strikes ⟨p.1.error, p.2⟩ count then some p.1 else none

/-- The ledger with other faults and counts. -/
def State.withFaults (s : State τ) (faults : List (Method × Fault)) (counts : List (Method × Nat)) :
    State τ := { s with faults := faults, counts := counts }

theorem get?_map {κ ν ν' : Type} [DecidableEq κ] (g : ν → ν') (pairs : List (κ × ν)) (k : κ) :
    get? (pairs.map fun p => (p.1, g p.2)) k = (get? pairs k).map g := by
  simp only [get?, List.find?_map, Option.map_map]
  rfl

/-- The next call of a method is struck as the assignment says. -/
theorem fault?_eq {s : State τ} {faults : Faults} (h : s.faults = faults.assigned) (method : Method) :
    s.fault? method = (faults.assignment method (s.count method)).map Failure.error := by
  rw [State.fault?, h, Faults.assigned,
    get?_map (fun p : Failure × Option (List Nat) => Fault.mk p.1.error p.2), Faults.assignment]
  cases get? faults method with
  | none => rfl
  | some p =>
    simp only [Option.map_some, Option.bind_some]
    split <;> rfl

/-- Edits touch neither faults nor counts. -/
theorem withFaults_edits {faults : List (Method × Fault)} {counts : List (Method × Nat)} :
    ∀ (es : List (Edit τ)) (s : State τ),
      es.foldl (fun s e => s.setAccount e.address e.data) (s.withFaults faults counts) =
        (es.foldl (fun s e => s.setAccount e.address e.data) s).withFaults faults counts
  | [], _ => rfl
  | e :: es, s => withFaults_edits es (s.setAccount e.address e.data)

/-- Nor do they matter to the answer of a call that no fault strikes. -/
theorem withFaults_answer [Clock τ] (faults : List (Method × Fault)) (counts : List (Method × Nat))
    (s : State τ) (t : τ) (c : Call) : (s.withFaults faults counts).answer t c =
      ((s.answer t c).1, (s.answer t c).2.withFaults faults counts) := by
  cases c with
  | accountData a =>
    have hadvance : (s.withFaults faults counts).advance t = (s.advance t).withFaults faults counts :=
      withFaults_edits _ { s with schedule := s.schedule.filter fun e => Clock.isAfter e.time t }
    simp only [State.answer, hadvance]
    rfl
  | _ => rfl

/-- The counts of a ledger after one more call. -/
def State.nextCounts (s : State τ) (c : Call) : List (Method × Nat) :=
  put s.counts (methodOf c) (s.count (methodOf c))

/-- How often each method was called. -/
def State.calls (s : State τ) : Counts := fun method => (get? s.counts method).getD 0

theorem calls_withFaults_nextCounts (s s' : State τ) (faults : List (Method × Fault)) (c : Call) :
    (s'.withFaults faults (s.nextCounts c)).calls = s.calls.after c := by
  funext method
  by_cases h : methodOf c = method
  · subst h
    simp [State.calls, State.withFaults, State.nextCounts, get?_put_self, Counts.after, State.count]
  · simp [State.calls, State.withFaults, State.nextCounts, get?_put_of_ne _ _ h, Counts.after,
      Function.update_of_ne (Ne.symm h)]

variable [Clock τ] {s : State τ} {c : Call} {t : τ}

theorem answer_of_fault {e : Error} (h : s.fault? (methodOf c) = some e) :
    model.answer c t s = (.error e, s.withFaults s.faults (s.nextCounts c)) := by
  simp only [model, h]
  rfl

theorem answer_of_no_fault (h : s.fault? (methodOf c) = none) : model.answer c t s =
    (.ok (s.answer t c).1, (s.answer t c).2.withFaults s.faults (s.nextCounts c)) := by
  have hanswer := withFaults_answer s.faults (s.nextCounts c) s t c
  simp only [State.withFaults, State.nextCounts] at hanswer
  simp only [model, h, hanswer]
  rfl

/-- A ledger with faults, and one with the same contents that is made to fail, after the same calls. -/
structure Mirrors (faults : Faults) (s : State τ) (s' : State τ × Counts) : Prop where
  faults_eq : s.faults = faults.assigned
  contents_eq : s'.1 = s.withFaults [] s'.1.counts
  counts_eq : s'.2 = s.calls

theorem Mirrors.answer {faults : Faults} {s' : State τ × Counts} (h : Mirrors faults s s') (c : Call)
    (t : τ) : (model.answer c t s).1 = ((failing faults.assignment model).answer c t s').1 ∧
      Mirrors faults (model.answer c t s).2 ((failing faults.assignment model).answer c t s').2 := by
  obtain ⟨s', counts⟩ := s'
  obtain ⟨hfaults, hcontents, rfl⟩ := h
  change s' = s.withFaults [] s'.counts at hcontents
  have hstruck := fault?_eq hfaults (methodOf c)
  have hcount : s.calls.after c (methodOf c) = s.count (methodOf c) := Function.update_self ..
  rw [← hcount] at hstruck
  cases hassigned : faults.assignment (methodOf c) (s.calls.after c (methodOf c)) with
  | some f =>
    rw [hassigned] at hstruck
    rw [answer_of_fault hstruck, failing_of_struck hassigned]
    exact ⟨rfl, hfaults, hcontents, (calls_withFaults_nextCounts s s _ c).symm⟩
  | none =>
    rw [hassigned] at hstruck
    -- The fault-free side answers from the same contents, which faults and counts are no part of.
    have hnone : s'.faults = [] := by rw [hcontents]; rfl
    have hfree : s'.fault? (methodOf c) = none := by
      rw [State.fault?, hnone]
      rfl
    have hsame := withFaults_answer [] s'.counts s t c
    rw [← hcontents] at hsame
    rw [answer_of_no_fault hstruck, failing_of_spared hassigned, answer_of_no_fault hfree, hsame, hnone]
    exact ⟨rfl, hfaults, rfl, (calls_withFaults_nextCounts s _ _ c).symm⟩

/-- A run against a ledger with faults is one against the ledger without them, made to fail. -/
theorem run_of_faults {α : Type} (p : Ledger.Action τ α) (faults : Faults) (t : τ) (s : State τ) :
    let plain := s.withFaults [] s.counts
    let run := p.run (failing faults.assignment model) t (plain, s.calls)
    (p.run model t (s.withFaults faults.assigned s.counts)).result = run.result ∧
      (p.run model t (s.withFaults faults.assigned s.counts)).events = run.events ∧
      (p.run model t (s.withFaults faults.assigned s.counts)).clock = run.clock :=
  Plan.run_of_simulation (R := Mirrors faults) (fun c t _ _ h => h.answer c t) p ⟨rfl, rfl, rfl⟩

end Ledger.Simulated

namespace Client

open Plan Ledger

/-- No operation of the client retries or swallows a failure of the ledger: it ends with the first call
that is struck, and its result is that failure. A failure that strikes none of its calls changes
nothing. -/
theorem failures_surface {τ : Type} [Clock τ] (env : Env) :
    (∀ form, SurfacesFailures (τ := τ) (get env form)) ∧
    SurfacesFailures (τ := τ) (networkConfig env) ∧
    (∀ signer form, SurfacesFailures (τ := τ) (build env signer form)) ∧
    (∀ signer form, SurfacesFailures (τ := τ) (request env signer form)) ∧
    (∀ form (timeout interval : τ), SurfacesFailures (waitFor env form timeout interval)) ∧
    ∀ form randomness, SurfacesFailures (τ := τ) (verify env form randomness) :=
  ⟨fun _ => direct_get.surfacesFailures, direct_networkConfig.surfacesFailures,
    fun signer _ => (direct_build signer).surfacesFailures,
    fun signer _ => (direct_request signer).surfacesFailures,
    fun _ timeout interval => (direct_waitFor timeout interval).surfacesFailures,
    fun _ randomness => (direct_verify randomness).surfacesFailures⟩

/-- A crash of the ledger on the second poll ends a wait that would have polled three times. -/
theorem failures_surface_sample :
    let p := waitFor Sample.env (.address Sample.seed) (4 : Rat) 2
    let faults : Simulated.Faults := [(.accountData, .crash "down", some [2])]
    let run := p.run Simulated.model 0 (Simulated.State.empty.withFaults faults.assigned [])
    FirstStruck faults.assignment (fun _ => 0) (p.run Simulated.model 0 .empty).calls 1
      (.crash "down") ∧
    (p.run Simulated.model 0 .empty).calls.length = 3 ∧
    run.result = .error (.node ⟨.crash, "down"⟩) ∧
    run.calls = [.accountData Sample.address, .accountData Sample.address] := by
  intro p faults run
  have hplain : (p.run Simulated.model 0 .empty).calls = [.accountData Sample.address,
      .accountData Sample.address, .accountData Sample.address] := by decide +kernel
  have hfirst : FirstStruck faults.assignment (fun _ => 0) (p.run Simulated.model 0 .empty).calls 1
      (.crash "down") := by
    rw [hplain]
    refine ⟨rfl, fun i hi => ?_⟩
    obtain rfl : i = 0 := by omega
    rfl
  obtain ⟨-, -, -, -, hwait, -⟩ := failures_surface (τ := Rat) Sample.env
  have hends := (hwait (.address Sample.seed) 4 2).ends _ _ _ _ _ _ _ hfirst
  obtain ⟨hresult, hevents, -⟩ := Simulated.run_of_faults p faults 0 .empty
  refine ⟨hfirst, by rw [hplain]; rfl, hresult.trans hends.result_eq, ?_⟩
  have hcalls : run.calls = (p.run Simulated.model 0 .empty).calls.take 2 :=
    (congrArg (List.filterMap _) hevents).trans hends.calls_eq
  rw [hcalls, hplain]
  rfl

end Client

end VrfClient
