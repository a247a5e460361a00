import Mathlib.Data.Rat.Floor
import Mathlib.Tactic.Linarith
import VrfClient.Proofs.Lookup
import VrfClient.Proofs.Sequence

/-!
Waiting for a fulfilment. A poll asks one question and takes no time (`run_poll`), so a wait is a sequence
of questions an interval apart, and what they are answered is a property of the ledger alone (`answerAt`).
The budget of polls is only there to make the loop a recursion: with a positive interval it outlasts the
deadline, and every wait ends with a poll, either with what that poll makes of its answer or because the
next one would come after the deadline (`exists_last_poll`). A larger budget changes nothing
(`run_pollUntil_congr`). For a whole wait the deadline becomes a number of polls, `pollLimit`
(`exists_last_poll_within_limit`). -/

namespace VrfClient

namespace Client

open Plan

variable {τ σ α : Type} {env : Env} {seed : Seed} {address : Address}

/-! ### One poll -/

/-- What a poll makes of the answer to its question: a record counts once it is fulfilled. -/
def pollOutcome (address : Address) (seed : Seed) (answer : Except Error (Option Bytes)) :
    Except Error (Option Randomness) :=
  (lookupOutcome address seed answer).map fun found => found.2.filter Randomness.isFulfilled

/-- A lookup asks its question, and takes no time. -/
theorem run_lookup [Clock τ] (ha : env.randomnessAccount? seed = some address)
    (m : Model Ledger.service τ σ) (t : τ) (s : σ) :
    (lookup env seed).run m t s =
      ⟨lookupOutcome address seed (m.answer (.accountData address) t s).1,
        [.asked (.accountData address)], t, (m.answer (.accountData address) t s).2⟩ := by
  rw [lookup, randomnessAddress, ha]
  show (Ledger.accountData address >>= _).run m t s = _
  have hasked := run_call m (.accountData address) t s
  cases hanswer : (m.answer (.accountData address) t s).1 with
  | error e =>
    rw [hanswer] at hasked
    rw [Ledger.accountData, run_bind_error (by rw [hasked]), hasked]
    rfl
  | ok found =>
    rw [hanswer] at hasked
    rw [Ledger.accountData, run_bind_ok (by rw [hasked]), hasked]
    cases found with
    | none => rfl
    | some data =>
      cases hread : readRandomness address seed data with
      | error e =>
        simp only [lookupOutcome, hread]
        rfl
      | ok r =>
        simp only [lookupOutcome, hread]
        rfl

/-- What a poll tells about a lookup that found no fulfilled record. -/
def pollNotes (seed : Seed) : Except Error (Address × Option Randomness) → List Note
  | .error _ => []
  | .ok (_, none) => [.log .debug .requestor s!"Seed {seed.hex} not on chain yet"]
  | .ok (_, some r) =>
    if r.isFulfilled then [] else [.log .debug .requestor s!"Seed {seed.hex} still pending"]

/-- The events of a poll: its question, and what it tells about the answer. -/
def pollEvents (address : Address) (seed : Seed) (answer : Except Error (Option Bytes)) :
    List (Event Ledger.service τ) :=
  .asked (.accountData address) :: (pollNotes seed (lookupOutcome address seed answer)).map .told

/-- A poll asks for the account, tells what it found, and takes no time. -/
theorem run_poll [Clock τ] (ha : env.randomnessAccount? seed = some address)
    (m : Model Ledger.service τ σ) (t : τ) (s : σ) : (poll env seed).run m t s =
      ⟨pollOutcome address seed (m.answer (.accountData address) t s).1,
        pollEvents address seed (m.answer (.accountData address) t s).1, t,
        (m.answer (.accountData address) t s).2⟩ := by
  have hlookup := run_lookup ha m t s
  unfold poll pollOutcome pollEvents
  cases ho : lookupOutcome address seed (m.answer (.accountData address) t s).1 with
  | error e =>
    rw [ho] at hlookup
    rw [run_bind_error (by rw [hlookup]), hlookup]
    rfl
  | ok found =>
    rw [ho] at hlookup
    rw [run_bind_ok (by rw [hlookup]), hlookup]
    obtain ⟨a, found⟩ := found
    match found with
    | none => rfl
    | some r =>
      cases hr : r.isFulfilled with
      | true =>
        simp only [hr, if_true, Except.map, Option.filter, pollNotes]
        rfl
      | false =>
        simp only [hr, Except.map, Option.filter, pollNotes]
        rfl

/-! ### Questions an interval apart -/

section Schedule

variable {m : Model Ledger.service Rat σ} {interval t : Rat}

/-- What a ledger that is asked for an account at once, and again after every interval, answers the `k`-th
time, counted from zero. -/
def answerAt (m : Model Ledger.service Rat σ) (address : Address) (interval : Rat) :
    Nat → Rat → σ → Except Error (Option Bytes)
  | 0, t, s => (m.answer (.accountData address) t s).1
  | k + 1, t, s =>
    answerAt m address interval k (t + interval) (m.answer (.accountData address) t s).2

/-- That answer is given so many intervals later. -/
theorem exists_later_answerAt (m : Model Ledger.service Rat σ) (address : Address) (interval : Rat)
    (k : Nat) : ∀ (t : Rat) (s : σ), ∃ s', Later m t s (t + k * interval) s' ∧
      (m.answer (.accountData address) (t + k * interval) s').1 =
        answerAt m address interval k t s := by
  induction k with
  | zero =>
    intro t s
    have htime : t + (0 : Nat) * interval = t := by simp
    rw [htime]
    exact ⟨s, .refl t s, rfl⟩
  | succ k ih =>
    intro t s
    obtain ⟨s', hlater, hanswer⟩ := ih (t + interval) (m.answer (.accountData address) t s).2
    have htime : t + interval + k * interval = t + (k + 1 : Nat) * interval := by
      push_cast
      ring
    rw [htime] at hlater hanswer
    exact ⟨s', .asked _ (.waited interval hlater), hanswer⟩

/-- Where the data of an account depends on the time only, the polls find it as it is at their instants. -/
theorem answerAt_of_changing {account : Rat → Option Bytes}
    (h : ∀ t s, (m.answer (.accountData address) t s).1 = .ok (account t)) (interval : Rat) (k : Nat)
    (t : Rat) (s : σ) : answerAt m address interval k t s = .ok (account (t + k * interval)) := by
  obtain ⟨s', -, hanswer⟩ := exists_later_answerAt m address interval k t s
  rw [← hanswer, h]

/-- The questions among events, each with the instant at which it is asked: nothing but sleep takes
time. -/
def instants {S : Service} : List (Event S Rat) → Rat → List (Rat × S.Call)
  | [], _ => []
  | .asked c :: events, t => (t, c) :: instants events t
  | .told _ :: events, t => instants events t
  | .slept d :: events, t => instants events (t + d)

theorem instants_told {S : Service} (events : List (Event S Rat)) (t : Rat) : ∀ notes : List Note,
    instants (notes.map .told ++ events) t = instants events t
  | [] => rfl
  | _ :: notes => instants_told events t notes

/-- They are the questions of a run. -/
theorem calls_eq_instants {S : Service} (t : Rat) : ∀ events : List (Event S Rat),
    events.filterMap Event.call? = (instants events t).map Prod.snd
  | [] => rfl
  | .asked c :: events => congrArg (c :: ·) (calls_eq_instants t events)
  | .told _ :: events => calls_eq_instants t events
  | .slept d :: events => calls_eq_instants (t + d) events

/-- A run asks for an account at once and after each of so many sleeps of an interval, and for nothing
else. -/
structure PollsAt (address : Address) (interval t : Rat) (last : Nat)
    (r : Run Ledger.service Rat σ α) : Prop where
  instants_eq : instants r.events t =
    (List.range (last + 1)).map fun k : Nat => (t + k * interval, .accountData address)
  sleeps_eq : r.sleeps = List.replicate last interval
  clock_eq : r.clock = t + last * interval

theorem PollsAt.calls_eq {last : Nat} {r : Run Ledger.service Rat σ α}
    (h : PollsAt address interval t last r) :
    r.calls = List.replicate (last + 1) (.accountData address) := by
  rw [Run.calls_eq, calls_eq_instants t, h.instants_eq, List.map_map]
  exact List.eq_replicate_iff.2 ⟨by simp, by simp⟩

theorem pollsAt_zero (answer : Except Error (Option Bytes)) (result : Except Error α) (s : σ) :
    PollsAt address interval t 0 ⟨result, pollEvents address seed answer, t, s⟩ where
  instants_eq := by
    have htold := instants_told (S := Ledger.service) [] t
      (pollNotes seed (lookupOutcome address seed answer))
    rw [List.append_nil] at htold
    simp [pollEvents, instants, htold]
  sleeps_eq := by
    simp [Run.sleeps, pollEvents]
  clock_eq := by simp

/-- A poll and a sleep in front put off the rest by an interval. -/
theorem PollsAt.behind {last : Nat} {r : Run Ledger.service Rat σ α}
    (h : PollsAt address interval (t + interval) last r) (answer : Except Error (Option Bytes)) :
    PollsAt address interval t (last + 1)
      (r.behind (pollEvents address seed answer ++ [.slept interval])) where
  instants_eq := by
    have hput_off : ∀ k : Nat, t + interval + k * interval = t + (k + 1 : Nat) * interval := by
      intro k
      push_cast
      ring
    have hrest := h.instants_eq
    simp only [hput_off] at hrest
    simp only [Run.behind, pollEvents, List.append_assoc, List.cons_append, instants, instants_told,
      List.nil_append, hrest]
    rw [List.range_succ_eq_map (n := last + 1), List.map_cons, List.map_map]
    simp
  sleeps_eq := by
    have hrest := h.sleeps_eq
    simp only [Run.sleeps] at hrest
    simp [Run.sleeps, Run.behind, pollEvents, hrest, List.replicate_succ]
  clock_eq := by
    have hclock : r.clock = t + interval + last * interval := h.clock_eq
    show r.clock = t + (last + 1 : Nat) * interval
    rw [hclock]
    push_cast
    ring

end Schedule

/-! ### Polls until the deadline -/

section Waiting

variable {m : Model Ledger.service Rat σ} {interval deadline : Rat}

/-- What a wait makes of the outcome of its last poll. -/
def waitOutcome (seed : Seed) (timeout : Rat) (found : Except Error (Option Randomness)) :
    Except Error Randomness :=
  found.bind fun r => r.elim (.error (.notFulfilledInTime seed (Clock.text timeout))) .ok

theorem isAfter_add_iff {a b d : Rat} : Clock.isAfter (Clock.add a d) b = true ↔ b < a + d :=
  decide_eq_true_iff

/-- A poll that fails or finds the record ends the wait, and so does one whose successor would be
late. -/
theorem run_pollUntil_last (ha : env.randomnessAccount? seed = some address) (timeout : Rat)
    (count : Nat) {t : Rat} {s : σ}
    (h : pollOutcome address seed (m.answer (.accountData address) t s).1 = .ok none →
      deadline < t + interval) :
    (pollUntil env seed timeout interval deadline (count + 1)).run m t s =
      ⟨waitOutcome seed timeout (pollOutcome address seed (m.answer (.accountData address) t s).1),
        pollEvents address seed (m.answer (.accountData address) t s).1, t,
        (m.answer (.accountData address) t s).2⟩ := by
  have hpoll := run_poll ha m t s
  rw [pollUntil]
  cases ho : pollOutcome address seed (m.answer (.accountData address) t s).1 with
  | error e =>
    rw [ho] at hpoll
    rw [run_bind_error (by rw [hpoll]), hpoll]
    rfl
  | ok found =>
    rw [ho] at hpoll
    rw [run_bind_ok (by rw [hpoll]), hpoll]
    match found with
    | some r => exact Run.behind_done _ _ _ _
    | none =>
      show (Plan.run m (ite (Clock.isAfter (Clock.add t interval) deadline) _ _) t _).behind _ = _
      rw [if_pos (isAfter_add_iff.2 (h ho))]
      exact Run.behind_done _ _ _ _

/-- A poll that finds nothing, with time left, is followed by the interval and the rest of the wait. -/
theorem run_pollUntil_next (ha : env.randomnessAccount? seed = some address) (timeout : Rat)
    (count : Nat) {t : Rat} {s : σ}
    (h : pollOutcome address seed (m.answer (.accountData address) t s).1 = .ok none)
    (htime : t + interval ≤ deadline) :
    (pollUntil env seed timeout interval deadline (count + 1)).run m t s =
      ((pollUntil env seed timeout interval deadline count).run m (t + interval)
        (m.answer (.accountData address) t s).2).behind
          (pollEvents address seed (m.answer (.accountData address) t s).1 ++ [.slept interval]) := by
  have hpoll := run_poll ha m t s
  rw [h] at hpoll
  rw [pollUntil, run_bind_ok (by rw [hpoll]), hpoll]
  show (Plan.run m (ite (Clock.isAfter (Clock.add t interval) deadline) _ _) t _).behind _ = _
  rw [if_neg (mt isAfter_add_iff.1 (not_lt.2 htime))]
  show Run.behind (pollEvents address seed _) (Run.after (.slept interval) _) = _
  simp only [Run.behind, Run.after, List.append_assoc, List.singleton_append]
  rfl

/-- A budget that reaches beyond the deadline reaches beyond it after one interval and one poll less. -/
theorem budget_step {count : Nat} {t : Rat} (h : deadline < t + (count + 1 + 1 : Nat) * interval) :
    deadline < t + interval + (count + 1 : Nat) * interval := by
  rw [Nat.cast_succ (count + 1), add_mul, one_mul] at h
  linarith

/-- Budgets that reach beyond the deadline give the same run. -/
theorem run_pollUntil_congr (ha : env.randomnessAccount? seed = some address) (timeout : Rat)
    (count : Nat) : ∀ (count' : Nat) (t : Rat) (s : σ), deadline < t + (count + 1 : Nat) * interval →
      deadline < t + (count' + 1 : Nat) * interval →
      (pollUntil env seed timeout interval deadline (count + 1)).run m t s =
        (pollUntil env seed timeout interval deadline (count' + 1)).run m t s := by
  -- A poll that ends the wait ends it under both budgets, and after any other both have one poll less.
  induction count with
  | zero =>
    intro count' t s hbudget _
    have hlate : deadline < t + interval := by simpa using hbudget
    rw [run_pollUntil_last ha timeout 0 fun _ => hlate,
      run_pollUntil_last ha timeout count' fun _ => hlate]
  | succ count ih =>
    intro count' t s hbudget hbudget'
    by_cases hlast : pollOutcome address seed (m.answer (.accountData address) t s).1 = .ok none →
        deadline < t + interval
    · rw [run_pollUntil_last ha timeout (count + 1) hlast, run_pollUntil_last ha timeout count' hlast]
    · obtain ⟨hnothing, htime⟩ := Classical.not_imp.1 hlast
      cases count' with
      | zero => exact absurd (by simpa using hbudget') htime
      | succ count' =>
        rw [run_pollUntil_next ha timeout (count + 1) hnothing (not_lt.1 htime),
          run_pollUntil_next ha timeout (count' + 1) hnothing (not_lt.1 htime),
          ih count' _ _ (budget_step hbudget) (budget_step hbudget')]

/-- A wait whose budget of polls reaches beyond the deadline polls on schedule, and ends with a poll: the
first one, or one before the deadline. The polls before have found nothing, the last one has its outcome;
where it finds nothing too, the next poll would come after the deadline. -/
theorem exists_last_poll (ha : env.randomnessAccount? seed = some address) (timeout : Rat)
    (count : Nat) :
    ∀ (t : Rat) (s : σ), deadline < t + (count + 1 : Nat) * interval → ∃ last : Nat,
      PollsAt address interval t last
        ((pollUntil env seed timeout interval deadline (count + 1)).run m t s) ∧
      (last = 0 ∨ t + last * interval ≤ deadline) ∧
      (∀ k < last, pollOutcome address seed (answerAt m address interval k t s) = .ok none) ∧
      (pollOutcome address seed (answerAt m address interval last t s) = .ok none →
        deadline < t + (last + 1 : Nat) * interval) ∧
      ((pollUntil env seed timeout interval deadline (count + 1)).run m t s).result =
        waitOutcome seed timeout
          (pollOutcome address seed (answerAt m address interval last t s)) := by
  -- Each round moves the start by an interval and takes one poll off the budget, so the budget still
  -- reaches beyond the deadline; with one poll left, the next would be late.
  induction count with
  | zero =>
    intro t s hbudget
    have hlate : deadline < t + interval := by simpa using hbudget
    rw [run_pollUntil_last (m := m) (s := s) ha timeout 0 fun _ => hlate]
    exact ⟨0, pollsAt_zero _ _ _, .inl rfl, by simp, fun _ => by simpa using hlate, rfl⟩
  | succ count ih =>
    intro t s hbudget
    by_cases hlast : pollOutcome address seed (m.answer (.accountData address) t s).1 = .ok none →
        deadline < t + interval
    · rw [run_pollUntil_last ha timeout (count + 1) hlast]
      exact ⟨0, pollsAt_zero _ _ _, .inl rfl, by simp, fun hnone => by simpa using hlast hnone, rfl⟩
    · obtain ⟨hnothing, htime⟩ := Classical.not_imp.1 hlast
      have htime := not_lt.1 htime
      obtain ⟨last, hpolls, hwhen, hbefore, hlate, hresult⟩ :=
        ih (t + interval) (m.answer (.accountData address) t s).2 (budget_step hbudget)
      have hput_off : ∀ k : Nat, t + interval + k * interval = t + (k + 1 : Nat) * interval := by
        intro k
        push_cast
        ring
      simp only [hput_off] at hwhen hlate
      rw [run_pollUntil_next ha timeout (count + 1) hnothing htime]
      refine ⟨last + 1, hpolls.behind _, .inr ?_, ?_, hlate, hresult⟩
      · rcases hwhen with rfl | hwhen
        · simpa using htime
        · exact hwhen
      · intro k hk
        cases k with
        | zero => exact hnothing
        | succ k => exact hbefore k (by omega)

/-- A poll at once, and one for each whole interval within the timeout. -/
def pollLimit (timeout interval : Rat) : Nat := (max 0 (timeout / interval).floor).toNat + 1

theorem exists_pollLimit_eq (timeout interval : Rat) : ∃ count, pollLimit timeout interval = count + 1 :=
  ⟨_, rfl⟩

/-- There is room for another poll exactly if its instant is within the timeout. -/
theorem succ_lt_pollLimit_iff {timeout : Rat} (hinterval : 0 < interval) {k : Nat} :
    k + 1 < pollLimit timeout interval ↔ (k + 1 : Nat) * interval ≤ timeout := by
  have hfloor : k + 1 < pollLimit timeout interval ↔
      ((k + 1 : Nat) : Int) ≤ (timeout / interval).floor := by
    unfold pollLimit
    omega
  rw [hfloor, Rat.le_floor_iff, le_div_iff₀ hinterval]
  rfl

/-- A budget of at least so many polls outlasts the timeout. -/
theorem timeout_lt_of_pollLimit_le {timeout : Rat} (hinterval : 0 < interval) {count : Nat}
    (h : pollLimit timeout interval ≤ count + 1) : timeout < (count + 1 : Nat) * interval := by
  refine lt_of_not_ge fun hle => ?_
  have hroom := (succ_lt_pollLimit_iff hinterval).2 hle
  omega

/-- The instant of a poll within the limit is within the timeout, unless that is negative. -/
theorem mul_le_of_lt_pollLimit {timeout : Rat} (hinterval : 0 < interval) {k : Nat}
    (h : k < pollLimit timeout interval) : k * interval ≤ max 0 timeout := by
  cases k with
  | zero => simp
  | succ k => exact ((succ_lt_pollLimit_iff hinterval).1 h).trans (le_max_right 0 timeout)

/-- A wait for a seed polls until the deadline that its timeout sets, with the limit as its budget. -/
theorem run_waitFor {form : SeedForm} (hform : form.resolve = .ok seed) (timeout interval : Rat)
    (m : Model Ledger.service Rat σ) (t : Rat) (s : σ) :
    (waitFor env form timeout interval).run m t s = (pollUntil env seed timeout interval
      (t + timeout) (pollLimit timeout interval)).run m t s := by
  have hpolls : Clock.polls timeout interval = pollLimit timeout interval := by
    show (timeout / interval).floor.toNat + 1 = _
    unfold pollLimit
    omega
  rw [waitFor, resolve, hform, hpolls]
  rfl

/-- A wait for a seed ends with a poll within the limit: the polls before have found nothing, and the outcome
of the last is that of the wait. Where it finds nothing too, it is the last within the limit. -/
theorem exists_last_poll_within_limit {form : SeedForm} (hform : form.resolve = .ok seed)
    (ha : env.randomnessAccount? seed = some address) (timeout : Rat) (hinterval : 0 < interval)
    (m : Model Ledger.service Rat σ) (t : Rat) (s : σ) :
    ∃ last, PollsAt address interval t last ((waitFor env form timeout interval).run m t s) ∧
      last < pollLimit timeout interval ∧
      (∀ k < last, pollOutcome address seed (answerAt m address interval k t s) = .ok none) ∧
      (pollOutcome address seed (answerAt m address interval last t s) = .ok none →
        last + 1 = pollLimit timeout interval) ∧
      ((waitFor env form timeout interval).run m t s).result = waitOutcome seed timeout
        (pollOutcome address seed (answerAt m address interval last t s)) := by
  obtain ⟨count, hlimit⟩ := exists_pollLimit_eq timeout interval
  have hbudget : t + timeout < t + (count + 1 : Nat) * interval :=
    add_lt_add_right (timeout_lt_of_pollLimit_le hinterval hlimit.le) t
  obtain ⟨last, hpolls, hwhen, hbefore, hlate, hresult⟩ :=
    exists_last_poll (m := m) ha timeout count t s hbudget
  have hwithin : last < pollLimit timeout interval := by
    cases last with
    | zero => exact hlimit ▸ count.succ_pos
    | succ k =>
      have htime := hwhen.resolve_left k.succ_ne_zero
      exact (succ_lt_pollLimit_iff hinterval).2 (le_of_add_le_add_left htime)
  rw [run_waitFor hform, hlimit]
  refine ⟨last, hpolls, hlimit ▸ hwithin, hbefore, fun hnothing => ?_, hresult⟩
  have hfull : ¬ last + 1 < pollLimit timeout interval :=
    mt (succ_lt_pollLimit_iff hinterval).1 (not_le.2 (lt_of_add_lt_add_left (hlate hnothing)))
  omega

/-- Waiting for a seed ends with a poll, at its instant, which is not after the deadline unless the
timeout is negative. Its outcome is that of the wait; where it finds nothing, the next poll would come
after the deadline. -/
theorem exists_last_poll_of_wait {form : SeedForm} (hform : form.resolve = .ok seed)
    (ha : env.randomnessAccount? seed = some address) (timeout : Rat) (hinterval : 0 < interval)
    (m : Model Ledger.service Rat σ) (t : Rat) (s : σ) :
    ∃ t' s', Later m t s t' s' ∧ t' ≤ t + max 0 timeout ∧
      (pollOutcome address seed (m.answer (.accountData address) t' s').1 = .ok none →
        t + timeout < t' + interval) ∧
      ((waitFor env form timeout interval).run m t s).clock = t' ∧
      ((waitFor env form timeout interval).run m t s).result = waitOutcome seed timeout
        (pollOutcome address seed (m.answer (.accountData address) t' s').1) := by
  obtain ⟨last, hpolls, hwithin, -, hlate, hresult⟩ :=
    exists_last_poll_within_limit hform ha timeout hinterval m t s
  obtain ⟨s', hlater, hanswer⟩ := exists_later_answerAt m address interval last t s
  rw [← hanswer] at hlate hresult
  refine ⟨_, s', hlater, ?_, fun hnothing => ?_, hpolls.clock_eq, hresult⟩
  · exact add_le_add_right (mul_le_of_lt_pollLimit hinterval hwithin) t
  · have hnext : timeout < (last + 1 : Nat) * interval :=
      timeout_lt_of_pollLimit_le hinterval (hlate hnothing).ge
    rw [Nat.cast_succ, add_mul, one_mul] at hnext
    linarith

end Waiting

end Client

end VrfClient
