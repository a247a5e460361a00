import VrfClient.Proofs.Polling
import VrfClient.Proofs.Verification

/-!
The schedule of a wait. Where no question fails, what the polls of a wait would find is a sequence of account
data, one for each interval, and the accounts may change in between in any way. The wait goes through this
sequence until a poll finds a fulfilled record of the seed, or data that holds no record of it, but not beyond
the `pollLimit`: a poll at once and one for each whole interval within the timeout
(`succ_lt_pollLimit_iff`). So the first poll that does not find the seed pending decides, and the wait gives
up exactly if there is none within the limit. -/

namespace VrfClient

namespace Client

open Plan

variable {σ : Type} {env : Env} {seed : Seed} {address : Address}

/-! ### What a poll finds -/

section Found

variable {found : Option Bytes}

/-- There is nothing to return yet: no account, or a record of the seed that is not fulfilled. -/
def Pending (seed : Seed) (found : Option Bytes) : Prop :=
  ∀ data ∈ found, ∃ r, Randomness.decode data = .ok r ∧ r.seed = seed.bytes ∧ r.isFulfilled = false

/-- The account holds this record, which is fulfilled and of the seed. -/
def Final (seed : Seed) (r : Randomness) (found : Option Bytes) : Prop :=
  ∃ data ∈ found, Randomness.decode data = .ok r ∧ r.seed = seed.bytes ∧ r.isFulfilled = true

/-- The account is at fault: it holds no record, or one of another seed. -/
def Faulty (address : Address) (seed : Seed) (fault : DecodeError) (found : Option Bytes) : Prop :=
  ∃ data ∈ found, Randomness.decode data = .error fault ∨
    ∃ r, Randomness.decode data = .ok r ∧ r.seed ≠ seed.bytes ∧
      fault = .foreignSeed address r.seed seed

/-- An account shows one of the three. -/
theorem pending_or_final_or_faulty (address : Address) (seed : Seed) (found : Option Bytes) :
    Pending seed found ∨ (∃ r, Final seed r found) ∨ ∃ fault, Faulty address seed fault found := by
  cases found with
  | none => exact .inl (by simp [Pending])
  | some data =>
    cases hread : Randomness.decode data with
    | error fault => exact .inr (.inr ⟨fault, data, rfl, .inl hread⟩)
    | ok r =>
      by_cases hseed : r.seed = seed.bytes
      · cases hfulfilled : r.isFulfilled with
        | false =>
          refine .inl ?_
          rintro data ⟨⟩
          exact ⟨r, hread, hseed, hfulfilled⟩
        | true => exact .inr (.inl ⟨r, data, rfl, hread, hseed, hfulfilled⟩)
      · exact .inr (.inr ⟨_, data, rfl, .inr ⟨r, hread, hseed, rfl⟩⟩)

theorem pollOutcome_of_pending (h : Pending seed found) :
    pollOutcome address seed (.ok found) = .ok none := by
  cases found with
  | none => rfl
  | some data =>
    obtain ⟨r, hread, hseed, hpending⟩ := h data rfl
    have hrecord : readRandomness address seed data = .ok r :=
      readRandomness_eq_ok_iff.2 ⟨hread, hseed⟩
    simp [pollOutcome, lookupOutcome, hrecord, Except.map, Option.filter, hpending]

theorem pollOutcome_of_final {r : Randomness} (h : Final seed r found) :
    pollOutcome address seed (.ok found) = .ok (some r) := by
  obtain ⟨data, rfl, hread, hseed, hfulfilled⟩ := h
  have hrecord : readRandomness address seed data = .ok r :=
    readRandomness_eq_ok_iff.2 ⟨hread, hseed⟩
  simp [pollOutcome, lookupOutcome, hrecord, Except.map, Option.filter, hfulfilled]

theorem pollOutcome_of_faulty {fault : DecodeError} (h : Faulty address seed fault found) :
    pollOutcome address seed (.ok found) = .error (.decode fault) := by
  obtain ⟨data, rfl, hfault⟩ := h
  have hrefused : readRandomness address seed data = .error (.decode fault) := by
    rcases hfault with hread | ⟨r, hread, hseed, rfl⟩
    · rw [readRandomness, hread]
      rfl
    · rw [readRandomness, hread]
      exact if_neg hseed
  simp [pollOutcome, lookupOutcome, hrefused, Except.map]

/-- A poll finds nothing exactly if the seed is pending. -/
theorem pollOutcome_eq_none_iff :
    pollOutcome address seed (.ok found) = .ok none ↔ Pending seed found := by
  refine ⟨fun h => ?_, pollOutcome_of_pending⟩
  rcases pending_or_final_or_faulty address seed found with hpending | ⟨r, hfinal⟩ | ⟨fault, hfaulty⟩
  · exact hpending
  · rw [pollOutcome_of_final hfinal] at h
    cases h
  · rw [pollOutcome_of_faulty hfaulty] at h
    cases h

theorem Final.not_pending {r : Randomness} (h : Final seed r found) : ¬ Pending seed found := by
  intro hpending
  have hnone : pollOutcome (Octets.zero 32) seed (.ok found) = .ok none := pollOutcome_of_pending hpending
  rw [pollOutcome_of_final h] at hnone
  cases hnone

theorem Faulty.not_pending {fault : DecodeError} (h : Faulty address seed fault found) :
    ¬ Pending seed found := by
  intro hpending
  have hnone : pollOutcome address seed (.ok found) = .ok none := pollOutcome_of_pending hpending
  rw [pollOutcome_of_faulty h] at hnone
  cases hnone

end Found

/-! ### The wait -/

section Waiting

variable {m : Model Ledger.service Rat σ} {timeout interval t : Rat} {s : σ}
  {found : Nat → Option Bytes}

/-- How a wait goes that starts at `t` and whose polls would find this: it polls on schedule and within the
limit, sleeps no longer than the timeout, passes over a pending seed as long as the limit allows, and makes
the last poll's outcome its own. -/
structure WaitsOnSchedule (address : Address) (seed : Seed) (timeout interval t : Rat)
    (found : Nat → Option Bytes) (r : Run Ledger.service Rat σ Randomness) (last : Nat) : Prop where
  polls : PollsAt address interval t last r
  calls_eq : r.calls = List.replicate (last + 1) (.accountData address)
  last_lt : last < pollLimit timeout interval
  slept_le : r.sleeps.sum ≤ max 0 timeout
  before : ∀ k < last, Pending seed (found k)
  exhausted : Pending seed (found last) → last + 1 = pollLimit timeout interval
  result_eq : r.result = waitOutcome seed timeout (pollOutcome address seed (.ok (found last)))

/-- With a positive interval a wait goes like this. -/
theorem exists_waitsOnSchedule {form : SeedForm} (hform : form.resolve = .ok seed)
    (ha : env.randomnessAccount? seed = some address) (timeout : Rat) (hinterval : 0 < interval)
    (hfound : ∀ k, answerAt m address interval k t s = .ok (found k)) :
    ∃ last, WaitsOnSchedule address seed timeout interval t found
      ((waitFor env form timeout interval).run m t s) last := by
  obtain ⟨last, hpolls, hwithin, hbefore, hlate, hresult⟩ :=
    exists_last_poll_within_limit hform ha timeout hinterval m t s
  simp only [hfound, pollOutcome_eq_none_iff] at hbefore hlate hresult
  refine ⟨last, hpolls, hpolls.calls_eq, hwithin, ?_, hbefore, hlate, hresult⟩
  rw [hpolls.sleeps_eq, List.sum_replicate, nsmul_eq_mul]
  exact mul_le_of_lt_pollLimit hinterval hwithin

namespace WaitsOnSchedule

variable {r : Run Ledger.service Rat σ Randomness} {last k : Nat}

/-- The first poll within the limit that does not find the seed pending is the last. -/
theorem last_eq (h : WaitsOnSchedule address seed timeout interval t found r last)
    (hk : k < pollLimit timeout interval) (hfirst : ∀ j < k, Pending seed (found j))
    (hnot : ¬ Pending seed (found k)) : last = k := by
  rcases Nat.lt_trichotomy last k with hlt | heq | hgt
  · -- The last poll found the seed pending, so there is no room for the one at `k`.
    have hfull := h.exhausted (hfirst last hlt)
    omega
  · exact heq
  · exact absurd (h.before k hgt) hnot

theorem result_of_final (h : WaitsOnSchedule address seed timeout interval t found r last)
    {record : Randomness} (hfinal : Final seed record (found last)) : r.result = .ok record := by
  rw [h.result_eq, pollOutcome_of_final hfinal]
  rfl

theorem result_of_faulty (h : WaitsOnSchedule address seed timeout interval t found r last)
    {fault : DecodeError} (hfaulty : Faulty address seed fault (found last)) :
    r.result = .error (.decode fault) := by
  rw [h.result_eq, pollOutcome_of_faulty hfaulty]
  rfl

theorem result_of_pending (h : WaitsOnSchedule address seed timeout interval t found r last)
    (hpending : Pending seed (found last)) :
    r.result = .error (.notFulfilledInTime seed (Clock.text timeout)) := by
  rw [h.result_eq, pollOutcome_of_pending hpending]
  rfl

/-- A wait gives up exactly if every poll within the limit finds the seed pending. -/
theorem gaveUp_iff (h : WaitsOnSchedule address seed timeout interval t found r last) :
    r.result = .error (.notFulfilledInTime seed (Clock.text timeout)) ↔
      ∀ k < pollLimit timeout interval, Pending seed (found k) := by
  refine ⟨fun hgaveUp k hk => ?_, fun hpending => h.result_of_pending (hpending last h.last_lt)⟩
  -- The other two outcomes of the last poll are not given up.
  have hlast : Pending seed (found last) := by
    rcases pending_or_final_or_faulty address seed (found last) with
      hpending | ⟨record, hfinal⟩ | ⟨fault, hfaulty⟩
    · exact hpending
    · cases hgaveUp.symm.trans (h.result_of_final hfinal)
    · cases hgaveUp.symm.trans (h.result_of_faulty hfaulty)
  have hfull := h.exhausted hlast
  rcases Nat.lt_succ_iff_lt_or_eq.1 (hfull ▸ hk) with hlt | rfl
  · exact h.before k hlt
  · exact hlast

end WaitsOnSchedule

/-- A wait ends: it polls on schedule, within the limit and without sleeping beyond the timeout; the first
poll within the limit that finds a fulfilled record of the seed, or data that holds none, is the last and
decides; and it gives up exactly if no poll within the limit does. That it takes no more polls is not due to
its budget, since a larger one changes nothing. -/
theorem wait_on_schedule {form : SeedForm} (hform : form.resolve = .ok seed)
    (ha : env.randomnessAccount? seed = some address) (timeout : Rat) (hinterval : 0 < interval)
    (hfound : ∀ k, answerAt m address interval k t s = .ok (found k)) :
    (∃ last, WaitsOnSchedule address seed timeout interval t found
        ((waitFor env form timeout interval).run m t s) last ∧
      ∀ k < pollLimit timeout interval, (∀ j < k, Pending seed (found j)) →
        (∀ record, Final seed record (found k) → last = k ∧
          ((waitFor env form timeout interval).run m t s).result = .ok record) ∧
        (∀ fault, Faulty address seed fault (found k) → last = k ∧
          ((waitFor env form timeout interval).run m t s).result = .error (.decode fault))) ∧
    (((waitFor env form timeout interval).run m t s).result =
        .error (.notFulfilledInTime seed (Clock.text timeout)) ↔
      ∀ k < pollLimit timeout interval, Pending seed (found k)) ∧
    ∀ count, pollLimit timeout interval ≤ count →
      (pollUntil env seed timeout interval (t + timeout) count).run m t s =
        (waitFor env form timeout interval).run m t s := by
  obtain ⟨last, hwaits⟩ := exists_waitsOnSchedule hform ha timeout hinterval hfound
  refine ⟨⟨last, hwaits, ?_⟩, hwaits.gaveUp_iff, ?_⟩
  · intro k hk hfirst
    constructor
    · intro record hfinal
      obtain rfl := hwaits.last_eq hk hfirst hfinal.not_pending
      exact ⟨rfl, hwaits.result_of_final hfinal⟩
    · intro fault hfaulty
      obtain rfl := hwaits.last_eq hk hfirst hfaulty.not_pending
      exact ⟨rfl, hwaits.result_of_faulty hfaulty⟩
  · intro count hcount
    obtain ⟨limit, hlimit⟩ := exists_pollLimit_eq timeout interval
    obtain ⟨more, rfl⟩ : ∃ more, count = more + 1 := ⟨count - 1, by omega⟩
    rw [run_waitFor hform, hlimit]
    exact run_pollUntil_congr ha timeout more limit t s
      (add_lt_add_right (timeout_lt_of_pollLimit_le hinterval hcount) t)
      (add_lt_add_right (timeout_lt_of_pollLimit_le hinterval hlimit.le) t)

end Waiting

end Client

/-! ### An instance -/

namespace Sample

open Client

/-- The record before the fulfilment. -/
def pendingRecord : Randomness := ⟨seed.bytes, none, .pending⟩

def pendingData : Bytes :=
  Randomness.discriminator ++ (pendingRecord.seed ++ Randomness.tagged pendingRecord.randomness ++ [0])

/-- The account over time: it is opened after three seconds and fulfilled after seven. -/
def account (t : Rat) : Option Bytes :=
  if t < 3 then none else if t < 7 then some pendingData else some data

/-- A ledger with this account for every address. -/
def changing : Model Ledger.service Rat Unit :=
  ⟨fun c t s => (.ok (match c with
    | .accountData _ => account t
    | c => view c), s)⟩

theorem pending_account {t : Rat} (ht : t < 7) : Pending seed (account t) := by
  have hencoded : pendingRecord.encode = .ok pendingData :=
    Randomness.encode_eq_ok_iff.2 ⟨⟨rfl, by simp [pendingRecord]⟩, rfl⟩
  have hread : Randomness.decode pendingData = .ok pendingRecord :=
    Randomness.decode_eq_ok_iff.2 ⟨_, hencoded, List.prefix_rfl⟩
  intro bs hbs
  by_cases hopened : t < 3
  · simp [account, hopened] at hbs
  · obtain rfl : pendingData = bs := by simpa [account, hopened, ht] using hbs
    exact ⟨pendingRecord, hread, rfl, rfl⟩

theorem final_account {t : Rat} (ht : 7 ≤ t) : Final seed record (account t) := by
  have hread : Randomness.decode data = .ok record :=
    Randomness.decode_eq_ok_iff.2 ⟨_, encode_record, List.prefix_rfl⟩
  have hopened : ¬ t < 3 := by linarith
  exact ⟨data, by simp [account, hopened, not_lt.2 ht], hread, rfl, rfl⟩

end Sample

namespace Client

/-- With polls every two seconds, the fifth finds the record. -/
theorem wait_on_schedule_sample :
    PollsAt Sample.address 2 0 4
      ((waitFor Sample.env (.address Sample.seed) 10 2).run Sample.changing 0 ()) ∧
    ((waitFor Sample.env (.address Sample.seed) 10 2).run Sample.changing 0 ()).result =
      .ok Sample.record := by
  have hfound : ∀ k, answerAt Sample.changing Sample.address 2 k 0 () =
      .ok (Sample.account (0 + k * 2)) :=
    fun k => answerAt_of_changing (fun _ _ => rfl) 2 k 0 ()
  obtain ⟨⟨last, hwaits, hdecides⟩, -, -⟩ :=
    wait_on_schedule Sample.resolve_eq Sample.randomnessAccount_eq 10 (by norm_num) hfound
  have hroom : 4 < pollLimit 10 2 := (succ_lt_pollLimit_iff (by norm_num)).2 (by norm_num)
  have hpending : ∀ j < 4, Pending Sample.seed (Sample.account (0 + (j : Nat) * 2)) := by
    intro j hj
    have hle : (j : Rat) ≤ 3 := by exact_mod_cast Nat.le_of_lt_succ hj
    exact Sample.pending_account (by linarith)
  obtain ⟨rfl, hresult⟩ := (hdecides 4 hroom hpending).1 _ (Sample.final_account (by norm_num))
  exact ⟨hwaits.polls, hresult⟩

end Client

end VrfClient
