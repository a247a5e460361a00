import VrfClient.Proofs.Polling
import VrfClient.Proofs.Regular
import VrfClient.Proofs.SignedRequest
import VrfClient.Proofs.Verification

/-!
The errors of the client. Against a regular ledger every operation gives a value or ends with one of its
own errors, whatever bytes the accounts hold: `Outcomes` says which. Reading accounts fails in transport or
in decoding. On well-shaped transactions inspection never fails, so the scan ends with a transaction or an
error of its own, and the search for a key with evidence or the lack of it. Each operation adds the one
error that says that nothing is there. -/

namespace VrfClient

/-! ### How a result ends -/

/-- A result with a value of one kind, or an error of one kind. -/
def Ends {α : Type} (value : α → Prop) (failure : Error → Prop) : Except Error α → Prop
  | .ok a => value a
  | .error e => failure e

section Ends

variable {α β : Type} {P : α → Prop} {Q : β → Prop} {F G : Error → Prop} {r : Except Error α}

theorem Ends.failing (h : Ends P F r) (hfailure : ∀ e, F e → G e) : Ends P G r := by
  cases r with
  | ok a => exact h
  | error e => exact hfailure e h

theorem Ends.bind {f : α → Except Error β} (h : Ends P F r) (hf : ∀ a, P a → Ends Q F (f a)) :
    Ends Q F (r.bind f) := by
  cases r with
  | ok a => exact hf a h
  | error e => exact h

theorem Ends.map {f : α → β} (h : Ends P F r) (hf : ∀ a, P a → Q (f a)) : Ends Q F (r.map f) := by
  cases r with
  | ok a => exact hf a h
  | error e => exact h

end Ends

/-- The errors of reading an account that is there. -/
inductive FailsToRead : Error → Prop
  | transport (fault : TransportFault) : FailsToRead (.transport fault)
  | decode (fault : DecodeError) : FailsToRead (.decode fault)

/-- The errors of an operation that needs an account: it is absent, or it cannot be read. -/
def FailsToFind (absent : Error) (e : Error) : Prop := e = absent ∨ FailsToRead e

/-- The errors of a verification. -/
inductive FailsToVerify (seed : Seed) (address : Address) : Error → Prop
  | transport (fault : TransportFault) : FailsToVerify seed address (.transport fault)
  | notFulfilled : FailsToVerify seed address (.notFulfilled seed)
  | noTransactions : FailsToVerify seed address (.noTransactions seed address)
  | noFulfillment (count : Nat) : FailsToVerify seed address (.noFulfillment seed count)
  | evidence (fault : Companion.Fault) : FailsToVerify seed address (.evidence fault)

namespace Fulfillment

/-! ### Inspection of regular transactions -/

/-- A transaction that is null or well shaped is judged. -/
theorem exists_judge_eq_ok (program : Address) (seed : Seed) {tx : Json}
    (h : tx = .null ∨ WellShaped tx) : ∃ ended, judge program seed tx = .ok ended := by
  rcases h with rfl | h
  · exact ⟨false, judge_of_passedOver (.notReturned rfl)⟩
  by_cases hfulfills : Fulfills program seed tx
  · obtain ⟨ixs, hixs, hobj⟩ := h.exists_instructions
    obtain ⟨status, hstatus⟩ := h.isObject.exists_member "meta"
    by_cases hnull : status = .null
    · subst hnull
      exact ⟨false, judge_of_passedOver (.noStatus hstatus)⟩
    obtain ⟨fault, hfault⟩ := ((h.status status hstatus).resolve_left hnull).exists_member "err"
    by_cases hok : fault = .null
    · subst hok
      exact ⟨true, (judge_of_succeeded ⟨status, hstatus, hnull, hfault⟩).trans
        (isFulfillment_of_fulfills hixs hobj hfulfills)⟩
    · exact ⟨false, judge_of_passedOver (.failed status fault hstatus hfault hok)⟩
  · exact ⟨false, judge_of_passedOver (.other h hfulfills)⟩

/-- An error that speaks about evidence. -/
def IsEvidence (e : Error) : Prop := ∃ fault, e = .evidence fault

theorem ends_searchSteps (seed : Seed) (fault : Option Companion.Fault) :
    ∀ steps : List Companion.Step,
      Ends (fun _ => True) IsEvidence (searchSteps seed fault steps).result
  | [] => by
    cases fault with
    | none => trivial
    | some f => exact ⟨f, rfl⟩
  | .elsewhere i :: steps => ends_searchSteps seed fault steps
  | .entry e :: steps => by
    simp only [searchSteps]
    split
    · trivial
    · exact ends_searchSteps seed fault steps

/-- A search in an object ends with a key, with none, or for want of evidence. -/
theorem ends_searchInstruction {ix : Json} (h : ix.IsObject) (seed : Seed) (position : Nat) :
    Ends (fun _ => True) IsEvidence (searchInstruction seed position ix).result := by
  have hobj : ∀ iy ∈ [ix], iy.IsObject := by simpa using h
  obtain ⟨called, hcalled⟩ := exists_calls_eq_ok hobj Companion.program ix (by simp)
  obtain ⟨data, hdata⟩ := exists_instructionData_eq_ok hobj ix (by simp)
  simp only [searchInstruction, hcalled, hdata]
  cases called with
  | false => trivial
  | true =>
    cases data with
    | none => exact ⟨_, rfl⟩
    | some data => exact ends_searchSteps seed _ _

/-- Each instruction is searched at its position, until one gives an outcome. -/
theorem ends_searchFrom (seed : Seed) : ∀ (position : Nat) {ixs : List Json},
    (∀ ix ∈ ixs, ix.IsObject) →
      Ends (fun _ => True) IsEvidence (searchFrom seed position ixs).result
  | _, [], _ => ⟨_, rfl⟩
  | position, ix :: ixs, h => by
    have hfirst := ends_searchInstruction (h ix (by simp)) seed position
    have hrest := ends_searchFrom seed (position + 1) fun iy hy => h iy (List.mem_cons_of_mem _ hy)
    simp only [searchFrom, Search.orGoOn]
    split
    · exact hrest
    · exact hfirst

/-- Where the instructions are objects, a key is taken from them, or evidence is wanting. -/
theorem ends_extractKey {tx : Json} {ixs : List Json} (hixs : instructions tx = .ok ixs)
    (hobj : ∀ ix ∈ ixs, ix.IsObject) (seed : Seed) :
    Ends (fun _ => True) IsEvidence (extractKey tx seed) := by
  simp only [extractKey, search, hixs]
  refine (ends_searchFrom seed 0 hobj).bind fun found _ => ?_
  cases found with
  | none => exact ⟨_, rfl⟩
  | some key => trivial

/-- There a check fails only for want of evidence. -/
theorem ends_check {tx : Json} {ixs : List Json} (hixs : instructions tx = .ok ixs)
    (hobj : ∀ ix ∈ ixs, ix.IsObject) (seed : Seed) (bs : Bytes) :
    Ends (fun _ => True) IsEvidence (check tx seed bs) := by
  unfold check
  split
  · exact ⟨_, rfl⟩
  · refine (ends_extractKey hixs hobj seed).bind fun key _ => ?_
    split
    · trivial
    · exact ⟨_, rfl⟩

end Fulfillment

namespace Client

open Plan Ledger Fulfillment

variable {τ σ : Type} {env : Env} {signer : Signer} {form : SeedForm} {seed : Seed}
  {address config : Address} {x : List (Exchange Ledger.service)}

/-! ### Reading -/

theorem ends_readRandomness (address : Address) (seed : Seed) (data : Bytes) :
    Ends (fun r => r.seed = seed.bytes) FailsToRead (readRandomness address seed data) := by
  cases h : readRandomness address seed data with
  | ok r => exact (readRandomness_eq_ok_iff.1 h).2
  | error e =>
    obtain ⟨fault, rfl⟩ := readRandomness_error h
    exact .decode fault

/-- A lookup gives a record of the seed, if any. -/
theorem ends_lookupOutcome {answer : Except Error (Option Bytes)}
    (h : RegularAnswer ⟨.accountData address, answer⟩) (seed : Seed) :
    Ends (fun found => found.1 = address ∧ ∀ r ∈ found.2, r.seed = seed.bytes) FailsToRead
      (lookupOutcome address seed answer) := by
  cases h with
  | failed c fault => exact .transport fault
  | accountData a found =>
    cases found with
    | none => exact ⟨rfl, by simp⟩
    | some data =>
      refine (ends_readRandomness address seed data).map fun r hr => ⟨rfl, ?_⟩
      rintro r ⟨⟩
      exact hr

theorem ends_get (hform : form.resolve = .ok seed) (ha : env.randomnessAccount? seed = some address)
    (hx : ∀ e ∈ x, RegularAnswer e) {r : Except Error Randomness}
    (h : Reaches (τ := τ) (get env form) x r) :
    Ends (fun r => r.seed = seed.bytes) (FailsToFind (.noRandomnessAccount seed address)) r := by
  obtain ⟨answer, rfl, rfl⟩ := reaches_get hform ha h
  have hfound := ends_lookupOutcome (hx _ (List.mem_singleton_self _)) seed
  refine (hfound.failing fun e he => .inr he).bind ?_
  rintro ⟨a, found⟩ ⟨rfl, hseed⟩
  cases found with
  | none => exact .inl rfl
  | some r => exact hseed r rfl

/-- Decoding fails as decoding. -/
theorem ends_decoded {α : Type} (absent : Error) (r : Except DecodeError α) :
    Ends (fun _ => True) (FailsToFind absent) (r.mapError .decode) := by
  cases r with
  | error fault => exact .inr (.decode fault)
  | ok a => trivial

theorem ends_configData (hc : env.configAccount?.map Prod.fst = some config)
    (hx : ∀ e ∈ x, RegularAnswer e) {r : Except Error Bytes}
    (h : Reaches (τ := τ) (configData env) x r) :
    Ends (fun _ => True) (FailsToFind (.noConfigAccount config)) r := by
  rcases reaches_configData h with ⟨hnone, -, -⟩ | ⟨config', answer, hc', rfl, rfl⟩
  · simp [hnone] at hc
  obtain rfl := Option.some.inj (hc.symm.trans hc')
  have hanswer := hx _ (List.mem_singleton_self _)
  cases hanswer with
  | failed c fault => exact .inr (.transport fault)
  | accountData a found =>
    cases found with
    | none => exact .inl rfl
    | some data => trivial

theorem ends_networkConfig (hc : env.configAccount?.map Prod.fst = some config)
    (hx : ∀ e ∈ x, RegularAnswer e) {r : Except Error NetworkConfig}
    (h : Reaches (τ := τ) (networkConfig env) x r) :
    Ends (fun _ => True) (FailsToFind (.noConfigAccount config)) r := by
  rcases h.of_bind with ⟨e, he, rfl⟩ | ⟨data, x₁, x₂, -, h₂, -⟩
  · exact ends_configData hc hx he
  · obtain ⟨-, rfl⟩ := reaches_lift.1 h₂
    exact ends_decoded _ _

/-! ### Requesting -/

theorem ends_treasuryOutcome {answer : Except Error (Option Bytes)}
    (h : RegularAnswer ⟨.accountData config, answer⟩) :
    Ends (fun _ => True) (FailsToFind (.noConfigAccount config)) (treasuryOutcome config answer) := by
  cases h with
  | failed c fault => exact .inr (.transport fault)
  | accountData a found =>
    cases found with
    | none => exact .inl rfl
    | some data => exact ends_decoded _ _

theorem BuildRun.ends {r : Except Error Transaction} (h : BuildRun env signer seed address x r)
    (hc : env.configAccount?.map Prod.fst = some config) (hkey : signer.publicKey.length = 32)
    (hsign : ∀ message, (signer.sign message).length = 64) (hx : ∀ e ∈ x, RegularAnswer e) :
    Ends (fun _ => True) (FailsToFind (.noConfigAccount config)) r := by
  cases h with
  | badKey hbad => exact absurd hkey hbad
  | noConfigAddress _ hnone => simp [hnone] at hc
  | noTreasury hfunded hfail =>
    obtain rfl := Option.some.inj (hc.symm.trans hfunded.config_eq)
    have hends := ends_treasuryOutcome (hx _ (List.mem_singleton_self _))
    rw [hfail] at hends
    exact hends
  | noBlockhash _ _ =>
    obtain ⟨fault, rfl⟩ := (hx _ (.tail _ (.head _))).eq_transport
    exact .inr (.transport fault)
  | badSignature _ _ hbs hbad =>
    subst hbs
    exact absurd (hsign _) hbad
  | built _ _ _ => trivial

theorem RequestRun.ends {r : Except Error (Option String)} (h : RequestRun env signer seed x r)
    (ha : env.randomnessAccount? seed = some address)
    (hc : env.configAccount?.map Prod.fst = some config) (hkey : signer.publicKey.length = 32)
    (hsign : ∀ message, (signer.sign message).length = 64) (hx : ∀ e ∈ x, RegularAnswer e) :
    Ends (fun _ => True) (FailsToFind (.noConfigAccount config)) r := by
  cases h with
  | noAddress hnone => simp [hnone] at ha
  | unanswered _ =>
    obtain ⟨fault, rfl⟩ := (hx _ (List.mem_singleton_self _)).eq_transport
    exact .inr (.transport fault)
  | present _ hr =>
    subst hr
    exact ((ends_readRandomness _ seed _).failing fun e he => .inr he).map fun _ _ => trivial
  | unbuilt _ hbuild => exact hbuild.ends hc hkey hsign fun e he => hx e (List.mem_cons_of_mem _ he)
  | sent _ _ =>
    have hanswer := hx _ (List.mem_cons_of_mem _ (List.mem_append_right _ (.head _)))
    cases hanswer with
    | failed c fault => exact .inr (.transport fault)
    | sent tx signature => trivial

/-! ### Waiting -/

/-- A poll of an account gives a fulfilled record of the seed, if any. -/
theorem ends_pollOutcome {answer : Except Error (Option Bytes)}
    (h : RegularAnswer ⟨.accountData address, answer⟩) (seed : Seed) :
    Ends (fun found => ∀ r ∈ found, r.isFulfilled = true ∧ r.seed = seed.bytes) FailsToRead
      (pollOutcome address seed answer) := by
  refine (ends_lookupOutcome h seed).map fun found hfound r hr => ?_
  obtain ⟨hmem, hfulfilled⟩ := Option.mem_filter_iff.1 hr
  exact ⟨hfulfilled, hfound.2 r hmem⟩

theorem ends_waitOutcome {found : Except Error (Option Randomness)}
    (h : Ends (fun found => ∀ r ∈ found, r.isFulfilled = true ∧ r.seed = seed.bytes) FailsToRead
      found) (timeout : Rat) :
    Ends (fun r => r.isFulfilled = true ∧ r.seed = seed.bytes)
      (FailsToFind (.notFulfilledInTime seed (Clock.text timeout)))
      (waitOutcome seed timeout found) := by
  refine (h.failing fun e he => .inr he).bind fun found hfound => ?_
  cases found with
  | none => exact .inl rfl
  | some r => exact hfound r rfl

/-- Only a poll that finds nothing lets a wait give up. -/
theorem eq_none_of_waitOutcome {P : Option Randomness → Prop}
    {found : Except Error (Option Randomness)} (h : Ends P FailsToRead found) {timeout : Rat}
    {text : String}
    (hgiven : waitOutcome seed timeout found = .error (.notFulfilledInTime seed text)) :
    found = .ok none := by
  match found with
  | .ok none => rfl
  | .ok (some r) => cases hgiven
  | .error e =>
    obtain rfl : e = .notFulfilledInTime seed text := Except.error.inj hgiven
    cases h

/-! ### Verifying -/

/-- A scan over regular answers ends with a well-shaped transaction, or says that there is none. -/
theorem ends_scan {listed : Nat} : ∀ {names : List String} {x : List (Exchange Ledger.service)}
    {r : Except Error (String × Json)}, (∀ e ∈ x, RegularAnswer e) →
      Reaches (τ := τ) (scan env seed address listed names) x r →
      Ends (fun found => WellShaped found.2) (FailsToVerify seed address) r
  | [], x, r, hx, h => by
    obtain ⟨-, rfl⟩ := reaches_fail.1 h
    exact .noFulfillment listed
  | name :: older, x, r, hx, h => by
    rcases reaches_scan_cons h with ⟨e, rfl, rfl⟩ | ⟨tx, y, rfl, hnext⟩
    · obtain ⟨fault, rfl⟩ := (hx _ (List.mem_singleton_self _)).eq_transport
      exact .transport fault
    have hshaped := (hx _ List.mem_cons_self).shaped
    obtain ⟨ended, hended⟩ := exists_judge_eq_ok env.program seed hshaped
    simp only [hended] at hnext
    cases ended with
    | true =>
      obtain ⟨-, rfl⟩ := hnext
      rcases hshaped with rfl | hshaped
      · obtain ⟨⟨status, hstatus, -⟩, -⟩ := succeeded_and_fulfills_of_judge hended
        cases hstatus
      · exact hshaped
    | false => exact ends_scan (fun e he => hx e (List.mem_cons_of_mem _ he)) hnext

theorem ends_findFulfillment (ha : env.randomnessAccount? seed = some address)
    (hx : ∀ e ∈ x, RegularAnswer e) {r : Except Error (String × Json)}
    (h : Reaches (τ := τ) (findFulfillment env (.address seed)) x r) :
    Ends (fun found => WellShaped found.2) (FailsToVerify seed address) r := by
  rcases reaches_findFulfillment ha h with ⟨e, rfl, rfl⟩ | ⟨listed, y, rfl, ⟨-, -, rfl⟩ | ⟨-, hscan⟩⟩
  · obtain ⟨fault, rfl⟩ := (hx _ (List.mem_singleton_self _)).eq_transport
    exact .transport fault
  · exact .noTransactions
  · exact ends_scan (fun e he => hx e (List.mem_cons_of_mem _ he)) hscan

theorem ends_verify (hform : form.resolve = .ok seed)
    (ha : env.randomnessAccount? seed = some address) (hx : ∀ e ∈ x, RegularAnswer e)
    {randomness : Randomness} {r : Except Error Unit}
    (h : Reaches (τ := τ) (verify env form randomness) x r) :
    Ends (fun _ => True) (FailsToVerify seed address) r := by
  cases hr : randomness.randomness with
  | none =>
    have hnext := (reaches_resolve_bind hform).1 h
    simp only [hr, reaches_fail] at hnext
    rw [hnext.2]
    exact .notFulfilled
  | some bs =>
    rcases reaches_verify hform hr h with ⟨e, he, rfl⟩ | ⟨found, hfound, rfl⟩
    · exact ends_findFulfillment ha hx he
    · have hshaped : WellShaped found.2 := ends_findFulfillment ha hx hfound
      obtain ⟨ixs, hixs, hobj⟩ := hshaped.exists_instructions
      refine (ends_check hixs hobj seed bs).failing ?_
      rintro e ⟨fault, rfl⟩
      exact .evidence fault

/-! ### All operations -/

/-- How the operations of the client end from some moment on. -/
structure Outcomes (env : Env) (signer : Signer) (form : SeedForm) (seed : Seed)
    (address config : Address) (m : Model Ledger.service Rat σ) (t : Rat) (s : σ) : Prop where
  ends_get : Ends (fun r => r.seed = seed.bytes) (FailsToFind (.noRandomnessAccount seed address))
    ((get env form).run m t s).result
  ends_networkConfig : Ends (fun _ => True) (FailsToFind (.noConfigAccount config))
    ((networkConfig env).run m t s).result
  ends_build : Ends (fun _ => True) (FailsToFind (.noConfigAccount config))
    ((build env signer form).run m t s).result
  ends_request : Ends (fun _ => True) (FailsToFind (.noConfigAccount config))
    ((request env signer form).run m t s).result
  ends_waitFor : ∀ timeout interval, 0 < interval →
    Ends (fun r => r.isFulfilled = true ∧ r.seed = seed.bytes)
      (FailsToFind (.notFulfilledInTime seed (Clock.text timeout)))
      ((waitFor env form timeout interval).run m t s).result
  /-- A wait that gives up does so because another poll would come after the deadline. -/
  late_of_waitFor : ∀ timeout interval, 0 < interval →
    ((waitFor env form timeout interval).run m t s).result =
      .error (.notFulfilledInTime seed (Clock.text timeout)) →
    t + timeout < ((waitFor env form timeout interval).run m t s).clock + interval
  ends_verify : ∀ randomness, Ends (fun _ => True) (FailsToVerify seed address)
    ((verify env form randomness).run m t s).result

/-- Against a regular ledger, and with a signer whose key and signatures have their lengths, no operation
fails with anything but the errors of the client. -/
theorem outcomes_of_regular (hform : form.resolve = .ok seed)
    (ha : env.randomnessAccount? seed = some address)
    (hc : env.configAccount?.map Prod.fst = some config) (hkey : signer.publicKey.length = 32)
    (hsign : ∀ message, (signer.sign message).length = 64) {m : Model Ledger.service Rat σ} {t : Rat}
    {s : σ} (hm : Regular m t s) : Outcomes env signer form seed address config m t s where
  ends_get := ends_get hform ha (hm.transcript _) (reaches_run m _ t s)
  ends_networkConfig := ends_networkConfig hc (hm.transcript _) (reaches_run m _ t s)
  ends_build := (reaches_build hform ha (reaches_run m _ t s)).ends hc hkey hsign (hm.transcript _)
  ends_request := (reaches_request hform (reaches_run m _ t s)).ends ha hc hkey hsign (hm.transcript _)
  ends_waitFor := by
    intro timeout interval hinterval
    obtain ⟨t', s', hlater, -, -, -, hresult⟩ :=
      exists_last_poll_of_wait hform ha timeout hinterval m t s
    rw [hresult]
    exact ends_waitOutcome (ends_pollOutcome (hm t' s' _ hlater) seed) timeout
  late_of_waitFor := by
    intro timeout interval hinterval hgiven
    obtain ⟨t', s', hlater, -, hlate, hclock, hresult⟩ :=
      exists_last_poll_of_wait hform ha timeout hinterval m t s
    rw [hresult] at hgiven
    rw [hclock]
    exact hlate (eq_none_of_waitOutcome (ends_pollOutcome (hm t' s' _ hlater) seed) hgiven)
  ends_verify _ := ends_verify hform ha (hm.transcript _) (reaches_run m _ t s)

end Client

/-! ### An instance -/

namespace Sample

open Ledger Fulfillment

/-- A ledger without connection for submissions, with an account that holds no record and a fulfilment
in its history. -/
def poorLedger : Simulated.State Rat :=
  ((Simulated.State.empty.setAccount address (some [1, 2, 3])).addTransaction address "fulfilment"
    transaction).setFault .send (some ⟨.transport (.reported "no connection"), none⟩)

theorem wellShaped_transaction : WellShaped transaction where
  isObject := ⟨_, rfl⟩
  status := by
    rintro v ⟨⟩
    exact .inr ⟨[], rfl⟩
  instructions := by
    rintro envelope ⟨⟩
    exact .inr ⟨_, rfl, .inr ⟨_, rfl, .inr ⟨_, rfl, honest.objects⟩⟩⟩

theorem sound_poorLedger : Simulated.Sound poorLedger where
  faults := by
    intro p hp
    obtain rfl := List.mem_singleton.1 hp
    exact ⟨_, rfl⟩
  transactions := by
    intro p hp
    obtain rfl := List.mem_singleton.1 hp
    exact .inr wellShaped_transaction

end Sample

namespace Client

open Ledger

theorem outcomes_of_regular_sample : Regular Simulated.model 0 Sample.poorLedger ∧
    Outcomes Sample.env Sample.signer (.address Sample.seed) Sample.seed Sample.address Sample.config
      Simulated.model 0 Sample.poorLedger := by
  have hc : Sample.env.configAccount?.map Prod.fst = some Sample.config := by
    rw [Sample.configAccount_eq]
    rfl
  have hsign : ∀ message, (Sample.signer.sign message).length = 64 :=
    fun message => Octets.length_bytes _
  have hregular := Simulated.regular_of_sound Sample.sound_poorLedger 0
  exact ⟨hregular, outcomes_of_regular Sample.resolve_eq Sample.randomnessAccount_eq hc rfl hsign
    hregular⟩

end Client

end VrfClient
