import VrfClient.Proofs.Extraction
import VrfClient.Proofs.Sequence

/-!
Which records are accepted. Three copies of a signature meet in a verification: the one that the record holds,
the one that the fulfilment publishes, and the one in its companion. Only the first is checked, against the
key of the companion. So a record is accepted exactly if it is `Backed` by the transaction that is found, and
the other two copies may differ from it. -/

namespace VrfClient

namespace Fulfillment

/-- Among its top-level instructions the transaction has a fulfilment of the seed with this signature. -/
def Publishes (program : Address) (seed : Seed) (signature : Signature) (tx : Json) : Prop :=
  ∃ ixs, TopLevel tx ixs ∧ ∃ ix ∈ ixs, Calls program.text ix ∧
    Carries (Payload.fulfillLayout seed signature) ix

/-- A transaction backs what a record holds: it publishes a signature for the seed, and what the record holds
is a signature over the seed that is valid under its key. -/
structure Backed (program : Address) (seed : Seed) (stored : Option Bytes) (tx : Json) : Prop where
  published : ∃ signature, Publishes program seed signature tx
  valid : ∃ (signature : Signature) (key : Octets 32), stored = some signature.bytes ∧
    extractKey tx seed = .ok key.bytes ∧ Ed25519.verify key seed.bytes signature = true

theorem Fulfills.exists_publishes {program : Address} {seed : Seed} {tx : Json}
    (h : Fulfills program seed tx) : ∃ signature, Publishes program seed signature tx := by
  obtain ⟨ixs, htop, ⟨ix, hix, hcalls, signature, hdata⟩, -⟩ := h
  exact ⟨signature, ixs, htop, ix, hix, hcalls, hdata⟩

end Fulfillment

namespace Client

open Plan Fulfillment

variable {τ σ : Type} [Clock τ] {env : Env} {form : SeedForm} {seed : Seed} {randomness : Randomness}

/-- The result of a verification is that of looking for the fulfilment, and then that of the check. -/
theorem result_verify {bs : Bytes} (hform : form.resolve = .ok seed)
    (hr : randomness.randomness = some bs) (m : Model Ledger.service τ σ) (t : τ) (s : σ) :
    ((verify env form randomness).run m t s).result =
      ((findFulfillment env form).run m t s).result.bind fun found => check found.2 seed bs := by
  have hverify : (verify env form randomness : Ledger.Action τ Unit) =
      findFulfillment env form >>= fun found => verifyFulfillment found.2 (.address seed) bs >>= fun _ =>
        log .info .requestor s!"Randomness for seed {seed.hex} verified offchain" := by
    rw [verify, findFulfillment, resolve, hform]
    simp only [hr]
    rfl
  rw [hverify, result_bind]
  exact congrArg _ (funext fun found => (reaches_verified (reaches_run m _ _ _)).2)

theorem result_verify_of_found {bs : Bytes} (hform : form.resolve = .ok seed)
    (hr : randomness.randomness = some bs) {m : Model Ledger.service τ σ} {t : τ} {s : σ} {name : String}
    {tx : Json} (hfound : ((findFulfillment env form).run m t s).result = .ok (name, tx)) :
    ((verify env form randomness).run m t s).result = check tx seed bs := by
  rw [result_verify hform hr, hfound]
  rfl

/-- What is found publishes a signature for the seed. -/
theorem exists_publishes_of_findFulfillment (hform : form.resolve = .ok seed) {m : Model Ledger.service τ σ}
    {t : τ} {s : σ} {found : String × Json}
    (h : ((findFulfillment env form).run m t s).result = .ok found) :
    ∃ signature, Publishes env.program seed signature found.2 := by
  have hrun := reaches_run m (findFulfillment env form) t s
  rw [h] at hrun
  obtain ⟨_, _, -, -, -, -, -, hfulfills⟩ :=
    exists_of_findFulfillment (reaches_findFulfillment_address hform hrun)
  exact hfulfills.exists_publishes

/-- A record is accepted exactly if the transaction that is found for the seed backs it. -/
theorem accepted_iff_backed (env : Env) (form : SeedForm) (randomness : Randomness)
    (m : Model Ledger.service τ σ) (t : τ) (s : σ) :
    ((verify env form randomness).run m t s).result = .ok () ↔
      ∃ seed name tx, form.resolve = .ok seed ∧
        ((findFulfillment env form).run m t s).result = .ok (name, tx) ∧
        Backed env.program seed randomness.randomness tx := by
  constructor
  · intro h
    have hrun := reaches_run m (verify env form randomness) t s
    rw [h] at hrun
    cases hform : form.resolve with
    | error e => cases ((reaches_resolve_bind_error hform).1 hrun).2
    | ok seed =>
      cases hr : randomness.randomness with
      | none =>
        have hnext := (reaches_resolve_bind hform).1 hrun
        simp only [hr, reaches_fail] at hnext
        cases hnext.2
      | some bs =>
        rw [result_verify hform hr] at h
        obtain ⟨⟨name, tx⟩, hfound, hcheck⟩ := bind_eq_ok.1 h
        obtain ⟨signature, rfl, key, hkey, hvalid⟩ := check_eq_ok_iff.1 hcheck
        exact ⟨seed, name, tx, rfl, hfound, exists_publishes_of_findFulfillment hform hfound,
          signature, key, rfl, hkey, hvalid⟩
  · rintro ⟨seed, name, tx, hform, hfound, -, signature, key, hr, hkey, hvalid⟩
    rw [result_verify_of_found hform hr hfound]
    exact check_eq_ok_iff.2 ⟨signature, rfl, key, hkey, hvalid⟩

end Client

/-! ### Signatures that differ -/

namespace Sample

open Plan Fulfillment Client

/-- The sample's companion, and a fulfilment that publishes another signature. -/
def mismatched : List Json :=
  [instruction Companion.program (Companion.single key signature seed.bytes 0xffff),
    instruction env.program.text (Payload.fulfillLayout seed (Octets.zero 64))]

def mismatchedTransaction : Json :=
  .obj [("meta", .obj []),
    ("transaction", .obj [("message", .obj [("instructions", .arr mismatched)])])]

/-- A ledger with this transaction alone. -/
def mismatchedView : (c : Ledger.Call) → c.Reply
  | .accountData _ => none
  | .latestBlockhash => Octets.zero 32
  | .send _ => ""
  | .signatures _ => ["fulfilment"]
  | .transaction _ => mismatchedTransaction

theorem topLevel_mismatchedTransaction : TopLevel mismatchedTransaction mismatched :=
  ⟨_, _, rfl, rfl, rfl⟩

theorem isObject_of_mem_mismatched : ∀ ix ∈ mismatched, ix.IsObject := by
  intro ix hix
  simp only [mismatched, List.mem_cons, List.not_mem_nil, or_false] at hix
  rcases hix with rfl | rfl <;> exact ⟨_, rfl⟩

theorem judge_mismatchedTransaction : judge env.program seed mismatchedTransaction = .ok true := by
  have hsucceeded : Succeeded mismatchedTransaction := ⟨.obj [], rfl, by simp, rfl⟩
  rw [judge_of_succeeded hsucceeded]
  exact isFulfillment_of_fulfills rfl isObject_of_mem_mismatched
    ⟨mismatched, topLevel_mismatchedTransaction,
      ⟨_, .tail _ (.head _), rfl, Octets.zero 64, carries_encode rfl⟩, _, .head _, rfl⟩

theorem findFulfillment_mismatched :
    ((findFulfillment env (.address seed)).run (atRest mismatchedView) (0 : Rat) ()).result =
      .ok ("fulfilment", mismatchedTransaction) := by
  have hlisted : mismatchedView (.signatures address) = [] ++ "fulfilment" :: [] := rfl
  have hfound : judge env.program seed (mismatchedView (.transaction "fulfilment")) = .ok true :=
    judge_mismatchedTransaction
  have hrun := reaches_run (atRest mismatchedView) (findFulfillment env (.address seed)) (0 : Rat) ()
  exact findFulfillment_eq_ok randomnessAccount_eq hfound (List.forall_mem_nil _) hlisted
    (shown_atRest _ _ _ _) hrun

/-- Nothing but zeros is published. -/
theorem eq_zero_of_publishes_mismatched {g : Signature}
    (h : Publishes env.program seed g mismatchedTransaction) : g = Octets.zero 64 := by
  obtain ⟨ixs, htop, ix, hix, hcalls, hdata⟩ := h
  obtain rfl : mismatched = ixs :=
    Except.ok.inj ((instructions_of_topLevel topLevel_mismatchedTransaction).symm.trans
      (instructions_of_topLevel htop))
  simp only [mismatched, List.mem_cons, List.not_mem_nil, or_false] at hix
  rcases hix with rfl | rfl
  · have hname : Companion.program = env.program.text := by
      simpa [Calls, instruction, Json.member] using hcalls
    exact absurd hname (by decide +kernel)
  · have hzero : Carries (Payload.fulfillLayout seed (Octets.zero 64)) (instruction env.program.text
        (Payload.fulfillLayout seed (Octets.zero 64))) := carries_encode rfl
    rw [← instructionData_eq_some_iff] at hdata hzero
    have hlayout := Option.some.inj (Except.ok.inj (hdata.symm.trans hzero))
    exact Octets.bytes_inj.1 (List.append_cancel_left hlayout)

end Sample

namespace Client

open Plan Fulfillment

/-- The sample's record is accepted on the ground of a transaction that publishes another signature. -/
theorem other_signature_published :
    ((findFulfillment Sample.env (.address Sample.seed)).run (atRest Sample.mismatchedView) (0 : Rat)
      ()).result = .ok ("fulfilment", Sample.mismatchedTransaction) ∧
    ((verify Sample.env (.address Sample.seed) Sample.record).run (atRest Sample.mismatchedView)
      (0 : Rat) ()).result = .ok () ∧
    ∀ signature, Publishes Sample.env.program Sample.seed signature Sample.mismatchedTransaction →
      Sample.record.randomness ≠ some signature.bytes := by
  refine ⟨Sample.findFulfillment_mismatched, ?_, ?_⟩
  · have hr : Sample.record.randomness = some Sample.signature.bytes := rfl
    rw [result_verify_of_found Sample.resolve_eq hr Sample.findFulfillment_mismatched]
    have hentry : EntryAt Sample.mismatched 0 0 _ Sample.key.bytes Sample.seed.bytes := Sample.entryAt _
    have hkey := hentry.extractKey_eq_ok (instructions_of_topLevel Sample.topLevel_mismatchedTransaction)
      fun q hq => absurd hq (Nat.not_lt_zero q)
    exact check_eq_ok_iff.2 ⟨Sample.signature, rfl, Sample.key, hkey, Sample.verify_signature⟩
  · intro signature hpublished
    rw [Sample.eq_zero_of_publishes_mismatched hpublished]
    decide

end Client

end VrfClient
