import VrfClient.Proofs.Scan
import VrfClient.Proofs.Search

/-!
Verification, both ways. It accepts only on evidence: a listed transaction that succeeded, fulfils the
seed, and checks it under a key that verifies the randomness. And it accepts what an honest oracle does:
where the history holds such a transaction, behind nothing but transactions that are passed over, and the
account holds the record, both the record and its verification come back. -/

namespace VrfClient

namespace Fulfillment

/-- The instruction at this position checks a message under a key. -/
def ChecksAt (ixs : List Json) (position : Nat) (key message : Bytes) : Prop :=
  ∃ ix data i, ixs[position]? = some ix ∧ Calls Companion.program ix ∧ Carries data ix ∧
    Companion.Checks data position i key message

/-- Some instruction checks the seed under a key for which the signature is valid. -/
def Signed (seed : Seed) (signature : Signature) (tx : Json) : Prop :=
  ∃ ixs position, ∃ key : Octets 32, TopLevel tx ixs ∧ ChecksAt ixs position key.bytes seed.bytes ∧
    Ed25519.verify key seed.bytes signature = true

/-- What makes a transaction evidence that a signature is the randomness of a seed. -/
structure Evidence (program : Address) (seed : Seed) (signature : Signature) (tx : Json) : Prop where
  succeeded : Succeeded tx
  fulfills : Fulfills program seed tx
  signed : Signed seed signature tx

/-- The top-level instructions of an honest fulfilment: all are objects, one calls the program with the
payload of the fulfilment, and the only companion, at this position, holds the data for the signature
with an index that means itself. -/
structure Honest (program : Address) (seed : Seed) (key : Octets 32) (signature : Signature)
    (position index : Nat) (ixs : List Json) : Prop where
  objects : ∀ ix ∈ ixs, ix.IsObject
  own : Companion.Own position index
  companion : ∃ ix, ixs[position]? = some ix ∧ Calls Companion.program ix ∧
    ix.member "data" = .ok (.str (Base58.encode (Companion.single key signature seed.bytes index)))
  only : ∀ q ix, ixs[q]? = some ix → Calls Companion.program ix → q = position
  fulfilment : ∃ ix ∈ ixs, Calls program.text ix ∧ ∃ payload,
    Payload.fulfill seed signature.bytes = .ok payload ∧
      ix.member "data" = .ok (.str (Base58.encode payload))

/-! ### The check of one transaction -/

theorem extractKey_eq_ok_iff {tx : Json} {seed : Seed} {key : Bytes} :
    extractKey tx seed = .ok key ↔ (search tx seed).result = .ok (some key) := by
  unfold extractKey
  cases h : (search tx seed).result with
  | error e => simp
  | ok found => cases found <;> simp [throw, throwThe, MonadExceptOf.throw]

/-- The key that a transaction gives stands in an instruction that checks the seed under it. -/
theorem exists_checksAt_of_extractKey {tx : Json} {seed : Seed} {key : Bytes}
    (h : extractKey tx seed = .ok key) :
    ∃ ixs position, TopLevel tx ixs ∧ ChecksAt ixs position key seed.bytes := by
  rw [extractKey_eq_ok_iff] at h
  unfold search at h
  split at h
  · cases h
  · rename_i ixs hixs
    obtain ⟨p, ix, hp, hfound, -⟩ := result_searchFrom_eq_ok_some_iff.1 h
    obtain ⟨hcalls, data, hdata, i, hchecks, -⟩ := result_searchInstruction_eq_ok_some_iff.1 hfound
    rw [Nat.zero_add] at hchecks
    have htop := topLevel_of_instructions hixs (List.mem_of_getElem? hp)
      (Json.isObject_of_member hcalls)
    exact ⟨ixs, p, htop, ix, data, i, hp, hcalls, hdata, hchecks⟩

theorem verifies_eq_true_iff {key : Bytes} {seed : Seed} {signature : Signature} :
    verifies key seed signature = true ↔
      ∃ k : Octets 32, key = k.bytes ∧ Ed25519.verify k seed.bytes signature = true := by
  unfold verifies
  split
  · rename_i k hk
    obtain rfl := Octets.ofBytes?_eq_some_iff.1 hk
    simp [Octets.bytes_inj]
  · rename_i hk
    simp only [Bool.false_eq_true, false_iff]
    rintro ⟨k, rfl, -⟩
    simp at hk

/-- A check passes exactly on a signature that the key of the transaction verifies. -/
theorem check_eq_ok_iff {tx : Json} {seed : Seed} {bs : Bytes} : check tx seed bs = .ok () ↔
    ∃ signature : Signature, bs = signature.bytes ∧ ∃ key : Octets 32,
      extractKey tx seed = .ok key.bytes ∧ Ed25519.verify key seed.bytes signature = true := by
  unfold check
  cases hs : Octets.ofBytes? 64 bs with
  | none =>
    simp only [reduceCtorEq, false_iff]
    rintro ⟨signature, rfl, -⟩
    simp at hs
  | some signature =>
    obtain rfl := Octets.ofBytes?_eq_some_iff.1 hs
    simp only [bind_eq_ok]
    constructor
    · rintro ⟨key, hkey, h⟩
      by_cases hv : verifies key seed signature = true
      · obtain ⟨k, rfl, hvalid⟩ := verifies_eq_true_iff.1 hv
        exact ⟨signature, rfl, k, hkey, hvalid⟩
      · rw [if_neg hv] at h
        cases h
    · rintro ⟨signature', hs', key, hkey, hv⟩
      obtain rfl := Octets.bytes_inj.1 hs'
      have hverifies : verifies key.bytes seed signature = true :=
        verifies_eq_true_iff.2 ⟨key, rfl, hv⟩
      exact ⟨key.bytes, hkey, by rw [if_pos hverifies]; rfl⟩

/-! ### Honest fulfilments -/

theorem carries_encode {ix : Json} {payload : Bytes}
    (h : ix.member "data" = .ok (.str (Base58.encode payload))) : Carries payload ix := by
  refine ⟨_, h, ?_⟩
  rw [Base58.trimEnd_encode, String.ofList_toList, Base58.decode?_encode]

/-- A companion with the data for one signature over the seed gives the key of the data. -/
theorem searchInstruction_of_single {seed : Seed} {key : Octets 32} {signature : Signature}
    {position index : Nat} {ix : Json} (hcalls : Calls Companion.program ix)
    (hdata : Carries (Companion.single key signature seed.bytes index) ix) (hindex : index < 65536)
    (hown : Companion.Own position index) :
    (searchInstruction seed position ix).result = .ok (some key.bytes) := by
  have hseed : seed.bytes.length < 65536 := by
    rw [seed.length_bytes]
    decide
  have hread := Companion.read_single key signature hseed hindex hown
  simp only [searchInstruction, calls_eq_true_iff.2 hcalls, instructionData_eq_some_iff.2 hdata, hread,
    searchSteps, if_true]
  rfl

section Honest

variable {program : Address} {seed : Seed} {key : Octets 32} {signature : Signature}
  {position index : Nat} {tx : Json} {ixs : List Json} (htop : TopLevel tx ixs)
  (h : Honest program seed key signature position index ixs)

include htop h

theorem Honest.isFulfillment : isFulfillment tx seed program = .ok true := by
  obtain ⟨companion, hp, hcalls, -⟩ := h.companion
  obtain ⟨ix, hix, hix_calls, payload, hpayload, hdata⟩ := h.fulfilment
  rw [Payload.fulfill_eq_ok] at hpayload
  cases hpayload
  exact isFulfillment_of_fulfills (instructions_of_topLevel htop) h.objects ⟨ixs, htop,
    ⟨ix, hix, hix_calls, signature, carries_encode hdata⟩,
    companion, List.mem_of_getElem? hp, hcalls⟩

/-- The key of an honest fulfilment is the one that signed: no other companion stands in front. -/
theorem Honest.extractKey (hposition : position < 65536) : extractKey tx seed = .ok key.bytes := by
  obtain ⟨companion, hp, hcalls, hdata⟩ := h.companion
  have hindex : index < 65536 := by
    rcases h.own with rfl | rfl
    · decide
    · exact hposition
  have hfound : (searchInstruction seed (0 + position) companion).result = .ok (some key.bytes) := by
    rw [Nat.zero_add]
    exact searchInstruction_of_single hcalls (carries_encode hdata) hindex h.own
  have hfirst : ∀ q < position, ∀ iy, ixs[q]? = some iy →
      (searchInstruction seed (0 + q) iy).result = .ok none := by
    intro q hq iy hiy
    rw [result_searchInstruction_eq_ok_none_iff (h.objects iy (List.mem_of_getElem? hiy))]
    intro hcalled
    exact absurd (h.only q iy hiy hcalled) (Nat.ne_of_lt hq)
  rw [extractKey_eq_ok_iff, search, instructions_of_topLevel htop]
  exact result_searchFrom_eq_ok_some_iff.2 ⟨position, companion, hp, hfound, hfirst⟩

end Honest

end Fulfillment

/-! ### An instance -/

namespace Sample

open Fulfillment

def record : Randomness := ⟨seed.bytes, some signature.bytes, .fulfilled⟩

def instruction (program : String) (payload : Bytes) : Json :=
  .obj [("programId", .str program), ("data", .str (Base58.encode payload))]

/-- A companion, and the fulfilment that it accompanies. -/
def instructions : List Json :=
  [instruction Companion.program (Companion.single key signature seed.bytes 0xffff),
    instruction env.program.text (Payload.fulfillLayout seed signature)]

def transaction : Json :=
  .obj [("meta", .obj []),
    ("transaction", .obj [("message", .obj [("instructions", .arr instructions)])])]

def data : Bytes :=
  Randomness.discriminator ++ (record.seed ++ Randomness.tagged record.randomness ++ [1])

/-- A ledger with one fulfilment, behind a transaction that it does not return. -/
def view : (c : Ledger.Call) → c.Reply
  | .accountData _ => some (data ++ [0])
  | .latestBlockhash => Octets.zero 32
  | .send _ => ""
  | .signatures _ => ["newer", "fulfilment", "older"]
  | .transaction name => if name = "fulfilment" then transaction else .null

theorem verify_signature : Ed25519.verify key seed.bytes signature = true := by decide +kernel

theorem succeeded : Succeeded (view (.transaction "fulfilment")) :=
  ⟨.obj [], rfl, by simp, rfl⟩

theorem topLevel : TopLevel (view (.transaction "fulfilment")) instructions :=
  ⟨_, _, rfl, rfl, rfl⟩

theorem honest : Honest env.program seed key signature 0 0xffff instructions where
  objects := by
    intro ix hix
    simp only [instructions, List.mem_cons, List.not_mem_nil, or_false] at hix
    rcases hix with rfl | rfl <;> exact ⟨_, rfl⟩
  own := .inl rfl
  companion := ⟨_, rfl, rfl, rfl⟩
  only := by
    intro q ix hq hcalls
    match q with
    | 0 => rfl
    | 1 =>
      cases hq
      have hname : env.program.text = Companion.program := by
        simpa [Calls, instruction, Json.member] using hcalls
      exact absurd hname (by decide +kernel)
    | q + 2 => simp [instructions] at hq
  fulfilment := ⟨_, .tail _ (.head _), rfl, _, Payload.fulfill_eq_ok seed signature, rfl⟩

theorem passedOver : ∀ n ∈ ["newer"], PassedOver env.program seed (view (.transaction n)) := by
  intro n hn
  obtain rfl := List.mem_singleton.1 hn
  exact .notReturned rfl

theorem encode_record : record.encode = .ok data := by
  rw [Randomness.encode_eq_ok_iff]
  exact ⟨⟨rfl, by decide⟩, rfl⟩

end Sample

namespace Client

open Plan Fulfillment

variable {τ σ : Type} {env : Env} {seed : Seed}

/-! ### Verification as a plan -/

theorem reaches_reportElsewhere {x : List (Exchange Ledger.service)} {r : Except Error Unit} :
    ∀ {is : List Nat}, Reaches (τ := τ) (reportElsewhere is) x r ↔ x = [] ∧ r = .ok ()
  | [] => reaches_pure
  | i :: is => by
    rw [reportElsewhere, reaches_log_bind]
    exact reaches_reportElsewhere

theorem reaches_reportElsewhere_bind {α : Type} {is : List Nat}
    {f : Unit → Plan Ledger.service τ α} {x : List (Exchange Ledger.service)} {r : Except Error α}
    (h : Reaches (reportElsewhere is >>= f) x r) : Reaches (f ()) x r := by
  rcases h.of_bind with ⟨e, he, rfl⟩ | ⟨_, x₁, x₂, h₁, h₂, rfl⟩
  · cases (reaches_reportElsewhere.1 he).2
  · obtain ⟨rfl, -⟩ := reaches_reportElsewhere.1 h₁
    exact h₂

/-- Checking a transaction asks nothing, and its outcome is that of the check. -/
theorem reaches_verifyFulfillment {form : SeedForm} (hform : form.resolve = .ok seed) {tx : Json}
    {signature : Bytes} {x : List (Exchange Ledger.service)} {r : Except Error Unit}
    (h : Reaches (τ := τ) (verifyFulfillment tx form signature) x r) :
    x = [] ∧ r = check tx seed signature := by
  have hnext := (reaches_resolve_bind hform).1 h
  split at hnext
  · exact reaches_lift.1 (reaches_reportElsewhere_bind hnext)
  · exact reaches_lift.1 hnext

/-- So is the outcome of a check that is reported. -/
theorem reaches_verified {tx : Json} {bs : Bytes} {text : String} {x : List (Exchange Ledger.service)}
    {r : Except Error Unit} (h : Reaches (τ := τ) (verifyFulfillment tx (.address seed) bs >>= fun _ =>
      log .info .requestor text) x r) : x = [] ∧ r = check tx seed bs := by
  rcases h.of_bind with ⟨e, he, rfl⟩ | ⟨_, x₁, x₂, h₁, h₂, rfl⟩
  · exact reaches_verifyFulfillment rfl he
  · obtain ⟨rfl, hc⟩ := reaches_verifyFulfillment rfl h₁
    obtain ⟨rfl, rfl⟩ := reaches_log.1 h₂
    exact ⟨rfl, hc⟩

/-- Verification of a record with randomness looks for the fulfilment and checks it. -/
theorem reaches_verify {form : SeedForm} {randomness : Randomness} {bs : Bytes}
    (hform : form.resolve = .ok seed) (hr : randomness.randomness = some bs)
    {x : List (Exchange Ledger.service)} {r : Except Error Unit}
    (h : Reaches (τ := τ) (verify env form randomness) x r) :
    (∃ e, Reaches (τ := τ) (findFulfillment env (.address seed)) x (.error e) ∧ r = .error e) ∨
      ∃ found, Reaches (τ := τ) (findFulfillment env (.address seed)) x (.ok found) ∧
        r = check found.2 seed bs := by
  have hnext := (reaches_resolve_bind hform).1 h
  simp only [hr] at hnext
  rcases hnext.of_bind with ⟨e, he, rfl⟩ | ⟨found, x₁, x₂, h₁, h₂, rfl⟩
  · exact .inl ⟨e, he, rfl⟩
  · obtain ⟨rfl, hc⟩ := reaches_verified h₂
    exact .inr ⟨found, by simpa using h₁, hc⟩

/-! ### Honest fulfilments are accepted -/

variable {form : SeedForm} {address : Address} {key : Octets 32} {signature : Signature}
  {view : (c : Ledger.Call) → c.Reply} {newer older : List String} {name : String} {ixs : List Json}
  {position index : Nat} {data rest : Bytes}

/-- On a ledger at rest, an account that holds a record gives this record. -/
theorem get_eq_ok {record : Randomness} (hform : form.resolve = .ok seed)
    (ha : env.randomnessAccount? seed = some address) (henc : record.encode = .ok data)
    (hseed : record.seed = seed.bytes) (hdata : view (.accountData address) = some (data ++ rest))
    {x : List (Exchange Ledger.service)} {r : Except Error Randomness} (hx : Shown view x)
    (h : Reaches (τ := τ) (get env form) x r) : r = .ok record := by
  obtain ⟨answer, rfl, rfl⟩ := reaches_get hform ha h
  have hanswer : answer = .ok (some (data ++ rest)) := by
    rw [← hdata]
    exact (shown_cons.1 hx).1
  rw [hanswer, lookupOutcome, readRandomness_encode_append henc hseed]
  rfl

/-- On a ledger at rest, an honest fulfilment in the history verifies its signature. -/
theorem verify_eq_ok {record : Randomness} (hform : form.resolve = .ok seed)
    (ha : env.randomnessAccount? seed = some address)
    (hr : record.randomness = some signature.bytes)
    (hkey : Ed25519.verify key seed.bytes signature = true) (hposition : position < 65536)
    (hsucceeded : Succeeded (view (.transaction name)))
    (htop : TopLevel (view (.transaction name)) ixs)
    (honest : Honest env.program seed key signature position index ixs)
    (hnewer : ∀ n ∈ newer, PassedOver env.program seed (view (.transaction n)))
    (hlisted : view (.signatures address) = newer ++ name :: older)
    {x : List (Exchange Ledger.service)} {r : Except Error Unit} (hx : Shown view x)
    (h : Reaches (τ := τ) (verify env form record) x r) : r = .ok () := by
  have hfound : ∀ {r}, Reaches (τ := τ) (findFulfillment env (.address seed)) x r →
      r = .ok (name, view (.transaction name)) :=
    findFulfillment_eq_ok ha ((judge_of_succeeded hsucceeded).trans (honest.isFulfillment htop))
      (fun n hn => judge_of_passedOver (hnewer n hn)) hlisted hx
  rcases reaches_verify hform hr h with ⟨e, hfind, -⟩ | ⟨found, hfind, rfl⟩
  · cases hfound hfind
  · obtain rfl := Except.ok.inj (hfound hfind)
    exact check_eq_ok_iff.2 ⟨signature, rfl, key, honest.extractKey htop hposition, hkey⟩

/-! ### Only evidence is accepted -/

/-- Whatever the ledger answers, a verification that succeeds has seen a transaction from the history of
the seed's address that is evidence for the randomness, which is a signature. -/
theorem exists_evidence_of_verify [Clock τ] (form : SeedForm) (randomness : Randomness)
    (m : Model Ledger.service τ σ) (t : τ) (s : σ)
    (h : ((verify env form randomness).run m t s).result = .ok ()) :
    ∃ (seed : Seed) (signature : Signature) (address : Address) (listed : List String)
      (name : String) (tx : Json),
      form.resolve = .ok seed ∧ randomness.randomness = some signature.bytes ∧
      env.randomnessAccount? seed = some address ∧
      ⟨.signatures address, .ok listed⟩ ∈ (verify env form randomness).transcript m t s ∧
      name ∈ listed ∧
      ⟨.transaction name, .ok tx⟩ ∈ (verify env form randomness).transcript m t s ∧
      Evidence env.program seed signature tx := by
  have hrun := reaches_run m (verify env form randomness) t s
  rw [h] at hrun
  generalize (verify env form randomness).transcript m t s = x at hrun ⊢
  cases hform : form.resolve with
  | error e => cases ((reaches_resolve_bind_error hform).1 hrun).2
  | ok seed =>
    cases hr : randomness.randomness with
    | none =>
      have hnext := (reaches_resolve_bind hform).1 hrun
      simp only [hr, reaches_fail] at hnext
      cases hnext.2
    | some bs =>
      rcases reaches_verify hform hr hrun with ⟨e, -, he⟩ | ⟨⟨name, tx⟩, hfound, hcheck⟩
      · cases he
      obtain ⟨address, listed, ha, hlisted, hname, hasked, hsucceeded, hfulfills⟩ :=
        exists_of_findFulfillment hfound
      obtain ⟨signature, rfl, key, hkey, hvalid⟩ := check_eq_ok_iff.1 hcheck.symm
      obtain ⟨ixs, position, htop, hchecks⟩ := exists_checksAt_of_extractKey hkey
      exact ⟨seed, signature, address, listed, name, tx, rfl, rfl, ha, hlisted, hname, hasked,
        hsucceeded, hfulfills, ixs, position, key, htop, hchecks, hvalid⟩

/-- The sample is accepted, and so is evidence. -/
theorem exists_evidence_of_verify_sample :
    ((verify Sample.env (.address Sample.seed) Sample.record).run (atRest Sample.view) (0 : Rat)
      ()).result = .ok () ∧
    ∃ (seed : Seed) (signature : Signature) (address : Address) (listed : List String)
      (name : String) (tx : Json),
      (SeedForm.address Sample.seed).resolve = .ok seed ∧
      Sample.record.randomness = some signature.bytes ∧
      Sample.env.randomnessAccount? seed = some address ∧
      ⟨.signatures address, .ok listed⟩ ∈ (verify Sample.env (.address Sample.seed)
        Sample.record).transcript (atRest Sample.view) (0 : Rat) () ∧
      name ∈ listed ∧
      ⟨.transaction name, .ok tx⟩ ∈ (verify Sample.env (.address Sample.seed)
        Sample.record).transcript (atRest Sample.view) (0 : Rat) () ∧
      Evidence Sample.env.program seed signature tx := by
  have hr : Sample.record.randomness = some Sample.signature.bytes := rfl
  have hrun := reaches_run (atRest Sample.view)
    (verify Sample.env (.address Sample.seed) Sample.record) (0 : Rat) ()
  have haccepted := verify_eq_ok Sample.resolve_eq Sample.randomnessAccount_eq hr
    Sample.verify_signature (by decide) Sample.succeeded Sample.topLevel Sample.honest
    Sample.passedOver rfl (shown_atRest _ _ _ _) hrun
  exact ⟨haccepted, exists_evidence_of_verify _ _ _ _ _ haccepted⟩

/-- What an honest oracle leaves on the ledger comes back: the account gives the record, and the record
verifies, whatever the other instructions are, whatever is listed behind the fulfilment, and whatever
follows the record in the account. -/
theorem get_and_verify_of_honest [Clock τ] (hform : form.resolve = .ok seed)
    (ha : env.randomnessAccount? seed = some address)
    (hkey : Ed25519.verify key seed.bytes signature = true) (hposition : position < 65536)
    (hsucceeded : Succeeded (view (.transaction name)))
    (htop : TopLevel (view (.transaction name)) ixs)
    (honest : Honest env.program seed key signature position index ixs)
    (hnewer : ∀ n ∈ newer, PassedOver env.program seed (view (.transaction n)))
    (hlisted : view (.signatures address) = newer ++ name :: older)
    (henc : (Randomness.mk seed.bytes (some signature.bytes) .fulfilled).encode = .ok data)
    (hdata : view (.accountData address) = some (data ++ rest))
    (m : Model Ledger.service τ σ) (t : τ) (s : σ) :
    (Shown view ((get env form).transcript m t s) →
      ((get env form).run m t s).result = .ok ⟨seed.bytes, some signature.bytes, .fulfilled⟩) ∧
    (Shown view ((verify env form ⟨seed.bytes, some signature.bytes, .fulfilled⟩).transcript m t s) →
      ((verify env form ⟨seed.bytes, some signature.bytes, .fulfilled⟩).run m t s).result =
        .ok ()) := by
  constructor
  · intro hx
    exact get_eq_ok hform ha henc rfl hdata hx (reaches_run m (get env form) t s)
  · intro hx
    exact verify_eq_ok hform ha rfl hkey hposition hsucceeded htop honest hnewer hlisted hx
      (reaches_run m (verify env form _) t s)

theorem get_and_verify_of_honest_sample :
    Honest Sample.env.program Sample.seed Sample.key Sample.signature 0 0xffff Sample.instructions ∧
    ((get Sample.env (.address Sample.seed)).run (atRest Sample.view) (0 : Rat) ()).result =
      .ok Sample.record ∧
    ((verify Sample.env (.address Sample.seed) Sample.record).run (atRest Sample.view) (0 : Rat)
      ()).result = .ok () := by
  have hboth := get_and_verify_of_honest Sample.resolve_eq Sample.randomnessAccount_eq
    Sample.verify_signature (by decide) Sample.succeeded Sample.topLevel Sample.honest
    Sample.passedOver rfl Sample.encode_record rfl (atRest Sample.view) (0 : Rat) ()
  exact ⟨Sample.honest, hboth.1 (shown_atRest _ _ _ _), hboth.2 (shown_atRest _ _ _ _)⟩

end Client

end VrfClient
