import VrfClient.Proofs.Prompt
import VrfClient.Proofs.Requesting

/-!
When a request submits. A request asks its questions one after the other, without waiting, so what it does is
decided by the answers that the ledger gives in the states that they lead to. `Buildable` is all that building
takes, as data: the answers to its two questions, the states behind them, and the signature of the signer.
`Ready` is all that a submission takes, which is an absent account in front of that. From there both directions
are read off the ways of a request: where all is ready, the request asks its four questions and gives the answer
to the last one (`RequestRun.of_ready`), and a request that submits was ready (`RequestRun.exists_ready`). -/

namespace VrfClient.Client

open Plan

variable {τ σ : Type} {env : Env} {signer : Signer} {seed : Seed} {address : Address} {form : SeedForm}
  {m : Model Ledger.service τ σ} {t : τ} {s : σ} {x : List (Exchange Ledger.service)}

/-! ### Ready to build -/

/-- Everything that building the request of an account takes. The configuration address derives, and the ledger
gives an account there with a treasury, then a block hash; key and signature of the signer have their lengths.
`configured` and `dated` are the states of the ledger behind these answers. -/
structure Buildable (env : Env) (signer : Signer) (seed : Seed) (address : Address)
    (m : Model Ledger.service τ σ) (t : τ) (s : σ) where
  payer : Address
  config : Address
  treasury : Address
  data : Bytes
  blockhash : Octets 32
  signature : Signature
  configured : σ
  dated : σ
  funded : Funded env signer payer config
  config_answer : m.answer (.accountData config) t s = (.ok (some data), configured)
  treasury_eq : NetworkConfig.decodeTreasury data = .ok treasury
  blockhash_answer : m.answer .latestBlockhash t configured = (.ok blockhash, dated)
  signed : signature.bytes =
    signer.sign (requestMessage env seed payer address config treasury blockhash).bytes

namespace Buildable

/-- The transaction that is built then. -/
def transaction (h : Buildable env signer seed address m t s) : Transaction :=
  ⟨[h.signature], requestMessage env seed h.payer address h.config h.treasury h.blockhash⟩

/-- The questions on the way, with their answers. -/
def exchanges (h : Buildable env signer seed address m t s) : List (Exchange Ledger.service) :=
  [⟨.accountData h.config, .ok (some h.data)⟩, ⟨.latestBlockhash, .ok h.blockhash⟩]

end Buildable

theorem Funded.unique {payer payer' config config' : Address} (h : Funded env signer payer config)
    (h' : Funded env signer payer' config') : payer = payer' ∧ config = config' :=
  ⟨Octets.bytes_inj.1 (h.payer_eq.trans h'.payer_eq.symm),
    Option.some.inj (h.config_eq.symm.trans h'.config_eq)⟩

/-- Then building goes all the way. -/
theorem BuildRun.of_buildable {r : Except Error Transaction} (h : BuildRun env signer seed address x r)
    (build : Buildable env signer seed address m t s) (hx : Answers m t s x) :
    x = build.exchanges ∧ r = .ok build.transaction := by
  cases h with
  | badKey hkey => exact absurd (build.funded.payer_eq ▸ build.payer.length_bytes) hkey
  | noConfigAddress _ hnone =>
    have hc := build.funded.config_eq
    rw [hnone] at hc
    cases hc
  | noTreasury hf ht =>
    obtain ⟨rfl, rfl⟩ := hf.unique build.funded
    obtain ⟨rfl, -⟩ := (answers_cons build.config_answer).1 hx
    simp [treasuryOutcome, build.treasury_eq] at ht
  | noBlockhash hf _ =>
    obtain ⟨rfl, rfl⟩ := hf.unique build.funded
    obtain ⟨-, hrest⟩ := (answers_cons build.config_answer).1 hx
    obtain ⟨⟨⟩, -⟩ := (answers_cons build.blockhash_answer).1 hrest
  | badSignature hf ht hs hne =>
    obtain ⟨rfl, rfl⟩ := hf.unique build.funded
    obtain ⟨⟨⟩, hrest⟩ := (answers_cons build.config_answer).1 hx
    obtain ⟨⟨⟩, -⟩ := (answers_cons build.blockhash_answer).1 hrest
    obtain rfl := Except.ok.inj (ht.symm.trans build.treasury_eq)
    rw [← hs, ← build.signed] at hne
    exact absurd build.signature.length_bytes hne
  | built hf ht hs =>
    obtain ⟨rfl, rfl⟩ := hf.unique build.funded
    obtain ⟨⟨⟩, hrest⟩ := (answers_cons build.config_answer).1 hx
    obtain ⟨⟨⟩, -⟩ := (answers_cons build.blockhash_answer).1 hrest
    obtain rfl := Except.ok.inj (ht.symm.trans build.treasury_eq)
    obtain rfl := Octets.bytes_inj.1 (hs.symm.trans build.signed.symm)
    exact ⟨rfl, rfl⟩

/-- So there is such a run of building. -/
theorem Buildable.reaches [Clock τ] (build : Buildable env signer seed address m t s)
    (hform : form.resolve = .ok seed) (ha : env.randomnessAccount? seed = some address) :
    Reaches (Client.build (τ := τ) env signer form) build.exchanges (.ok build.transaction) := by
  have hreached := reaches_run m (Client.build env signer form) t s
  obtain ⟨hx, hr⟩ :=
    (reaches_build hform ha hreached).of_buildable build (prompt_build signer).answers_transcript
  rwa [hx, hr] at hreached

/-! ### Ready to submit -/

/-- Everything that a submission takes. The address of the account of the seed derives, the ledger says that the
account is absent, and from the state behind that answer on the request can be built. -/
structure Ready (env : Env) (signer : Signer) (seed : Seed) (m : Model Ledger.service τ σ) (t : τ)
    (s : σ) where
  address : Address
  asked : σ
  derived : env.randomnessAccount? seed = some address
  absent : m.answer (.accountData address) t s = (.ok none, asked)
  build : Buildable env signer seed address m t asked

namespace Ready

/-- What the ledger answers to the submission. -/
def answer (h : Ready env signer seed m t s) : Except Error String :=
  (m.answer (.send h.build.transaction.bytes) t h.build.dated).1

/-- The whole request. -/
def exchanges (h : Ready env signer seed m t s) : List (Exchange Ledger.service) :=
  ⟨.accountData h.address, .ok none⟩ :: (h.build.exchanges ++ [⟨.send h.build.transaction.bytes, h.answer⟩])

theorem submissions_exchanges (h : Ready env signer seed m t s) :
    submissions h.exchanges = [h.build.transaction.bytes] := rfl

end Ready

variable {r : Except Error (Option String)}

/-- Once the address derives, a request asks for the account there, and the answer says how it goes on. -/
theorem RequestRun.of_address (h : RequestRun env signer seed x r)
    (ha : env.randomnessAccount? seed = some address) :
    (∃ e, x = [⟨.accountData address, .error e⟩] ∧ r = .error e) ∨
    (∃ data, x = [⟨.accountData address, .ok (some data)⟩] ∧
      r = (readRandomness address seed data).map fun _ => none) ∨
    ∃ y, x = ⟨.accountData address, .ok none⟩ :: y ∧
      ((∃ e, BuildRun env signer seed address y (.error e) ∧ r = .error e) ∨
        ∃ z tx answer, BuildRun env signer seed address z (.ok tx) ∧
          y = z ++ [⟨.send tx.bytes, answer⟩] ∧ r = answer.map some) := by
  cases h with
  | noAddress hnone => cases hnone.symm.trans ha
  | unanswered ha' =>
    obtain rfl := Option.some.inj (ha'.symm.trans ha)
    exact .inl ⟨_, rfl, rfl⟩
  | present ha' hr =>
    obtain rfl := Option.some.inj (ha'.symm.trans ha)
    exact .inr (.inl ⟨_, rfl, hr⟩)
  | unbuilt ha' hb =>
    obtain rfl := Option.some.inj (ha'.symm.trans ha)
    exact .inr (.inr ⟨_, rfl, .inl ⟨_, hb, rfl⟩⟩)
  | sent ha' hb =>
    obtain rfl := Option.some.inj (ha'.symm.trans ha)
    exact .inr (.inr ⟨_, rfl, .inr ⟨_, _, _, hb, rfl, rfl⟩⟩)

/-- Where all is ready, a request goes all the way, and gives the answer to its submission. -/
theorem RequestRun.of_ready (h : RequestRun env signer seed x r) (ready : Ready env signer seed m t s)
    (hx : Answers m t s x) : x = ready.exchanges ∧ r = ready.answer.map some := by
  rcases h.of_address ready.derived with ⟨e, rfl, -⟩ | ⟨data, rfl, -⟩ | ⟨y, rfl, hy⟩
  · obtain ⟨⟨⟩, -⟩ := (answers_cons ready.absent).1 hx
  · obtain ⟨⟨⟩, -⟩ := (answers_cons ready.absent).1 hx
  · obtain ⟨-, hrest⟩ := (answers_cons ready.absent).1 hx
    rcases hy with ⟨e, hb, -⟩ | ⟨z, tx, answer, hb, rfl, rfl⟩
    · cases (hb.of_buildable ready.build hrest).2
    · obtain ⟨rfl, htx⟩ := hb.of_buildable ready.build hrest.of_append
      obtain rfl := Except.ok.inj htx
      -- The answer to the submission is that of the state behind the block hash.
      obtain ⟨-, hdated⟩ := (answers_cons ready.build.config_answer).1 hrest
      obtain ⟨-, rfl, -⟩ := (answers_cons ready.build.blockhash_answer).1 hdated
      exact ⟨rfl, rfl⟩

/-- A request that submits was ready. -/
theorem RequestRun.exists_ready (h : RequestRun env signer seed x r) (hx : Answers m t s x)
    (hne : submissions x ≠ []) : Nonempty (Ready env signer seed m t s) := by
  cases h with
  | noAddress _ => exact absurd rfl hne
  | unanswered _ => exact absurd rfl hne
  | present _ _ => exact absurd rfl hne
  | unbuilt _ hb => exact absurd hb.submissions_eq hne
  | sent ha hb =>
    cases hb with
    | built hf ht hs =>
      obtain ⟨habsent, hconfig, hblockhash, -⟩ := hx
      exact ⟨{
        derived := ha
        absent := Prod.ext habsent.symm rfl
        build := {
          funded := hf
          config_answer := Prod.ext hconfig.symm rfl
          treasury_eq := ht
          blockhash_answer := Prod.ext hblockhash.symm rfl
          signed := hs.symm
          .. }
        .. }⟩

/-- A request submits exactly if all is ready. -/
theorem RequestRun.submissions_ne_nil_iff (h : RequestRun env signer seed x r) (hx : Answers m t s x) :
    submissions x ≠ [] ↔ Nonempty (Ready env signer seed m t s) := by
  refine ⟨h.exists_ready hx, ?_⟩
  rintro ⟨ready⟩
  rw [(h.of_ready ready hx).1, ready.submissions_exchanges]
  exact List.cons_ne_nil _ _

/-! ### Nothing to submit -/

/-- Where the ledger holds data for the account of the seed, nothing else is asked, and the result says whether the
data is a record of the seed. -/
theorem RequestRun.of_present (h : RequestRun env signer seed x r) (hx : Answers m t s x) {data : Bytes}
    (ha : env.randomnessAccount? seed = some address)
    (hanswer : (m.answer (.accountData address) t s).1 = .ok (some data)) :
    x = [⟨.accountData address, .ok (some data)⟩] ∧
      r = (readRandomness address seed data).map fun _ => none := by
  rcases h.of_address ha with ⟨e, rfl, -⟩ | ⟨data', rfl, rfl⟩ | ⟨y, rfl, -⟩
  · cases hx.1.trans hanswer
  · cases hx.1.trans hanswer
    exact ⟨rfl, rfl⟩
  · cases hx.1.trans hanswer

/-- A request gives nothing exactly where the ledger holds a record of the seed. -/
theorem RequestRun.eq_ok_none_iff (h : RequestRun env signer seed x r) (hx : Answers m t s x) :
    r = .ok none ↔ ∃ address data record, env.randomnessAccount? seed = some address ∧
      (m.answer (.accountData address) t s).1 = .ok (some data) ∧
      readRandomness address seed data = .ok record := by
  constructor
  · intro hr
    cases h with
    | noAddress _ => cases hr
    | unanswered _ => cases hr
    | unbuilt _ _ => cases hr
    | @sent _ _ _ answer _ _ => cases answer <;> cases hr
    | @present a data _ ha hread =>
      cases hrecord : readRandomness a seed data with
      | error e =>
        rw [hread, hrecord] at hr
        cases hr
      | ok record => exact ⟨a, data, record, ha, hx.1.symm, hrecord⟩
  · rintro ⟨a, data, record, ha, hanswer, hrecord⟩
    rw [(h.of_present hx ha hanswer).2, hrecord]
    rfl

/-- A request gives a signature exactly if all is ready and the ledger answers its submission with it. -/
theorem RequestRun.eq_ok_some_iff (h : RequestRun env signer seed x r) (hx : Answers m t s x)
    (signature : String) :
    r = .ok (some signature) ↔ ∃ ready : Ready env signer seed m t s, ready.answer = .ok signature := by
  constructor
  · intro hr
    have hne : submissions x ≠ [] := by
      cases h with
      | noAddress _ => cases hr
      | unanswered _ => cases hr
      | unbuilt _ _ => cases hr
      | @present a data _ _ hread =>
        rw [hread] at hr
        cases hrecord : readRandomness a seed data <;> rw [hrecord] at hr <;> cases hr
      | sent _ hb => simp [hb.submissions_eq]
    obtain ⟨ready⟩ := h.exists_ready hx hne
    refine ⟨ready, ?_⟩
    rw [(h.of_ready ready hx).2] at hr
    cases hanswer : ready.answer with
    | error e => rw [hanswer] at hr; cases hr
    | ok found => rw [hanswer] at hr; cases hr; rfl
  · rintro ⟨ready, hanswer⟩
    rw [(h.of_ready ready hx).2, hanswer]
    rfl

/-! ### Every request -/

/-- Building asks for the configuration account and a block hash. -/
theorem BuildRun.calls {r : Except Error Transaction} (h : BuildRun env signer seed address x r) :
    ∃ config, x.map Exchange.call <+: [.accountData config, .latestBlockhash] ∧
      (0 < x.length → env.configAccount?.map Prod.fst = some config) := by
  cases h with
  | badKey _ => exact ⟨systemProgram, List.nil_prefix, by simp⟩
  | noConfigAddress _ _ => exact ⟨systemProgram, List.nil_prefix, by simp⟩
  | noTreasury hf _ => exact ⟨_, ⟨[_], rfl⟩, fun _ => hf.config_eq⟩
  | noBlockhash hf _ => exact ⟨_, List.prefix_rfl, fun _ => hf.config_eq⟩
  | badSignature hf _ _ _ => exact ⟨_, List.prefix_rfl, fun _ => hf.config_eq⟩
  | built hf _ _ => exact ⟨_, List.prefix_rfl, fun _ => hf.config_eq⟩

theorem RequestRun.calls (h : RequestRun env signer seed x r) : ∃ address config tx,
    x.map Exchange.call <+: [.accountData address, .accountData config, .latestBlockhash, .send tx] ∧
      (0 < x.length → env.randomnessAccount? seed = some address) ∧
      (1 < x.length → env.configAccount?.map Prod.fst = some config) := by
  cases h with
  | noAddress _ => exact ⟨systemProgram, systemProgram, [], List.nil_prefix, by simp, by simp⟩
  | unanswered ha => exact ⟨_, systemProgram, [], ⟨_, rfl⟩, fun _ => ha, by simp⟩
  | present ha _ => exact ⟨_, systemProgram, [], ⟨_, rfl⟩, fun _ => ha, by simp⟩
  | unbuilt ha hb =>
    obtain ⟨config, hcalls, hc⟩ := hb.calls
    refine ⟨_, config, [], ?_, fun _ => ha, by simpa using hc⟩
    exact (List.prefix_cons_inj _).2 (hcalls.trans ⟨[.send []], rfl⟩)
  | sent ha hb =>
    cases hb with
    | built hf _ _ => exact ⟨_, _, _, List.prefix_rfl, fun _ => ha, fun _ => hf.config_eq⟩

/-- The account of the seed is asked for first. -/
theorem RequestRun.head?_eq (h : RequestRun env signer seed x r) (hx : Answers m t s x)
    (ha : env.randomnessAccount? seed = some address) :
    x.head? = some ⟨.accountData address, (m.answer (.accountData address) t s).1⟩ := by
  rcases h.of_address ha with ⟨e, rfl, -⟩ | ⟨data, rfl, -⟩ | ⟨y, rfl, -⟩ <;> rw [List.head?_cons, ← hx.1]

/-- What holds of every request for a seed, started at this time with the ledger in this state. -/
structure RequestSpec (env : Env) (signer : Signer) (seed : Seed) (m : Model Ledger.service τ σ) (t : τ)
    (s : σ) (x : List (Exchange Ledger.service)) (r : Except Error (Option String)) : Prop where
  /-- It goes one of the ways that there are, by the answers that the ledger gives. -/
  way : RequestRun env signer seed x r
  answered : Answers m t s x
  /-- The questions come in this order, as far as it gets. -/
  calls : ∃ address config tx,
    x.map Exchange.call <+:
      [.accountData address, .accountData config, .latestBlockhash, .send tx] ∧
    (0 < x.length → env.randomnessAccount? seed = some address) ∧
    (1 < x.length → env.configAccount?.map Prod.fst = some config)
  /-- It starts with the account of the seed. -/
  starts : ∀ address, env.randomnessAccount? seed = some address →
    x.head? = some ⟨.accountData address, (m.answer (.accountData address) t s).1⟩
  /-- Any data in the account ends it. -/
  present : ∀ address data, env.randomnessAccount? seed = some address →
    (m.answer (.accountData address) t s).1 = .ok (some data) →
    x = [⟨.accountData address, .ok (some data)⟩] ∧ (r = .ok none ∨ ∃ e, r = .error (.decode e))
  /-- It submits exactly if all is ready. -/
  submits : submissions x ≠ [] ↔ Nonempty (Ready env signer seed m t s)
  /-- Then it goes all the way, and its result is the answer to the submission. -/
  sent : ∀ ready : Ready env signer seed m t s, x = ready.exchanges ∧ r = ready.answer.map some
  /-- It gives a signature exactly if the submission is answered with it, -/
  confirmed : ∀ signature, r = .ok (some signature) ↔
    ∃ ready : Ready env signer seed m t s, ready.answer = .ok signature
  /-- and nothing exactly if the account holds a record of the seed; all else is an error. -/
  declined : r = .ok none ↔ ∃ address data record, env.randomnessAccount? seed = some address ∧
    (m.answer (.accountData address) t s).1 = .ok (some data) ∧
    readRandomness address seed data = .ok record

theorem RequestRun.spec (h : RequestRun env signer seed x r) (hx : Answers m t s x) :
    RequestSpec env signer seed m t s x r where
  way := h
  answered := hx
  calls := h.calls
  starts _ ha := h.head?_eq hx ha
  present a data ha hanswer := by
    obtain ⟨rfl, rfl⟩ := h.of_present hx ha hanswer
    refine ⟨rfl, ?_⟩
    cases hrecord : readRandomness a seed data with
    | ok record => exact .inl rfl
    | error e =>
      obtain ⟨fault, rfl⟩ := readRandomness_error hrecord
      exact .inr ⟨fault, rfl⟩
  submits := h.submissions_ne_nil_iff hx
  sent ready := h.of_ready ready hx
  confirmed := h.eq_ok_some_iff hx
  declined := h.eq_ok_none_iff hx

/-- Every run of a request meets the specification. -/
theorem requestSpec_run [Clock τ] (hform : form.resolve = .ok seed) (m : Model Ledger.service τ σ) (t : τ)
    (s : σ) : RequestSpec env signer seed m t s ((request env signer form).transcript m t s)
      ((request env signer form).run m t s).result :=
  (reaches_request hform (reaches_run m _ t s)).spec (prompt_request signer).answers_transcript

end VrfClient.Client
