import VrfClient.Proofs.Direct
import VrfClient.Proofs.Lasting
import VrfClient.Proofs.SignedRequest

/-!
Sessions. A session runs operations one after the other against one ledger, whose state and clock each
takes over from the one before; an operation that fails does not end it. Only requests submit, each at
most once. An account that is there stays there on a ledger that removes none, so once the account of a
seed exists no later request for the seed submits. A ledger that opens the accounts of the transactions
that it confirms (`OpensAccounts`) creates what was requested, so there a seed is not requested again. -/

namespace VrfClient

namespace Client

open Plan Ledger

variable {τ σ α : Type} {env : Env}

/-! ### Operations -/

/-- What a step of a session can be. -/
inductive Operation (τ : Type) where
  | get (form : SeedForm)
  | networkConfig
  | build (signer : Signer) (form : SeedForm)
  | request (signer : Signer) (form : SeedForm)
  | wait (form : SeedForm) (timeout interval : τ)
  | verify (form : SeedForm) (randomness : Randomness)

/-- A plan whose value is not needed. -/
def dropValue (p : Ledger.Action τ α) : Ledger.Action τ Unit := p >>= fun _ => pure ()

theorem exists_reaches_of_dropValue {p : Ledger.Action τ α} {x : List (Exchange Ledger.service)}
    {r : Except Error Unit} (h : Reaches (dropValue p) x r) : ∃ r', Reaches p x r' := by
  rcases h.of_bind with ⟨e, he, -⟩ | ⟨a, x₁, x₂, h₁, h₂, rfl⟩
  · exact ⟨_, he⟩
  · obtain ⟨rfl, -⟩ := reaches_pure.1 h₂
    exact ⟨_, by simpa using h₁⟩

theorem transcript_dropValue [Clock τ] (m : Model Ledger.service τ σ) (p : Ledger.Action τ α) (t : τ) (s : σ) :
    (dropValue p).transcript m t s = p.transcript m t s := by
  refine (transcript_handle m p _ t s).trans ?_
  cases (p.run m t s).result <;> exact List.append_nil _

theorem direct_dropValue {p : Ledger.Action τ α} (h : Direct IsQuery p) :
    Direct IsQuery (dropValue p) := h.bind fun _ => .done _

namespace Operation

/-- What a step does. -/
def plan [Clock τ] (env : Env) : Operation τ → Ledger.Action τ Unit
  | .get form => dropValue (Client.get env form)
  | .networkConfig => dropValue (Client.networkConfig env)
  | .build signer form => dropValue (Client.build env signer form)
  | .request signer form => dropValue (Client.request env signer form)
  | .wait form timeout interval => dropValue (Client.waitFor env form timeout interval)
  | .verify form randomness => Client.verify env form randomness

/-- The step requests the seed whose randomness account this is. -/
def Requests (env : Env) (a : Address) (o : Operation τ) : Prop :=
  ∃ signer form seed, o = .request signer form ∧ form.resolve = .ok seed ∧
    env.randomnessAccount? seed = some a

variable [Clock τ]

/-- Only requests submit. -/
theorem exists_request_of_submissions {o : Operation τ} {x : List (Exchange Ledger.service)}
    {r : Except Error Unit} (h : Reaches (o.plan env) x r) (hne : submissions x ≠ []) :
    ∃ signer form, o = .request signer form := by
  have hasks : ¬ Direct IsQuery (o.plan env) := fun hp => hne (submissions_eq_nil_of_direct hp h)
  cases o with
  | request signer form => exact ⟨signer, form, rfl⟩
  | get form => exact absurd (direct_dropValue direct_get) hasks
  | networkConfig => exact absurd (direct_dropValue direct_networkConfig) hasks
  | build signer form => exact absurd (direct_dropValue (direct_build signer)) hasks
  | wait form timeout interval =>
    exact absurd (direct_dropValue (direct_waitFor timeout interval)) hasks
  | verify form randomness => exact absurd (direct_verify randomness) hasks

/-- No step submits twice. -/
theorem length_submissions_le {o : Operation τ} {x : List (Exchange Ledger.service)}
    {r : Except Error Unit} (h : Reaches (o.plan env) x r) : (submissions x).length ≤ 1 := by
  by_cases hne : submissions x = []
  · simp [hne]
  obtain ⟨signer, form, rfl⟩ := exists_request_of_submissions h hne
  obtain ⟨r', hr⟩ := exists_reaches_of_dropValue h
  cases hform : form.resolve with
  | error e =>
    obtain ⟨rfl, -⟩ := (reaches_resolve_bind_error hform).1 hr
    exact Nat.zero_le 1
  | ok seed => exact (reaches_request hform hr).length_submissions

/-- A request that submits was told that the account is absent. -/
theorem Requests.absent {o : Operation τ} {a : Address} (ho : o.Requests env a)
    {x : List (Exchange Ledger.service)} {r : Except Error Unit} (h : Reaches (o.plan env) x r)
    (hne : submissions x ≠ []) : ⟨.accountData a, .ok none⟩ ∈ x := by
  obtain ⟨signer, form, seed, rfl, hform, ha⟩ := ho
  obtain ⟨r', hr⟩ := exists_reaches_of_dropValue h
  obtain ⟨address, haddress, habsent⟩ := (reaches_request hform hr).exists_absent hne
  obtain rfl := Option.some.inj (ha.symm.trans haddress)
  exact habsent

end Operation

/-! ### Sessions -/

section Sessions

variable [Clock τ] {m : Model Ledger.service τ σ}

/-- While the account of a seed is there, a request for the seed submits nothing. -/
theorem submissions_eq_of_stays {t : τ} {s : σ} {a : Address} (h : Stays m t s a) {o : Operation τ}
    (ho : o.Requests env a) : submissions ((o.plan env).transcript m t s) = [] := by
  by_cases hne : submissions ((o.plan env).transcript m t s) = []
  · exact hne
  have habsent := ho.absent (reaches_run m (o.plan env) t s) hne
  obtain ⟨t', s', hl, hanswer, -⟩ := exists_later_of_mem_transcript habsent
  exact absurd hanswer.symm (h t' s' hl)

/-- A step of a session with what was asked in it. -/
structure Step (τ : Type) where
  operation : Operation τ
  exchanges : List (Exchange Ledger.service)

/-- The steps of a session, each from where the one before has left clock and ledger. -/
def session (env : Env) (m : Model Ledger.service τ σ) : List (Operation τ) → τ → σ → List (Step τ)
  | [], _, _ => []
  | o :: os, t, s => ⟨o, (o.plan env).transcript m t s⟩ ::
      session env m os ((o.plan env).run m t s).clock ((o.plan env).run m t s).state

/-- Every step of a session is a run of its operation, in a later state. -/
theorem exists_later_of_mem_session {step : Step τ} :
    ∀ {os : List (Operation τ)} {t : τ} {s : σ}, step ∈ session env m os t s →
      ∃ t' s', Later m t s t' s' ∧ step.exchanges = (step.operation.plan env).transcript m t' s'
  | [], _, _, h => by cases h
  | o :: os, t, s, h => by
    rcases List.mem_cons.1 h with rfl | h
    · exact ⟨t, s, .refl t s, rfl⟩
    · obtain ⟨t', s', hl, hx⟩ := exists_later_of_mem_session h
      exact ⟨t', s', (later_run m (o.plan env) t s).trans hl, hx⟩

/-- In a session no request submits for an account that is there from its start. -/
theorem submissions_session_eq_of_stays {t : τ} {s : σ} {a : Address} (h : Stays m t s a)
    {os : List (Operation τ)} {step : Step τ} (hstep : step ∈ session env m os t s)
    (ho : step.operation.Requests env a) : submissions step.exchanges = [] := by
  obtain ⟨t', s', hl, hx⟩ := exists_later_of_mem_session hstep
  rw [hx]
  exact submissions_eq_of_stays (h.later hl) ho

/-- Where every step of some kind leaves an account that stays, no later step submits a request for
it. -/
theorem session_pairwise {a : Address} {P : Step τ → Prop} :
    ∀ {os : List (Operation τ)} {t : τ} {s : σ},
      (∀ o t' s', Later m t s t' s' → P ⟨o, (o.plan env).transcript m t' s'⟩ →
        Stays m ((o.plan env).run m t' s').clock ((o.plan env).run m t' s').state a) →
      (session env m os t s).Pairwise fun earlier later =>
        P earlier → later.operation.Requests env a → submissions later.exchanges = []
  | [], _, _, _ => .nil
  | o :: os, t, s, hP => by
    refine .cons (fun later hmem hearlier ho => ?_) ?_
    · exact submissions_session_eq_of_stays (hP o t s (.refl t s) hearlier) hmem ho
    · exact session_pairwise fun o' t' s' hl => hP o' t' s' ((later_run m (o.plan env) t s).trans hl)

/-- The account was seen in this step. -/
def Step.Shows (a : Address) (step : Step τ) : Prop :=
  ∃ data, ⟨.accountData a, .ok (some data)⟩ ∈ step.exchanges

/-- The step is a request whose submission was confirmed. -/
def Step.Confirms (env : Env) (a : Address) (step : Step τ) : Prop :=
  step.operation.Requests env a ∧ ∃ tx signature, ⟨.send tx, .ok signature⟩ ∈ step.exchanges

/-- From this moment on a confirmed request leaves the account that it asked for, and it stays. -/
def Creates (env : Env) (m : Model Ledger.service τ σ) (t : τ) (s : σ) : Prop :=
  ∀ a o t' s', Later m t s t' s' → Step.Confirms env a ⟨o, (o.plan env).transcript m t' s'⟩ →
    Stays m ((o.plan env).run m t' s').clock ((o.plan env).run m t' s').state a

/-- What holds of every session. -/
structure SessionSpec (env : Env) (m : Model Ledger.service τ σ) (t : τ) (s : σ)
    (log : List (Step τ)) : Prop where
  only_requests : ∀ step ∈ log, submissions step.exchanges ≠ [] →
    ∃ signer form, step.operation = .request signer form
  at_most_once : ∀ step ∈ log, (submissions step.exchanges).length ≤ 1
  /-- Each request meets its specification in the state that the session has led to. -/
  requests : ∀ step ∈ log, ∀ signer form seed, step.operation = .request signer form →
    form.resolve = .ok seed → ∃ t' s' r, Later m t s t' s' ∧
      RequestSpec env signer seed m t' s' step.exchanges r
  /-- Nothing is submitted for an account that is there from the start. -/
  present : ∀ a, Stays m t s a → ∀ step ∈ log, step.operation.Requests env a →
    submissions step.exchanges = []
  /-- Nothing is submitted for an account that was seen before. -/
  seen : NeverRemoves m t s → ∀ a, log.Pairwise fun earlier later =>
    earlier.Shows a → later.operation.Requests env a → submissions later.exchanges = []
  /-- Nothing is submitted for an account that an earlier request has created. -/
  created : Creates env m t s → ∀ a, log.Pairwise fun earlier later =>
    earlier.Confirms env a → later.operation.Requests env a → submissions later.exchanges = []

theorem session_spec (env : Env) (m : Model Ledger.service τ σ) (os : List (Operation τ)) (t : τ)
    (s : σ) : SessionSpec env m t s (session env m os t s) where
  only_requests := by
    intro step hstep hne
    obtain ⟨t', s', -, hx⟩ := exists_later_of_mem_session hstep
    rw [hx] at hne
    exact Operation.exists_request_of_submissions (reaches_run m _ t' s') hne
  at_most_once := by
    intro step hstep
    obtain ⟨t', s', -, hx⟩ := exists_later_of_mem_session hstep
    rw [hx]
    exact Operation.length_submissions_le (reaches_run m _ t' s')
  requests := by
    intro step hstep signer form seed hrequest hform
    obtain ⟨t', s', hl, hx⟩ := exists_later_of_mem_session hstep
    refine ⟨t', s', ((request env signer form).run m t' s').result, hl, ?_⟩
    rw [hx, hrequest, Operation.plan, transcript_dropValue]
    exact requestSpec_run hform m t' s'
  present _ h _ hstep ho := submissions_session_eq_of_stays h hstep ho
  seen h a := by
    refine session_pairwise fun o t' s' hl => ?_
    rintro ⟨data, hdata⟩
    exact (h.later hl).stays hdata
  created h a := session_pairwise fun o t' s' hl hconfirms => h a o t' s' hl hconfirms

/-- A request asks at most four questions in order, ends where the account has any data, submits exactly
when the ledger and the signer give all that it takes, and gives the signature of its submission. In a session
nothing but a request submits, each at most once, and none for an account that is there. -/
theorem request_submits_at_most_once (env : Env) (m : Model Ledger.service τ σ) (t : τ) (s : σ) :
    (∀ signer form seed, form.resolve = .ok seed →
      RequestSpec env signer seed m t s ((request env signer form).transcript m t s)
        ((request env signer form).run m t s).result) ∧
    ∀ os : List (Operation τ), SessionSpec env m t s (session env m os t s) :=
  ⟨fun _ _ _ hform => requestSpec_run hform m t s, fun os => session_spec env m os t s⟩

end Sessions

/-! ### Opened accounts -/

/-- The account that a transaction opens and the seed that it is for, both read from its first instruction. -/
def opening? (tx : Bytes) : Option (Address × Seed) := do
  let (_, body) ← Legacy.signatures tx
  let (m, _) ← Legacy.message body
  let ix ← m.instructions.head?
  let i ← ix.accounts[1]?
  let a ← m.keys[i]?
  let seed ← (Payload.decodeRequest ix.data).toOption
  return (a, seed)

/-- A signed request opens the account of its seed. -/
theorem SignedRequest.opening?_eq {signer : Signer} {seed : Seed} {randomness config treasury : Address}
    {blockhash : Octets 32} {tx : Bytes}
    (h : SignedRequest env signer seed randomness config treasury blockhash tx) :
    opening? tx = some (randomness, seed) := by
  obtain ⟨payer, signature, body, m, -, hsignatures, -, hmessage, hasks⟩ := h
  obtain ⟨ix, hix, -, haccounts, hdata⟩ := hasks.instruction
  have hseed : Payload.decodeRequest ix.data = .ok seed := Payload.decodeRequest_eq_ok_iff.2 hdata
  have hsecond := congrArg (·[1]?) haccounts
  rw [List.getElem?_map] at hsecond
  obtain ⟨i, hi, hkey⟩ := Option.map_eq_some_iff.1 hsecond
  simp [opening?, hsignatures, hmessage, hix, hi, hkey, hseed, Except.toOption]

section Opening

variable [Clock τ] {m : Model Ledger.service τ σ} {t : τ} {s : σ}

/-- From this moment on, a confirmed transaction leaves the account that it opens, and it stays. -/
def OpensAccounts (m : Model Ledger.service τ σ) (t : τ) (s : σ) : Prop :=
  ∀ t' s' tx signature a seed, Later m t s t' s' → (m.answer (.send tx) t' s').1 = .ok signature →
    opening? tx = some (a, seed) → Stays m t' (m.answer (.send tx) t' s').2 a

/-- A ledger that opens accounts leaves those that confirmed requests have asked for. -/
theorem OpensAccounts.creates (h : OpensAccounts m t s) (env : Env) : Creates env m t s := by
  rintro a o t' s' hl ⟨⟨signer, form, seed, rfl, hform, ha⟩, tx, signature, hmem⟩
  obtain ⟨r, hr⟩ := exists_reaches_of_dropValue (reaches_run m _ t' s')
  obtain ⟨_, _, _, _, _, ha', -, -, -, -, hsigned⟩ :=
    (reaches_request hform hr).exists_signedRequest (mem_submissions hmem)
  obtain rfl := Option.some.inj (ha'.symm.trans ha)
  obtain ⟨t'', s'', hl', hanswer, hend⟩ := exists_later_of_mem_transcript hmem
  exact (h t'' s'' tx signature _ seed (hl.trans hl') hanswer.symm hsigned.opening?_eq).later hend

end Opening

end Client

/-! ### An instance -/

namespace Sample

open Client Ledger

/-- A ledger in memory that carries out requests: a submission opens the account that it asks for, with a record
that is pending. What is there already stays as it is. -/
def chain : Model Ledger.service Rat (List (Address × Bytes)) where
  answer c _ held := match c with
    | .accountData a => (.ok (Simulated.get? held a), held)
    | .latestBlockhash => (.ok (Octets.zero 32), held)
    | .send tx => (.ok "confirmed", held ++ ((opening? tx).map fun found =>
        (found.1, Randomness.layout found.2.bytes none 0)).toList)
    | .signatures _ => (.ok [], held)
    | .transaction _ => (.ok .null, held)

theorem answer_chain_accountData (a : Address) (t : Rat) (held : List (Address × Bytes)) :
    chain.answer (.accountData a) t held = (.ok (Simulated.get? held a), held) := rfl

theorem get?_append_ne_none {held more : List (Address × Bytes)} {a : Address}
    (h : Simulated.get? held a ≠ none) : Simulated.get? (held ++ more) a ≠ none := by
  simp only [Simulated.get?, ne_eq, Option.map_eq_none_iff, List.find?_append] at h ⊢
  simp [h]

/-- An account of the ledger stays. -/
theorem stays_chain {held : List (Address × Bytes)} {a : Address} (h : Simulated.get? held a ≠ none) (t : Rat) :
    Stays chain t held a := by
  refine stays_of_preserved (I := fun held => Simulated.get? held a ≠ none) (fun c t held hheld => ?_)
    (fun t held hheld hanswer => hheld (Except.ok.inj hanswer)) h
  cases c with
  | send tx => exact get?_append_ne_none hheld
  | _ => exact hheld

theorem opensAccounts_chain (held : List (Address × Bytes)) (t : Rat) : OpensAccounts chain t held := by
  intro t' held' tx signature a seed _ _ hopening
  refine stays_chain ?_ t'
  simp [chain, hopening, Simulated.get?, List.find?_append]

/-- It holds the configuration to begin with. -/
def chainStart : List (Address × Bytes) := [(config, configData)]

/-- The request of the seed. -/
def seedRequest : Operation Rat := .request signer (.address seed)

theorem requests_seedRequest : seedRequest.Requests env address := ⟨_, _, _, rfl, rfl, randomnessAccount_eq⟩

/-- A ledger in memory that holds the account of the seed, with nothing scheduled. -/
def heldLedger : Simulated.State Rat := Simulated.State.empty.setAccount address (some [])

theorem kept_heldLedger : Simulated.Kept heldLedger := List.forall_mem_nil _

theorem stays_heldLedger : Stays Simulated.model 0 heldLedger address := by
  refine Simulated.stays_of_held kept_heldLedger ?_ 0
  simp [Simulated.Held, heldLedger, Simulated.State.setAccount, Simulated.get?_put_self]

/-- On this ledger all is ready for the request. -/
theorem exists_ready_chain : Nonempty (Ready env signer seed chain 0 chainStart) := by
  obtain ⟨signature, hsigned⟩ : ∃ signature : Signature, signature.bytes =
      signer.sign (requestMessage env seed key address config key (Octets.zero 32)).bytes :=
    ⟨⟨_, Octets.length_bytes _⟩, rfl⟩
  have habsent : Simulated.get? chainStart address = none := by decide +kernel
  have hconfig : Simulated.get? chainStart config = some configData := by simp [chainStart, Simulated.get?]
  exact ⟨{
    derived := randomnessAccount_eq
    absent := by rw [answer_chain_accountData, habsent]
    build := {
      payer := key
      config := config
      treasury := key
      data := configData
      blockhash := Octets.zero 32
      signature := signature
      configured := chainStart
      dated := chainStart
      funded := ⟨rfl, by rw [configAccount_eq]; rfl⟩
      config_answer := by rw [answer_chain_accountData, hconfig]
      treasury_eq := decodeTreasury_configData
      blockhash_answer := rfl
      signed := hsigned }
    .. }⟩

end Sample

namespace Client

open Ledger

/-- On a ledger that carries out requests, the first of two requests for a seed submits and is confirmed, and the
second submits nothing. Where the account is there already, and none is ever removed, neither does. -/
theorem request_submits_at_most_once_sample :
    (Creates Sample.env Sample.chain 0 Sample.chainStart ∧
      ∃ first second, session Sample.env Sample.chain [Sample.seedRequest, Sample.seedRequest] 0
          Sample.chainStart = [first, second] ∧
        first.Confirms Sample.env Sample.address ∧ (submissions first.exchanges).length = 1 ∧
        submissions second.exchanges = []) ∧
    NeverRemoves Simulated.model 0 Sample.heldLedger ∧
    ∀ step ∈ session Sample.env Simulated.model [Sample.seedRequest, Sample.seedRequest] 0
      Sample.heldLedger, submissions step.exchanges = [] := by
  refine ⟨?_, Simulated.neverRemoves_of_kept Sample.kept_heldLedger 0, fun step hstep => ?_⟩
  · have hcreates := (Sample.opensAccounts_chain Sample.chainStart 0).creates Sample.env
    obtain ⟨hrequest, hsession⟩ :=
      request_submits_at_most_once Sample.env Sample.chain (0 : Rat) Sample.chainStart
    have hspec := hrequest Sample.signer (.address Sample.seed) Sample.seed Sample.resolve_eq
    obtain ⟨ready⟩ := Sample.exists_ready_chain
    have hfirst : (Sample.seedRequest.plan Sample.env).transcript Sample.chain 0 Sample.chainStart =
        ready.exchanges := (transcript_dropValue ..).trans (hspec.sent ready).1
    have hconfirms : Step.Confirms Sample.env Sample.address ⟨Sample.seedRequest,
        (Sample.seedRequest.plan Sample.env).transcript Sample.chain 0 Sample.chainStart⟩ := by
      refine ⟨Sample.requests_seedRequest, ready.build.transaction.bytes, "confirmed", ?_⟩
      rw [hfirst]
      exact .tail _ (.tail _ (.tail _ (.head _)))
    have hsecond := List.rel_of_pairwise_cons
      ((hsession [Sample.seedRequest, Sample.seedRequest]).created hcreates Sample.address)
      (List.mem_singleton_self _) hconfirms Sample.requests_seedRequest
    refine ⟨hcreates, _, _, rfl, hconfirms, ?_, hsecond⟩
    rw [hfirst, ready.submissions_exchanges]
    rfl
  · obtain ⟨-, hsession⟩ :=
      request_submits_at_most_once Sample.env Simulated.model (0 : Rat) Sample.heldLedger
    refine (hsession [Sample.seedRequest, Sample.seedRequest]).present Sample.address
      Sample.stays_heldLedger step hstep ?_
    rcases List.mem_cons.1 hstep with rfl | hstep
    · exact Sample.requests_seedRequest
    · obtain rfl := List.mem_singleton.1 hstep
      exact Sample.requests_seedRequest

end Client

end VrfClient
