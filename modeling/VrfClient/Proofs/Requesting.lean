import VrfClient.Proofs.Lookup

/-!
Building and submitting a request. `BuildRun` and `RequestRun` list, case by case, every way in which
building a request or requesting can go: the exchanges so far, and the result. That they list all of them
is `reaches_build` and `reaches_request`; no case has more than one submission. -/

namespace VrfClient.Client

open Plan

variable {τ : Type} {env : Env} {signer : Signer} {seed : Seed} {address : Address}

/-! ### The parts of a request -/

/-- The request for a seed, with the addresses that it touches. -/
def requestOf (env : Env) (seed : Seed) (payer randomness config treasury : Address) :
    Instruction where
  program := env.program
  accounts := [⟨payer, true, true⟩, ⟨randomness, false, true⟩, ⟨config, false, false⟩,
    ⟨treasury, false, true⟩, ⟨systemProgram, false, false⟩]
  data := Payload.request seed

/-- The message that carries the request. -/
def requestMessage (env : Env) (seed : Seed) (payer randomness config treasury : Address)
    (blockhash : Octets 32) : Message :=
  Message.compile payer [requestOf env seed payer randomness config treasury] blockhash

/-- What the answer to the question for the configuration account says about the treasury. -/
def treasuryOutcome (config : Address) : Except Error (Option Bytes) → Except Error Address
  | .error e => .error e
  | .ok none => .error (.noConfigAccount config)
  | .ok (some data) => (NetworkConfig.decodeTreasury data).mapError .decode

/-- Who pays, and where the configuration account lies. -/
structure Funded (env : Env) (signer : Signer) (payer config : Address) : Prop where
  payer_eq : payer.bytes = signer.publicKey
  config_eq : env.configAccount?.map Prod.fst = some config

/-! ### What can happen -/

/-- The ways in which building a request for a seed, whose address derives, can go. -/
inductive BuildRun (env : Env) (signer : Signer) (seed : Seed) (address : Address) :
    List (Exchange Ledger.service) → Except Error Transaction → Prop
  | badKey : signer.publicKey.length ≠ 32 →
      BuildRun env signer seed address [] (.error (.wrongLength 32 signer.publicKey.length))
  | noConfigAddress : signer.publicKey.length = 32 → env.configAccount? = none →
      BuildRun env signer seed address [] (.error (.noViableBump env.program))
  | noTreasury {payer config : Address} {answer : Except Error (Option Bytes)} {e : Error} :
      Funded env signer payer config → treasuryOutcome config answer = .error e →
      BuildRun env signer seed address [⟨.accountData config, answer⟩] (.error e)
  | noBlockhash {payer config treasury : Address} {data : Bytes} {e : Error} :
      Funded env signer payer config → NetworkConfig.decodeTreasury data = .ok treasury →
      BuildRun env signer seed address
        [⟨.accountData config, .ok (some data)⟩, ⟨.latestBlockhash, .error e⟩] (.error e)
  | badSignature {payer config treasury : Address} {data : Bytes} {blockhash : Octets 32} {bs : Bytes} :
      Funded env signer payer config → NetworkConfig.decodeTreasury data = .ok treasury →
      signer.sign (requestMessage env seed payer address config treasury blockhash).bytes = bs →
      bs.length ≠ 64 → BuildRun env signer seed address
        [⟨.accountData config, .ok (some data)⟩, ⟨.latestBlockhash, .ok blockhash⟩]
        (.error (.wrongLength 64 bs.length))
  | built {payer config treasury : Address} {data : Bytes} {blockhash : Octets 32}
      {signature : Signature} :
      Funded env signer payer config → NetworkConfig.decodeTreasury data = .ok treasury →
      signer.sign (requestMessage env seed payer address config treasury blockhash).bytes =
        signature.bytes →
      BuildRun env signer seed address
        [⟨.accountData config, .ok (some data)⟩, ⟨.latestBlockhash, .ok blockhash⟩]
        (.ok ⟨[signature], requestMessage env seed payer address config treasury blockhash⟩)

/-- The ways in which requesting a seed can go. -/
inductive RequestRun (env : Env) (signer : Signer) (seed : Seed) :
    List (Exchange Ledger.service) → Except Error (Option String) → Prop
  | noAddress : env.randomnessAccount? seed = none →
      RequestRun env signer seed [] (.error (.noViableBump env.program))
  | unanswered {address : Address} {e : Error} : env.randomnessAccount? seed = some address →
      RequestRun env signer seed [⟨.accountData address, .error e⟩] (.error e)
  | present {address : Address} {data : Bytes} {r : Except Error (Option String)} :
      env.randomnessAccount? seed = some address →
      r = (readRandomness address seed data).map (fun _ => none) →
      RequestRun env signer seed [⟨.accountData address, .ok (some data)⟩] r
  | unbuilt {address : Address} {x : List (Exchange Ledger.service)} {e : Error} :
      env.randomnessAccount? seed = some address → BuildRun env signer seed address x (.error e) →
      RequestRun env signer seed (⟨.accountData address, .ok none⟩ :: x) (.error e)
  | sent {address : Address} {x : List (Exchange Ledger.service)} {tx : Transaction}
      {answer : Except Error String} :
      env.randomnessAccount? seed = some address → BuildRun env signer seed address x (.ok tx) →
      RequestRun env signer seed
        (⟨.accountData address, .ok none⟩ :: (x ++ [⟨.send tx.bytes, answer⟩])) (answer.map some)

/-! ### These are all -/

/-- A byte string of its length is taken as it is. -/
theorem reaches_exactly_bind {α : Type} {n : Nat} {bs : Bytes} {o : Octets n} (h : o.bytes = bs)
    {f : Octets n → Plan Ledger.service τ α} {x : List (Exchange Ledger.service)}
    {r : Except Error α} : Reaches (exactly n bs >>= f) x r ↔ Reaches (f o) x r := by
  rw [exactly, Octets.ofBytes?_eq_some_iff.2 h.symm]
  exact Iff.rfl

theorem reaches_exactly_bind_wrong {α : Type} {n : Nat} {bs : Bytes} (h : bs.length ≠ n)
    {f : Octets n → Plan Ledger.service τ α} {x : List (Exchange Ledger.service)}
    {r : Except Error α} :
    Reaches (exactly n bs >>= f) x r ↔ x = [] ∧ r = .error (.wrongLength n bs.length) := by
  rw [exactly, Octets.ofBytes?_eq_none_iff.2 h]
  exact reaches_done

/-- The data of the configuration account is asked for once its address derives. -/
theorem reaches_configData {x : List (Exchange Ledger.service)} {r : Except Error Bytes}
    (h : Reaches (τ := τ) (configData env) x r) :
    (env.configAccount? = none ∧ x = [] ∧ r = .error (.noViableBump env.program)) ∨
      ∃ config answer, env.configAccount?.map Prod.fst = some config ∧
        x = [⟨.accountData config, answer⟩] ∧
        r = answer.bind fun found => found.elim (.error (.noConfigAccount config)) .ok := by
  cases hc : env.configAccount? with
  | none =>
    left
    rcases h.of_bind with ⟨e, he, rfl⟩ | ⟨config, x₁, x₂, h₁, -, -⟩
    · obtain ⟨rfl, hfail⟩ := reaches_configAddress he
      exact ⟨rfl, rfl, by simpa [hc] using hfail⟩
    · simpa [hc] using (reaches_configAddress h₁).2
  | some found =>
    right
    rcases h.of_bind with ⟨e, he, rfl⟩ | ⟨config, x₁, x₂, h₁, h₂, rfl⟩
    · simpa [hc] using (reaches_configAddress he).2
    · obtain ⟨rfl, hconfig⟩ := reaches_configAddress h₁
      obtain rfl : config = found.1 := by simpa [hc] using hconfig
      rcases h₂.of_bind with ⟨e, he, rfl⟩ | ⟨data, x₃, x₄, h₃, h₄, rfl⟩
      · exact ⟨found.1, .error e, rfl, reaches_call.1 he, rfl⟩
      · obtain rfl := reaches_call.1 h₃
        obtain ⟨rfl, rfl⟩ := reaches_require.1 h₄
        exact ⟨found.1, .ok data, rfl, rfl, rfl⟩

/-- Finding the treasury asks for the configuration account. -/
theorem reaches_treasury {x : List (Exchange Ledger.service)} {r : Except Error Address}
    (h : Reaches (τ := τ) (treasury env) x r) :
    (env.configAccount? = none ∧ x = [] ∧ r = .error (.noViableBump env.program)) ∨
      ∃ config answer, env.configAccount?.map Prod.fst = some config ∧
        x = [⟨.accountData config, answer⟩] ∧ r = treasuryOutcome config answer := by
  rcases h.of_bind with ⟨e, he, rfl⟩ | ⟨data, x₁, x₂, h₁, h₂, rfl⟩
  · rcases reaches_configData he with ⟨hc, rfl, hfail⟩ | ⟨config, answer, hc, rfl, hfail⟩
    · cases hfail
      exact .inl ⟨hc, rfl, rfl⟩
    · refine .inr ⟨config, answer, hc, rfl, ?_⟩
      match answer with
      | .error e' =>
        cases hfail
        rfl
      | .ok none =>
        cases hfail
        rfl
      | .ok (some data) => cases hfail
  · rcases reaches_configData h₁ with ⟨-, -, he'⟩ | ⟨config, answer, hc, rfl, hdata⟩
    · cases he'
    · obtain ⟨rfl, rfl⟩ := reaches_lift.1 h₂
      refine .inr ⟨config, answer, hc, rfl, ?_⟩
      match answer with
      | .error e' => cases hdata
      | .ok none => cases hdata
      | .ok (some data') =>
        cases hdata
        rfl

theorem treasuryOutcome_eq_ok_iff {config treasury : Address}
    {answer : Except Error (Option Bytes)} : treasuryOutcome config answer = .ok treasury ↔
      ∃ data, answer = .ok (some data) ∧ NetworkConfig.decodeTreasury data = .ok treasury := by
  match answer with
  | .error e => simp [treasuryOutcome]
  | .ok none => simp [treasuryOutcome]
  | .ok (some data) =>
    cases h : NetworkConfig.decodeTreasury data <;> simp [treasuryOutcome, h]

/-- Once all addresses derive, the instruction is made without a question. -/
theorem reaches_requestInstruction {form : SeedForm} {payer config treasury : Address}
    (hform : form.resolve = .ok seed) (ha : env.randomnessAccount? seed = some address)
    (hc : env.configAccount?.map Prod.fst = some config) {x : List (Exchange Ledger.service)}
    {r : Except Error Instruction}
    (h : Reaches (τ := τ) (requestInstruction env form payer treasury) x r) :
    x = [] ∧ r = .ok (requestOf env seed payer address config treasury) := by
  obtain ⟨⟨config, bump⟩, hfound, rfl⟩ := Option.map_eq_some_iff.1 hc
  have hnext := (reaches_randomnessAddress_bind ha).1 ((reaches_resolve_bind hform).1 h)
  rcases hnext.of_bind with ⟨e, he, rfl⟩ | ⟨found, x₁, x₂, h₁, h₂, rfl⟩
  · simpa [hfound] using (reaches_configAddress he).2
  · obtain ⟨rfl, hconfig⟩ := reaches_configAddress h₁
    obtain rfl : found = config := by simpa [hfound] using hconfig
    exact reaches_pure.1 h₂

/-- Every run of building a request is one of the cases. -/
theorem reaches_build {form : SeedForm} (hform : form.resolve = .ok seed)
    (ha : env.randomnessAccount? seed = some address) {x : List (Exchange Ledger.service)}
    {r : Except Error Transaction} (h : Reaches (τ := τ) (build env signer form) x r) :
    BuildRun env signer seed address x r := by
  by_cases hkey : signer.publicKey.length = 32
  · obtain ⟨payer, hpayer⟩ : ∃ payer : Address, payer.bytes = signer.publicKey :=
      ⟨⟨signer.publicKey, hkey⟩, rfl⟩
    have hpaid := (reaches_exactly_bind hpayer).1 h
    rcases hpaid.of_bind with ⟨e, he, rfl⟩ | ⟨treasury, x₁, x₂, h₁, h₂, rfl⟩
    · rcases reaches_treasury he with ⟨hc, rfl, hfail⟩ | ⟨config, answer, hc, rfl, hfail⟩
      · cases hfail
        exact .noConfigAddress hkey hc
      · exact .noTreasury ⟨hpayer, hc⟩ hfail.symm
    rcases reaches_treasury h₁ with ⟨-, -, hfail⟩ | ⟨config, answer, hc, rfl, hfound⟩
    · cases hfail
    obtain ⟨data, rfl, hdata⟩ := treasuryOutcome_eq_ok_iff.1 hfound.symm
    rcases h₂.of_bind with ⟨e, he, rfl⟩ | ⟨instruction, x₃, x₄, h₃, h₄, rfl⟩
    · cases (reaches_requestInstruction hform ha hc he).2
    obtain ⟨rfl, hinstruction⟩ := reaches_requestInstruction hform ha hc h₃
    cases hinstruction
    rcases h₄.of_bind with ⟨e, he, rfl⟩ | ⟨blockhash, x₅, x₆, h₅, h₆, rfl⟩
    · obtain rfl := reaches_call.1 he
      exact .noBlockhash ⟨hpayer, hc⟩ hdata
    obtain rfl := reaches_call.1 h₅
    obtain ⟨message, hmessage⟩ : ∃ message, message =
      requestMessage env seed payer address config treasury blockhash := ⟨_, rfl⟩
    have hsign : Reaches (τ := τ) (exactly 64 (signer.sign message.bytes) >>= fun signature =>
        pure ⟨[signature], message⟩) x₆ r := by
      rw [hmessage]
      exact h₆
    by_cases hlength : (signer.sign message.bytes).length = 64
    · obtain ⟨signature, hsignature⟩ : ∃ signature : Signature,
          signature.bytes = signer.sign message.bytes := ⟨⟨_, hlength⟩, rfl⟩
      rw [reaches_exactly_bind hsignature, reaches_pure] at hsign
      obtain ⟨rfl, rfl⟩ := hsign
      subst hmessage
      exact .built ⟨hpayer, hc⟩ hdata hsignature.symm
    · obtain ⟨rfl, rfl⟩ := (reaches_exactly_bind_wrong hlength).1 hsign
      subst hmessage
      exact .badSignature ⟨hpayer, hc⟩ hdata rfl hlength
  · obtain ⟨rfl, rfl⟩ := (reaches_exactly_bind_wrong hkey).1 h
    exact .badKey hkey

/-- Every run of a request is one of the cases. -/
theorem reaches_request {form : SeedForm} (hform : form.resolve = .ok seed)
    {x : List (Exchange Ledger.service)} {r : Except Error (Option String)}
    (h : Reaches (τ := τ) (request env signer form) x r) : RequestRun env signer seed x r := by
  have hseed := (reaches_resolve_bind hform).1 h
  cases ha : env.randomnessAccount? seed with
  | none =>
    rcases hseed.of_bind with ⟨e, he, rfl⟩ | ⟨found, x₁, x₂, h₁, -, -⟩
    · obtain ⟨rfl, hfail⟩ := reaches_lookup_of_none ha he
      cases hfail
      exact .noAddress ha
    · cases (reaches_lookup_of_none ha h₁).2
  | some address =>
    rcases hseed.of_bind with ⟨e, he, rfl⟩ | ⟨⟨a, found⟩, x₁, x₂, h₁, h₂, rfl⟩
    · obtain ⟨answer, rfl, hfail⟩ := reaches_lookup ha he
      cases answer with
      | error e' =>
        cases hfail
        exact .unanswered ha
      | ok found =>
        cases found with
        | none => cases hfail
        | some data =>
          refine .present ha ?_
          cases hr : readRandomness address seed data with
          | error e' =>
            simp only [lookupOutcome, hr] at hfail
            cases hfail
            rfl
          | ok record =>
            simp only [lookupOutcome, hr] at hfail
            cases hfail
    · obtain ⟨answer, rfl, hanswer⟩ := reaches_lookup ha h₁
      cases answer with
      | error e => cases hanswer
      | ok found =>
        cases found with
        | none =>
          cases hanswer
          rcases h₂.of_bind with ⟨e, he, rfl⟩ | ⟨tx, x₃, x₄, h₃, h₄, rfl⟩
          · exact .unbuilt ha (reaches_build rfl ha he)
          have hbuilt := reaches_build rfl ha h₃
          rw [reaches_log_bind] at h₄
          rcases h₄.of_bind with ⟨e, he, rfl⟩ | ⟨signature, x₅, x₆, h₅, h₆, rfl⟩
          · obtain rfl := reaches_call.1 he
            exact .sent ha hbuilt
          · obtain rfl := reaches_call.1 h₅
            rw [reaches_log_bind, reaches_pure] at h₆
            obtain ⟨rfl, rfl⟩ := h₆
            exact .sent ha hbuilt
        | some data =>
          cases hr : readRandomness address seed data with
          | error e =>
            simp only [lookupOutcome, hr] at hanswer
            cases hanswer
          | ok record =>
            simp only [lookupOutcome, hr] at hanswer
            cases hanswer
            rw [reaches_log_bind, reaches_pure] at h₂
            obtain ⟨rfl, rfl⟩ := h₂
            exact .present ha (by rw [hr]; rfl)

/-! ### Submissions -/

/-- The transactions that were submitted, in order. -/
def submissions (x : List (Exchange Ledger.service)) : List Bytes :=
  x.filterMap fun e => match e.call with
    | .send tx => some tx
    | _ => none

@[simp] theorem submissions_append (x y : List (Exchange Ledger.service)) :
    submissions (x ++ y) = submissions x ++ submissions y := List.filterMap_append

@[simp] theorem submissions_nil : submissions [] = [] := rfl

@[simp] theorem submissions_accountData (a : Address) (answer : Except Error (Option Bytes))
    (x : List (Exchange Ledger.service)) :
    submissions (⟨.accountData a, answer⟩ :: x) = submissions x := rfl

@[simp] theorem submissions_send (tx : Bytes) (answer : Except Error String)
    (x : List (Exchange Ledger.service)) :
    submissions (⟨.send tx, answer⟩ :: x) = tx :: submissions x := rfl

theorem BuildRun.submissions_eq {x : List (Exchange Ledger.service)} {r : Except Error Transaction}
    (h : BuildRun env signer seed address x r) : submissions x = [] := by
  cases h <;> rfl

/-- A request that submits was told that the account of its seed is absent. -/
theorem RequestRun.exists_absent {x : List (Exchange Ledger.service)} {r : Except Error (Option String)}
    (h : RequestRun env signer seed x r) (hne : submissions x ≠ []) :
    ∃ address, env.randomnessAccount? seed = some address ∧ ⟨.accountData address, .ok none⟩ ∈ x := by
  cases h with
  | noAddress _ => exact absurd rfl hne
  | unanswered _ => exact absurd rfl hne
  | present _ _ => exact absurd rfl hne
  | unbuilt ha _ => exact ⟨_, ha, List.mem_cons_self⟩
  | sent ha _ => exact ⟨_, ha, List.mem_cons_self⟩

theorem mem_submissions {x : List (Exchange Ledger.service)} {tx : Bytes}
    {answer : Except Error String} (h : ⟨.send tx, answer⟩ ∈ x) : tx ∈ submissions x :=
  List.mem_filterMap.2 ⟨_, h, rfl⟩

/-- What the account holds is a record of the seed, or an error of decoding. -/
theorem readRandomness_error {data : Bytes} {e : Error}
    (h : readRandomness address seed data = .error e) : ∃ fault, e = .decode fault := by
  unfold readRandomness at h
  cases hd : Randomness.decode data with
  | error fault =>
    rw [hd] at h
    cases h
    exact ⟨fault, rfl⟩
  | ok record =>
    simp only [hd, mapError_ok, Bind.bind, Except.bind] at h
    split at h
    · cases h
    · cases h
      exact ⟨_, rfl⟩

/-- No request submits twice. -/
theorem RequestRun.length_submissions {x : List (Exchange Ledger.service)}
    {r : Except Error (Option String)} (h : RequestRun env signer seed x r) :
    (submissions x).length ≤ 1 := by
  cases h with
  | noAddress _ => exact Nat.zero_le 1
  | unanswered _ => exact Nat.zero_le 1
  | present _ _ => exact Nat.zero_le 1
  | unbuilt _ hb => simp [hb.submissions_eq]
  | sent _ hb => simp [hb.submissions_eq]

end VrfClient.Client
