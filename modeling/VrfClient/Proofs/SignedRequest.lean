import VrfClient.Proofs.Compilation
import VrfClient.Proofs.Legacy
import VrfClient.Proofs.Payload
import VrfClient.Proofs.Submission

/-!
What is submitted. The bytes of a built transaction, read in the legacy format, are one signature and a
message: the signature is the signer's over exactly the bytes of that message, and the message asks the
program for the seed, with the five accounts in their order and with the privileges that the program
wants, whichever of the addresses coincide. -/

namespace VrfClient

open Plan

namespace Client

variable {τ σ : Type} {env : Env} {signer : Signer} {seed : Seed}
  {payer randomness config treasury key : Address} {blockhash : Octets 32}

/-! ### The message -/

/-- The message asks the program for a seed. -/
structure AsksFor (env : Env) (seed : Seed) (payer randomness config treasury : Address)
    (blockhash : Octets 32) (m : Message) : Prop where
  one_signer : m.requiredSignatures = 1
  payer_first : m.keys[0]? = some payer
  distinct : m.keys.Nodup
  blockhash_eq : m.blockhash = blockhash
  instruction : ∃ ix, m.instructions = [ix] ∧ m.keys[ix.program]? = some env.program ∧
    ix.accounts.map (fun i => m.keys[i]?) =
      [some payer, some randomness, some config, some treasury, some systemProgram] ∧
    ix.data = Payload.request seed
  writable : ∀ i key, m.keys[i]? = some key →
    (m.isWritable i = true ↔ key = payer ∨ key = randomness ∨ key = treasury)

theorem wantsSignature_requestOf :
    Message.wantsSignature [requestOf env seed payer randomness config treasury] key = true ↔
      key = payer := by
  have hany : Message.wantsSignature [requestOf env seed payer randomness config treasury] key =
      true ↔ payer = key := by
    simp [Message.wantsSignature, requestOf]
  exact hany.trans eq_comm

theorem wantsWrite_requestOf :
    Message.wantsWrite [requestOf env seed payer randomness config treasury] key = true ↔
      key = payer ∨ key = randomness ∨ key = treasury := by
  have hany : Message.wantsWrite [requestOf env seed payer randomness config treasury] key =
      true ↔ payer = key ∨ randomness = key ∨ treasury = key := by
    simp [Message.wantsWrite, requestOf]
  exact hany.trans (or_congr eq_comm (or_congr eq_comm eq_comm))

/-- Besides the payer no one signs. -/
theorem group_requestOf (writable : Bool) :
    Message.group payer [requestOf env seed payer randomness config treasury] true writable = [] := by
  rw [List.eq_nil_iff_forall_not_mem]
  intro k hk
  obtain ⟨-, hne, hsigns, -⟩ := Message.mem_group.1 hk
  exact hne (wantsSignature_requestOf.1 hsigns)

theorem mem_keys_requestMessage (h : key = env.program ∨
    key ∈ [payer, randomness, config, treasury, systemProgram]) :
    key ∈ (requestMessage env seed payer randomness config treasury blockhash).keys := by
  refine Message.mem_keys_compile.2 (Message.mem_mentioned.2 (.inr ⟨_, List.mem_singleton.2 rfl, ?_⟩))
  simp [requestOf] at h ⊢
  grind

theorem requiredSignatures_requestMessage :
    (requestMessage env seed payer randomness config treasury blockhash).requiredSignatures = 1 := by
  simp [requestMessage, Message.compile, group_requestOf]

/-- The compiled message asks for the seed. -/
theorem asksFor_requestMessage : AsksFor env seed payer randomness config treasury blockhash
    (requestMessage env seed payer randomness config treasury blockhash) where
  one_signer := requiredSignatures_requestMessage
  payer_first := Message.payer_first
  distinct := Message.nodup_keys_compile
  blockhash_eq := rfl
  instruction := by
    have hresolve : ∀ key, key = env.program ∨
        key ∈ [payer, randomness, config, treasury, systemProgram] →
        (requestMessage env seed payer randomness config treasury blockhash).keys[
          (requestMessage env seed payer randomness config treasury blockhash).keys.idxOf key]? =
            some key := fun key h => Message.getElem?_idxOf (mem_keys_requestMessage h)
    refine ⟨_, rfl, hresolve _ (.inl rfl), ?_, rfl⟩
    have hall : [payer, randomness, config, treasury, systemProgram].map (fun key =>
        (requestMessage env seed payer randomness config treasury blockhash).keys[
          (requestMessage env seed payer randomness config treasury blockhash).keys.idxOf key]?) =
        [payer, randomness, config, treasury, systemProgram].map some :=
      List.map_congr_left fun key hkey => hresolve key (.inr hkey)
    exact hall
  writable i key h := by
    have hprivileges := Message.isWritable_compile_iff h
    rw [wantsWrite_requestOf, or_self_left] at hprivileges
    exact hprivileges

/-! ### Its layout -/

/-- The numbers of a compiled message fit their fields if it has few keys and signers, and no list in it
is too long. -/
theorem fits_compile {ixs : List Instruction}
    (hkeys : (Message.compile payer ixs blockhash).keys.length < 256)
    (hrequired : (Message.compile payer ixs blockhash).requiredSignatures < 128)
    (hixs : ixs.length < 65536)
    (hlists : ∀ ix ∈ ixs, ix.accounts.length < 65536 ∧ ix.data.length < 65536) :
    Legacy.Fits (Message.compile payer ixs blockhash) where
  requiredSignatures := hrequired
  readOnlySigners := Nat.lt_of_le_of_lt Message.header_le_length_keys.1 hkeys
  readOnlyOthers := Nat.lt_of_le_of_lt Message.header_le_length_keys.2 hkeys
  keys_length := Nat.lt_trans hkeys (by decide)
  instructions_length := by
    rw [Message.compile, List.length_map]
    exact hixs
  instructions := by
    intro compiled hcompiled
    obtain ⟨ix, hix, rfl⟩ := List.mem_map.1 hcompiled
    have hposition : ∀ key ∈ Message.mentioned payer ixs,
        (Message.compile payer ixs blockhash).keys.idxOf key < 256 := fun key hkey =>
      Nat.lt_trans (Message.idxOf_lt_of_mem_mentioned hkey) hkeys
    refine ⟨?_, ?_, ?_, (hlists ix hix).2⟩
    · exact hposition _ (Message.mem_mentioned.2 (.inr ⟨ix, hix, .inr rfl⟩))
    · intro i hi
      obtain ⟨account, haccount, rfl⟩ := List.mem_map.1 hi
      exact hposition _ (Message.mem_mentioned.2 (.inr ⟨ix, hix, .inl ⟨account, haccount, rfl⟩⟩))
    · rw [List.length_map]
      exact (hlists ix hix).1

/-- The message of a request fits the format, and reads back. -/
theorem reads_requestMessage : Legacy.Reads Legacy.message
    (requestMessage env seed payer randomness config treasury blockhash).bytes
    (requestMessage env seed payer randomness config treasury blockhash) := by
  have hkeys : (requestMessage env seed payer randomness config treasury blockhash).keys.length ≤ 7 :=
    Message.length_keys_le
  refine Legacy.reads_message (fits_compile (Nat.lt_of_le_of_lt hkeys (by decide)) ?_ ?_ ?_)
  · exact Nat.lt_of_le_of_lt (Nat.le_of_eq requiredSignatures_requestMessage) (by decide)
  · simp
  · intro ix hix
    obtain rfl := List.mem_singleton.1 hix
    refine ⟨?_, ?_⟩
    · simp [requestOf]
    · exact Nat.lt_of_le_of_lt (Nat.le_of_eq (Payload.length_request seed)) (by decide)

/-! ### The transaction -/

/-- The bytes are one signature and a message that asks for the seed, in the legacy format; the signature
is that of the signer, who pays, over all the bytes that follow it. -/
def SignedRequest (env : Env) (signer : Signer) (seed : Seed) (randomness config treasury : Address)
    (blockhash : Octets 32) (bs : Bytes) : Prop :=
  ∃ payer signature body m, payer.bytes = signer.publicKey ∧
    Legacy.signatures bs = some ([signature], body) ∧ signature.bytes = signer.sign body ∧
    Legacy.message body = some (m, []) ∧
    AsksFor env seed payer randomness config treasury blockhash m

/-- A request message under its signature is a signed request. -/
theorem signedRequest_bytes {signature : Signature} (hpayer : payer.bytes = signer.publicKey)
    (hsignature : signature.bytes =
      signer.sign (requestMessage env seed payer randomness config treasury blockhash).bytes) :
    SignedRequest env signer seed randomness config treasury blockhash
      (Transaction.bytes ⟨[signature],
        requestMessage env seed payer randomness config treasury blockhash⟩) := by
  have hone : [signature].length < 65536 := by simp
  have hfirst := Legacy.reads_signatures hone
    (requestMessage env seed payer randomness config treasury blockhash).bytes
  have hread : Legacy.Reads Legacy.message
      (requestMessage env seed payer randomness config treasury blockhash).bytes _ :=
    reads_requestMessage
  have hrest := hread []
  rw [List.append_nil] at hrest
  exact ⟨payer, signature, _, _, hpayer, hfirst, hsignature, hrest, asksFor_requestMessage⟩

/-- What is built is a signed request. -/
theorem Buildable.signedRequest {m : Model Ledger.service τ σ} {t : τ} {s : σ}
    (h : Buildable env signer seed randomness m t s) :
    SignedRequest env signer seed randomness h.config h.treasury h.blockhash h.transaction.bytes :=
  signedRequest_bytes h.funded.payer_eq h.signed

/-- On a ledger at rest that holds a configuration, a request can be built. -/
def Buildable.ofView (env : Env) (signer : Signer) (seed : Seed) (randomness : Address)
    (view : (c : Ledger.Call) → c.Reply) {data : Bytes} (hc : env.configAccount?.map Prod.fst = some config)
    (hkey : signer.publicKey.length = 32) (hsign : ∀ message, (signer.sign message).length = 64)
    (hdata : view (.accountData config) = some data)
    (htreasury : NetworkConfig.decodeTreasury data = .ok treasury) (t : τ) (s : σ) :
    Buildable env signer seed randomness (atRest view) t s where
  payer := ⟨signer.publicKey, hkey⟩
  config := config
  treasury := treasury
  data := data
  blockhash := view .latestBlockhash
  signature := ⟨_, hsign _⟩
  configured := s
  dated := s
  funded := ⟨rfl, hc⟩
  config_answer := congrArg (fun found => (Except.ok found, s)) hdata
  treasury_eq := htreasury
  blockhash_answer := rfl
  signed := rfl

/-- Whatever a request submits is a signed request, for the treasury and the block hash of its run. -/
theorem RequestRun.exists_signedRequest {x : List (Exchange Ledger.service)}
    {r : Except Error (Option String)} (h : RequestRun env signer seed x r) {bs : Bytes}
    (hbs : bs ∈ submissions x) : ∃ randomness config data treasury blockhash,
      env.randomnessAccount? seed = some randomness ∧ env.configAccount?.map Prod.fst = some config ∧
      ⟨.accountData config, .ok (some data)⟩ ∈ x ∧ NetworkConfig.decodeTreasury data = .ok treasury ∧
      ⟨.latestBlockhash, .ok blockhash⟩ ∈ x ∧
      SignedRequest env signer seed randomness config treasury blockhash bs := by
  cases h with
  | noAddress _ => cases hbs
  | unanswered _ => cases hbs
  | present _ _ => cases hbs
  | unbuilt _ hb => simp [hb.submissions_eq] at hbs
  | sent ha hb =>
    simp only [submissions_accountData, submissions_append, hb.submissions_eq, submissions_send,
      submissions_nil, List.nil_append, List.mem_singleton] at hbs
    subst hbs
    cases hb with
    | built hf ht hs =>
      exact ⟨_, _, _, _, _, ha, hf.config_eq, by simp, ht, by simp, signedRequest_bytes hf.payer_eq hs.symm⟩

/-- A transaction that is built, and every transaction that is submitted, is the signed request: on a
ledger at rest that holds a configuration building gives it and requesting an absent seed submits the
same, and on any ledger whatever is submitted is one. -/
theorem built_and_submitted_are_signed [Clock τ] {form : SeedForm} (hform : form.resolve = .ok seed)
    (ha : env.randomnessAccount? seed = some randomness)
    (hc : env.configAccount?.map Prod.fst = some config) (hkey : signer.publicKey.length = 32)
    (hsign : ∀ message, (signer.sign message).length = 64) (m : Model Ledger.service τ σ) (t : τ)
    (s : σ) :
    (∀ (view : (c : Ledger.Call) → c.Reply) (data : Bytes) (treasury : Address),
      view (.accountData config) = some data → NetworkConfig.decodeTreasury data = .ok treasury →
      ∃ tx : Transaction,
        SignedRequest env signer seed randomness config treasury (view .latestBlockhash) tx.bytes ∧
        (Shown view ((build env signer form).transcript m t s) →
          ((build env signer form).run m t s).result = .ok tx) ∧
        (view (.accountData randomness) = none →
          Shown view ((request env signer form).transcript m t s) →
          submissions ((request env signer form).transcript m t s) = [tx.bytes])) ∧
    ∀ bs ∈ submissions ((request env signer form).transcript m t s),
      ∃ data treasury blockhash,
        ⟨.accountData config, .ok (some data)⟩ ∈ (request env signer form).transcript m t s ∧
        NetworkConfig.decodeTreasury data = .ok treasury ∧
        ⟨.latestBlockhash, .ok blockhash⟩ ∈ (request env signer form).transcript m t s ∧
        SignedRequest env signer seed randomness config treasury blockhash bs := by
  have hrequest := reaches_request hform (reaches_run m (request env signer form) t s)
  refine ⟨fun view data treasury hdata htreasury => ?_, fun bs hbs => ?_⟩
  · let buildable := Buildable.ofView env signer seed randomness view hc hkey hsign hdata htreasury t s
    refine ⟨buildable.transaction, buildable.signedRequest, fun hx => ?_, fun habsent hx => ?_⟩
    · have hrun := reaches_build hform ha (reaches_run m (build env signer form) t s)
      exact (hrun.of_buildable buildable (answers_atRest hx)).2
    · let ready : Ready env signer seed (atRest view) t s :=
        ⟨randomness, s, ha, congrArg (fun found => (Except.ok found, s)) habsent, buildable⟩
      rw [(hrequest.of_ready ready (answers_atRest hx)).1]
      exact ready.submissions_exchanges
  · obtain ⟨_, _, data, treasury, blockhash, ha', hc', hdata, htreasury, hblockhash, hsigned⟩ :=
      hrequest.exists_signedRequest hbs
    obtain rfl := Option.some.inj (ha'.symm.trans ha)
    obtain rfl := Option.some.inj (hc'.symm.trans hc)
    exact ⟨data, treasury, blockhash, hdata, htreasury, hblockhash, hsigned⟩

end Client

/-! ### An instance -/

namespace Sample

/-- The signer whose secret is all zero. -/
def signer : Signer := Keypair.signer ⟨Octets.zero 32, key, by decide +kernel⟩

/-- A configuration whose treasury is the payer itself. -/
def configData : Bytes := NetworkConfig.discriminator ++ (Octets.zero 32).bytes ++ key.bytes

/-- A ledger that holds the configuration and nothing else. -/
def configView : (c : Ledger.Call) → c.Reply
  | .accountData a => if a = config then some configData else none
  | .latestBlockhash => Octets.zero 32
  | .send _ => ""
  | .signatures _ => []
  | .transaction _ => .null

theorem decodeTreasury_configData : NetworkConfig.decodeTreasury configData = .ok key := by
  decide +kernel

theorem configView_config : configView (.accountData config) = some configData := by
  simp [configView]

theorem configView_address : configView (.accountData address) = none := by
  simp only [configView, ite_eq_right_iff]
  exact fun h => absurd h (by decide)

end Sample

namespace Client

theorem built_and_submitted_are_signed_sample : ∃ tx : Transaction,
    SignedRequest Sample.env Sample.signer Sample.seed Sample.address Sample.config Sample.key
      (Octets.zero 32) tx.bytes ∧
    ((build Sample.env Sample.signer (.address Sample.seed)).run (atRest Sample.configView) (0 : Rat)
      ()).result = .ok tx ∧
    submissions ((request Sample.env Sample.signer (.address Sample.seed)).transcript
      (atRest Sample.configView) (0 : Rat) ()) = [tx.bytes] := by
  have hc : Sample.env.configAccount?.map Prod.fst = some Sample.config := by
    rw [Sample.configAccount_eq]
    rfl
  have hsign : ∀ message, (Sample.signer.sign message).length = 64 :=
    fun message => Octets.length_bytes _
  obtain ⟨hatRest, -⟩ := built_and_submitted_are_signed Sample.resolve_eq Sample.randomnessAccount_eq hc
    rfl hsign (atRest Sample.configView) (0 : Rat) ()
  obtain ⟨tx, hsigned, hbuild, hrequest⟩ := hatRest Sample.configView Sample.configData Sample.key
    Sample.configView_config Sample.decodeTreasury_configData
  exact ⟨tx, hsigned, hbuild (shown_atRest _ _ _ _),
    hrequest Sample.configView_address (shown_atRest _ _ _ _)⟩

end Client

end VrfClient
