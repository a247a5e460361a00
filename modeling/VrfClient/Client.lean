import VrfClient.Ledger.Basic
import VrfClient.Clock
import VrfClient.Fulfillment
import VrfClient.Account.NetworkConfig
import VrfClient.Wire.Transaction

/-!
The client: asking the oracle for randomness, waiting for it, and checking what came back. Every
operation is a plan over a ledger; nothing is remembered between operations, and no failure of the
ledger is retried. A seed may be given in any form, and is resolved first. -/

namespace VrfClient.Client

open Ledger (Action)

variable {S : Service} {τ : Type}

/-! ### Addresses -/

/-- The seed that a form stands for. -/
def resolve (form : SeedForm) : Plan S τ Seed := Plan.lift (form.resolve.mapError .badSeed)

/-- The randomness account of a seed. -/
def randomnessAddress (env : Env) (seed : Seed) : Plan S τ Address :=
  Plan.require (.noViableBump env.program) (env.randomnessAccount? seed)

/-- The configuration account. -/
def configAddress (env : Env) : Plan S τ Address := do
  let (address, bump) ← Plan.require (.noViableBump env.program) env.configAccount?
  Plan.log .debug .address s!"Config account {address.text} (bump {bump})"
  return address

/-- The randomness account of a seed in any form. -/
def address (env : Env) (form : SeedForm) : Plan S τ Address := do
  randomnessAddress env (← resolve form)

/-! ### Reading accounts -/

/-- The record that account data holds, which must be that of the seed. -/
def readRandomness (address : Address) (seed : Seed) (data : Bytes) : Except Error Randomness := do
  let r ← (Randomness.decode data).mapError .decode
  if r.seed = seed.bytes then return r
  else throw (.decode (.foreignSeed address r.seed seed))

/-- The randomness of a seed, none if it was never requested; with the address of its account. -/
def lookup (env : Env) (seed : Seed) : Action τ (Address × Option Randomness) := do
  let address ← randomnessAddress env seed
  match ← Ledger.accountData address with
  | none => return (address, none)
  | some data => return (address, some (← Plan.lift (readRandomness address seed data)))

/-- The randomness of a seed that was requested. -/
def get (env : Env) (form : SeedForm) : Action τ Randomness := do
  let seed ← resolve form
  let (address, found) ← lookup env seed
  Plan.require (.noRandomnessAccount seed address) found

/-- The data of the configuration account. -/
def configData (env : Env) : Action τ Bytes := do
  let address ← configAddress env
  Plan.require (.noConfigAccount address) (← Ledger.accountData address)

/-- The network configuration. -/
def networkConfig (env : Env) : Action τ NetworkConfig := do
  Plan.lift ((NetworkConfig.decode (← configData env)).mapError .decode)

/-- The account that receives the fee. -/
def treasury (env : Env) : Action τ Address := do
  Plan.lift ((NetworkConfig.decodeTreasury (← configData env)).mapError .decode)

/-! ### Requesting -/

/-- The program that creates accounts. -/
def systemProgram : Address := Octets.zero 32

/-- The request for a seed. The program fixes the order of the accounts: payer, randomness account,
configuration, treasury, system program. -/
def requestInstruction (env : Env) (form : SeedForm) (payer treasury : Address) :
    Plan S τ Instruction := do
  let seed ← resolve form
  let randomness ← randomnessAddress env seed
  let config ← configAddress env
  return {
    program := env.program
    accounts := [⟨payer, true, true⟩, ⟨randomness, false, true⟩, ⟨config, false, false⟩,
      ⟨treasury, false, true⟩, ⟨systemProgram, false, false⟩]
    data := Payload.request seed }

/-- A byte string that must have `n` bytes. -/
def exactly (n : Nat) (bs : Bytes) : Plan S τ (Octets n) :=
  Plan.require (.wrongLength n bs.length) (Octets.ofBytes? n bs)

/-- The signed transaction that requests a seed, not yet sent; the signer pays. -/
def build (env : Env) (signer : Signer) (form : SeedForm) : Action τ Transaction := do
  let payer ← exactly 32 signer.publicKey
  let treasury ← treasury env
  let instruction ← requestInstruction env form payer treasury
  let blockhash ← Ledger.latestBlockhash
  let message := Message.compile payer [instruction] blockhash
  let signature ← exactly 64 (signer.sign message.bytes)
  return ⟨[signature], message⟩

/-- Request a seed that was not requested before, and give the signature of the transaction; none if
there is an account for the seed already. -/
def request (env : Env) (signer : Signer) (form : SeedForm) : Action τ (Option String) := do
  let seed ← resolve form
  match (← lookup env seed).2 with
  | some _ =>
    Plan.log .info .requestor s!"Randomness for seed {seed.hex} exists, not requesting"
    return none
  | none =>
    let transaction ← build env signer (.address seed)
    Plan.log .info .requestor s!"Sending randomness request for seed {seed.hex}"
    let signature ← Ledger.send transaction.bytes
    Plan.log .info .requestor s!"Request confirmed in {signature}, waiting for fulfillment"
    return some signature

/-! ### Waiting -/

section Waiting

variable [Clock τ]

/-- How long a caller waits who does not say, in seconds. -/
def defaultTimeout : Decimal := .finite false 120 0

/-- The pause between polls where the caller does not say, in seconds. -/
def defaultInterval : Decimal := .finite false 2 0

/-- What a poll finds: the record if it is fulfilled. -/
def poll (env : Env) (seed : Seed) : Action τ (Option Randomness) := do
  match (← lookup env seed).2 with
  | some r =>
    if r.isFulfilled then return some r
    Plan.log .debug .requestor s!"Seed {seed.hex} still pending"
    return none
  | none =>
    Plan.log .debug .requestor s!"Seed {seed.hex} not on chain yet"
    return none

/-- Poll at most `count` times, an interval apart, as long as the next poll is not after the
deadline. -/
def pollUntil (env : Env) (seed : Seed) (timeout interval deadline : τ) :
    Nat → Action τ Randomness
  | 0 => Plan.fail (.notFulfilledInTime seed (Clock.text timeout))
  | count + 1 => do
    match ← poll env seed with
    | some r => return r
    | none =>
      let now ← Plan.clock
      if Clock.isAfter (Clock.add now interval) deadline then
        Plan.fail (.notFulfilledInTime seed (Clock.text timeout))
      else
        Plan.wait interval
        pollUntil env seed timeout interval deadline count

/-- Wait until the randomness of a seed is fulfilled, but no longer than the timeout. -/
def waitFor (env : Env) (form : SeedForm) (timeout interval : τ) : Action τ Randomness := do
  let seed ← resolve form
  let start ← Plan.clock
  pollUntil env seed timeout interval (Clock.add start timeout) (Clock.polls timeout interval)

end Waiting

/-! ### Verifying -/

/-- The document of a misuse-prone inspection. -/
def inspect {α : Type} (r : Except Json.Misuse α) : Plan S τ α := Plan.lift (r.mapError .misuse)

/-- Whether a transaction fulfils a request for a seed. -/
def recognize (env : Env) (tx : Json) (form : SeedForm) : Plan S τ Bool := do
  let seed ← resolve form
  inspect (Fulfillment.isFulfillment tx seed env.program)

/-- The first transaction of the list that fulfils the seed. Transactions that the ledger does not
return, that have no status, or that failed are passed over. -/
def scan (env : Env) (seed : Seed) (address : Address) (listed : Nat) :
    List String → Action τ (String × Json)
  | [] => Plan.fail (.noFulfillment seed listed)
  | signature :: older => do
    let tx ← Ledger.transaction signature
    if tx.isAbsent then
      Plan.log .warning .verify s!"Skipping transaction {signature}, not returned by the node"
      scan env seed address listed older
    else if (← inspect (tx.member "meta")).isNull then
      Plan.log .warning .verify s!"Skipping transaction {signature}, no status meta"
      scan env seed address listed older
    else if ← inspect (Fulfillment.isFailed tx) then
      Plan.log .warning .verify s!"Skipping transaction {signature} due to error status"
      scan env seed address listed older
    else if ← inspect (Fulfillment.isFulfillment tx seed env.program) then
      Plan.log .debug .verify s!"Fulfillment for {address.text} found in {signature}"
      return (signature, tx)
    else
      Plan.log .debug .verify s!"Transaction {signature} is not a fulfillment"
      scan env seed address listed older

/-- The newest transaction that fulfils a seed, with its signature. -/
def findFulfillment (env : Env) (form : SeedForm) : Action τ (String × Json) := do
  let seed ← resolve form
  let address ← randomnessAddress env seed
  let signatures ← Ledger.signatures address
  if signatures.isEmpty then Plan.fail (.noTransactions seed address)
  else scan env seed address signatures.length signatures

/-- Say which records were passed over. -/
def reportElsewhere : List Nat → Plan S τ Unit
  | [] => return ()
  | i :: is => do
    Plan.log .debug .verify s!"Ed25519 entry {i} references another instruction, ignored"
    reportElsewhere is

/-- The key in a transaction that checked a seed. -/
def extractKey (tx : Json) (form : SeedForm) : Plan S τ Bytes := do
  let seed ← resolve form
  reportElsewhere (Fulfillment.search tx seed).elsewhere
  Plan.lift (Fulfillment.extractKey tx seed)

/-- Check a signature over a seed with the key from a transaction. -/
def verifyFulfillment (tx : Json) (form : SeedForm) (signature : Bytes) : Plan S τ Unit := do
  let seed ← resolve form
  if signature.length = Companion.signatureLength then
    reportElsewhere (Fulfillment.search tx seed).elsewhere
  Plan.lift (Fulfillment.check tx seed signature)

/-- Check randomness against the transaction that fulfilled its seed. -/
def verify (env : Env) (form : SeedForm) (randomness : Randomness) : Action τ Unit := do
  let seed ← resolve form
  match randomness.randomness with
  | none => Plan.fail (.notFulfilled seed)
  | some signature =>
    let (_, tx) ← findFulfillment env (.address seed)
    verifyFulfillment tx (.address seed) signature
    Plan.log .info .requestor s!"Randomness for seed {seed.hex} verified offchain"

end VrfClient.Client
