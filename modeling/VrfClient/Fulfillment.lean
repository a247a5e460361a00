import VrfClient.Error
import VrfClient.Wire.Payload
import VrfClient.Json.Basic

/-!
Recognising the transaction that fulfilled a request, and taking the oracle's key from it. A
fulfilment carries, among its top-level instructions, a call of the oracle program with the payload of
a fulfilment for the seed, and a companion that checks a signature. The key is that of the first
companion entry whose message is the seed. -/

namespace VrfClient.Fulfillment

/-- The payload of an instruction: base 58 text with trailing blanks allowed. An instruction shown in
parsed form has none. -/
def instructionData (ix : Json) : Except Json.Misuse (Option Bytes) := do
  match ← ix.member "data" with
  | .str s => return Base58.decode? (String.ofList (Text.trimEnd s.toList))
  | _ => return none

/-- The top-level instructions of a transaction. -/
def instructions (tx : Json) : Except Json.Misuse (List Json) := do
  let message ← ((← tx.member "transaction").orElse (.obj [])).member "message"
  let ixs ← (message.orElse (.obj [])).member "instructions"
  (ixs.orElse (.arr [])).items

/-- Whether an instruction calls the program with this text. -/
def calls (program : String) (ix : Json) : Except Json.Misuse Bool := do
  return (← ix.member "programId").isText program

/-- Whether a transaction counts as failed: it is absent, has no status, or its status names an
error. -/
def isFailed (tx : Json) : Except Json.Misuse Bool := do
  if tx.isAbsent then return true
  let status ← tx.member "meta"
  if status.isNull then return true
  return !(← status.member "err").isNull

/-- Whether an instruction is the fulfilment of a seed. -/
def fulfills (seed : Seed) (program : String) (ix : Json) : Except Json.Misuse Bool := do
  if !(← calls program ix) then return false
  match ← instructionData ix with
  | none => return false
  | some data =>
    match Payload.decodeFulfill data with
    | .ok (found, _) => return found = seed
    | .error _ => return false

/-- Whether a transaction fulfils a request for a seed to a program. -/
def isFulfillment (tx : Json) (seed : Seed) (program : Address) : Except Json.Misuse Bool := do
  let ixs ← instructions tx
  let fulfilled ← ixs.anyM (fulfills seed program.text)
  let accompanied ← ixs.anyM (calls Companion.program)
  return fulfilled && accompanied

/-- The outcome of looking for a key: the records passed over on the way, and the result. -/
structure Search where
  elsewhere : List Nat
  result : Except Error (Option Bytes)

namespace Search

/-- A search that has an outcome without passing over any record. -/
def ended (r : Except Error (Option Bytes)) : Search := ⟨[], r⟩

/-- Go on where a search has found nothing. -/
def orGoOn (s : Search) (next : Search) : Search :=
  match s.result with
  | .ok none => ⟨s.elsewhere ++ next.elsewhere, next.result⟩
  | _ => s

end Search

/-- The key of the first entry whose message is the seed. -/
def searchSteps (seed : Seed) (fault : Option Companion.Fault) : List Companion.Step → Search
  | [] => .ended (match fault with
    | some f => .error (.evidence f)
    | none => .ok none)
  | .elsewhere i :: steps =>
    let s := searchSteps seed fault steps
    ⟨i :: s.elsewhere, s.result⟩
  | .entry e :: steps =>
    if e.message = seed.bytes then .ended (.ok (some e.key)) else searchSteps seed fault steps

/-- The key in one instruction at a position, if it is a companion. -/
def searchInstruction (seed : Seed) (position : Nat) (ix : Json) : Search :=
  match calls Companion.program ix with
  | .error m => .ended (.error (.misuse m))
  | .ok false => .ended (.ok none)
  | .ok true =>
    match instructionData ix with
    | .error m => .ended (.error (.misuse m))
    | .ok none => .ended (.error (.evidence .notBase58))
    | .ok (some data) =>
      let reading := Companion.read data position
      searchSteps seed reading.fault reading.steps

/-- The key in the instructions from a position on. -/
def searchFrom (seed : Seed) : Nat → List Json → Search
  | _, [] => .ended (.error (.evidence .absent))
  | position, ix :: ixs =>
    (searchInstruction seed position ix).orGoOn (searchFrom seed (position + 1) ixs)

/-- The search for the key that checked a seed. -/
def search (tx : Json) (seed : Seed) : Search :=
  match instructions tx with
  | .error m => .ended (.error (.misuse m))
  | .ok ixs => searchFrom seed 0 ixs

/-- The key that checked a seed. -/
def extractKey (tx : Json) (seed : Seed) : Except Error Bytes := do
  match ← (search tx seed).result with
  | some key => return key
  | none => throw (.evidence .absent)

/-- Whether a key, given as bytes, verifies a signature over a seed. -/
def verifies (key : Bytes) (seed : Seed) (signature : Signature) : Bool :=
  match Octets.ofBytes? 32 key with
  | some key => Ed25519.verify key seed.bytes signature
  | none => false

/-- Check a signature over a seed with the key from a transaction. -/
def check (tx : Json) (seed : Seed) (signature : Bytes) : Except Error Unit :=
  match Octets.ofBytes? 64 signature with
  | none => .error (.evidence (.signatureLength signature.length))
  | some signature => do
    if verifies (← extractKey tx seed) seed signature then return ()
    else throw (.evidence .forged)

end VrfClient.Fulfillment
