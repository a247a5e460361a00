import VrfClient.Environment
import VrfClient.Wire.Codec
import VrfClient.Companion
import VrfClient.Keypair
import VrfClient.Files.Basic

/-!
Everything that can go wrong, by cause. The client's own errors have a kind, which tells a caller what
to do next, and a message. The rest are faults of arguments, of documents that lack their shape, of
files, and of a node that fails in a way the client does not account for. -/

namespace VrfClient

namespace NodeFault

/-- The ways in which a call to a node fails. -/
inductive Kind where
  | client
  | rpc
  | unconfirmed
  | http
  | connect
  | readTimeout
  | invalidUrl
  | crash
  | badValue
deriving DecidableEq

end NodeFault

/-- A node's failure to answer. -/
structure NodeFault where
  kind : NodeFault.Kind
  detail : String
deriving DecidableEq

namespace NodeFault

/-- Whether the client reports the failure as one of transport; the other kinds pass through it. -/
def isTransport (f : NodeFault) : Bool :=
  match f.kind with
  | .invalidUrl | .crash | .badValue => false
  | _ => true

/-- The text of a failure; a client failure has none, whatever its detail. -/
def text (f : NodeFault) : String :=
  match f.kind with
  | .client => ""
  | _ => f.detail

end NodeFault

/-- How the ledger failed to answer. -/
inductive TransportFault where
  /-- As reported by whoever holds the ledger. -/
  | reported (text : String)
  /-- A named request to a node failed. -/
  | failed (request : String) (fault : NodeFault)
deriving DecidableEq

def TransportFault.message : TransportFault → String
  | .reported text => text
  | .failed request fault => s!"{request} failed: {fault.text}"

/-- What a caller can do about an error of the client. -/
inductive ErrorKind where
  | transport
  | notFound
  | decode
  | verify
deriving DecidableEq

def ErrorKind.name : ErrorKind → String
  | .transport => "transport"
  | .notFound => "not_found"
  | .decode => "decode"
  | .verify => "verify"

/-- The outcome of an operation that did not succeed. -/
inductive Error where
  | transport (fault : TransportFault)
  | noRandomnessAccount (seed : Seed) (address : Address)
  | noConfigAccount (address : Address)
  | noTransactions (seed : Seed) (address : Address)
  | noFulfillment (seed : Seed) (count : Nat)
  /-- Still pending when the deadline passed; the timeout is kept as text. -/
  | notFulfilledInTime (seed : Seed) (timeout : String)
  | decode (fault : DecodeError)
  | evidence (fault : Companion.Fault)
  | notFulfilled (seed : Seed)
  /-- No bump gives an address off the curve. -/
  | noViableBump (program : Address)
  | badSeed (fault : SeedForm.Fault)
  | badAddress (fault : Address.TextFault)
  | badSignature (fault : Signature.TextFault)
  /-- A byte string stands for a value of another length. -/
  | wrongLength (expected found : Nat)
  | refusal (fault : Derived.Refusal)
  | environment (fault : Env.Fault)
  | keypair (fault : Keypair.Fault)
  | layout (fault : EncodeError)
  | misuse (fault : Json.Misuse)
  | document (fault : Json.Fault)
  | file (path : String) (fault : FileFault)
  /-- An option without a value was to be used. -/
  | noValue
  /-- A node failure that the client does not account for. -/
  | node (fault : NodeFault)
deriving DecidableEq

namespace Error

/-- The kind of an error of the client; none for the rest. -/
def kind? : Error → Option ErrorKind
  | .transport _ => some .transport
  | .noRandomnessAccount .. | .noConfigAccount .. | .noTransactions .. | .noFulfillment ..
  | .notFulfilledInTime .. => some .notFound
  | .decode _ => some .decode
  | .evidence _ | .notFulfilled _ => some .verify
  | _ => none

/-- What went wrong with a key pair, where that can be said in a sentence. -/
def keypairMessage : Keypair.Fault → String
  | .secretLength => "The seed must be exactly 32 bytes long"
  | .wrongLength n => s!"Keypair must be 64 bytes, got {n}"
  | .mismatch => "Keypair public key does not match its secret"
  | .notAByte => "bytes must be in range(0, 256)"
  | .negativeCount => "negative count"
  | .countTooLarge | .noMemory | .notBytes | .document _ => ""

/-- What went wrong, for a person. Faults that need no explanation have an empty message. -/
def message : Error → String
  | .transport f => f.message
  | .noRandomnessAccount seed a => s!"No randomness account for seed {seed.hex} ({a.text})"
  | .noConfigAccount a => s!"No VRF config account at {a.text}"
  | .noTransactions seed a => s!"No transactions found for seed {seed.hex} ({a.text})"
  | .noFulfillment seed count =>
    s!"None of {count} transaction(s) for seed {seed.hex} is a fulfillment"
  | .notFulfilledInTime seed timeout =>
    s!"Randomness for seed {seed.hex} not fulfilled within {timeout}s"
  | .decode f => f.message
  | .evidence f => f.message
  | .notFulfilled seed => s!"Randomness for seed {seed.hex} is not fulfilled yet"
  | .noViableBump program => s!"No viable bump for program {program.text}"
  | .badSeed f => f.message
  | .badAddress f => f.message
  | .badSignature f => f.message
  | .wrongLength expected found => s!"expected a sequence of length {expected} (got {found})"
  | .refusal f => f.message
  | .environment f => f.message
  | .keypair f => keypairMessage f
  | .node f => f.text
  | .file _ .zeroCharacter => "embedded null byte"
  | .layout _ | .misuse _ | .document _ | .file .. | .noValue => ""

end Error

end VrfClient
