import VrfClient.Ed25519
import VrfClient.Address
import VrfClient.Json.Reader

/-!
Keys that sign for a payer. A key pair is a secret together with its own public key, so a pair whose
halves do not belong together cannot be held. Key files are documents: an array of 64 numbers, secret
first. A document of any other kind is turned into bytes as far as it can be, and then refused for its
length or its halves. -/

namespace VrfClient

/-- Anything that signs messages under a public key. -/
structure Signer where
  publicKey : Bytes
  sign : Bytes → Bytes

/-- A secret and its public key. -/
structure Keypair where
  secret : Octets 32
  key : Octets 32
  key_eq : key = Ed25519.publicKey secret

namespace Keypair

/-- Why something is no key pair. -/
inductive Fault where
  | secretLength
  | wrongLength (length : Nat)
  | mismatch
  /-- An item is a number, but not a byte. -/
  | notAByte
  /-- A number of zero bytes below zero. -/
  | negativeCount
  /-- A number of zero bytes that no byte string can have. -/
  | countTooLarge
  /-- A number of zero bytes for which there is no memory. -/
  | noMemory
  /-- A value that has no bytes. -/
  | notBytes
  | document (fault : Json.Fault)
deriving DecidableEq

/-- The secret as a key pair. -/
def ofSecret (secret : Octets 32) : Keypair := ⟨secret, Ed25519.publicKey secret, rfl⟩

/-- The key pair of a secret given as bytes. -/
def ofSecretBytes (bs : Bytes) : Except Fault Keypair :=
  match Octets.ofBytes? 32 bs with
  | some secret => .ok (ofSecret secret)
  | none => .error .secretLength

/-- The length of a key pair as bytes. -/
def byteLength : Nat := 64

/-- The key pair of a secret followed by its public key. -/
def ofBytes (bs : Bytes) : Except Fault Keypair := do
  if bs.length ≠ byteLength then throw (.wrongLength bs.length)
  let pair ← ofSecretBytes (bs.take 32)
  if pair.key.bytes ≠ bs.drop 32 then throw .mismatch
  return pair

/-- One item of a document as a byte. -/
def byteOfItem : Json → Except Fault UInt8
  | .int i => if 0 ≤ i ∧ i < 256 then .ok (UInt8.ofNat i.toNat) else .error .notAByte
  | .bool b => .ok (if b then 1 else 0)
  | _ => .error .notBytes

/-- The greatest length of a byte string. -/
def maxCount : Int := 2 ^ 63 - 34

/-- The greatest number of bytes that is set aside. -/
def memory : Int := 2 ^ 35

/-- The key pair of a number: that many zero bytes. -/
def ofCount (n : Int) : Except Fault Keypair :=
  if n < -2 ^ 63 ∨ maxCount < n then .error .countTooLarge
  else if n < 0 then .error .negativeCount
  else if memory < n then .error .noMemory
  else if n = byteLength then ofBytes (List.replicate byteLength 0)
  else .error (.wrongLength n.toNat)

/-- The key pair of a document. -/
def ofJson : Json → Except Fault Keypair
  | .arr xs => do ofBytes (← xs.mapM byteOfItem)
  | .obj [] => ofBytes []
  | .int n => ofCount n
  | .bool b => ofCount (if b then 1 else 0)
  | _ => .error .notBytes

/-- The key pair of a key file. -/
def ofFile (text : String) : Except Fault Keypair := do
  ofJson (← (Json.parse text).mapError .document)

/-- The address of the public key. -/
def address (k : Keypair) : Address := k.key

/-- The signature of a message. -/
def sign (k : Keypair) (message : Bytes) : Signature := Ed25519.sign k.secret k.key message

/-- The key pair as a signer. -/
def signer (k : Keypair) : Signer := ⟨k.key.bytes, fun message => (k.sign message).bytes⟩

end Keypair

end VrfClient
