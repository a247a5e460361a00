import VrfClient.Account.Randomness

/-!
Instruction payloads of the oracle program. A request carries a seed; a fulfilment carries a seed and
the signature that is the randomness. Both layouts are exact: a payload of any other length, or with
another discriminator, is refused. -/

namespace VrfClient.Payload

def requestDiscriminator : Bytes := Wire.instruction "request"

def fulfillDiscriminator : Bytes := Wire.instruction "fulfill"

def requestLength : Nat := Wire.discriminatorLength + Randomness.seedLength

def fulfillLength : Nat :=
  Wire.discriminatorLength + Randomness.seedLength + Randomness.signatureLength

/-- The payload of a request. -/
def request (seed : Seed) : Bytes := requestDiscriminator ++ seed.bytes

/-- The payload of a fulfilment; the signature must have its length. -/
def fulfill (seed : Seed) (signature : Bytes) : Except EncodeError Bytes := do
  return fulfillDiscriminator ++ (seed.bytes ++ (← Wire.fixed Randomness.signatureLength signature))

/-- The bytes after the discriminator of an exact payload. -/
def body? (length : Nat) (discriminator data : Bytes) : Option Bytes :=
  if data.length = length ∧ data.take Wire.discriminatorLength = discriminator then
    some (data.drop Wire.discriminatorLength)
  else none

/-- The seed of a request. -/
def decodeRequest (data : Bytes) : Except DecodeError Seed :=
  match (body? requestLength requestDiscriminator data).bind (Octets.ofBytes? 32) with
  | some seed => .ok seed
  | none => .error .notRequest

/-- The seed and the signature of a fulfilment. -/
def decodeFulfill (data : Bytes) : Except DecodeError (Seed × Signature) :=
  match body? fulfillLength fulfillDiscriminator data with
  | none => .error .notFulfill
  | some body =>
    match Octets.ofBytes? 32 (body.take 32), Octets.ofBytes? 64 (body.drop 32) with
    | some seed, some signature => .ok (seed, signature)
    | _, _ => .error .notFulfill

end VrfClient.Payload
