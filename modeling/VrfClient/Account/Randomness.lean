import VrfClient.Address
import VrfClient.Wire.Codec

/-!
The account that holds the randomness of one seed: discriminator, seed, a tag byte that says whether
64 bytes of randomness follow, and a status byte. Bytes after the status are ignored. `encode` writes
the layout and `decode` reads it; the checks of `decode` come in the order length, discriminator, tag,
length again, status. -/

namespace VrfClient

/-- How far a request has come. -/
inductive Status where
  | pending
  | fulfilled
deriving DecidableEq

namespace Status

def code : Status → Nat
  | .pending => 0
  | .fulfilled => 1

def ofCode? : Nat → Option Status
  | 0 => some .pending
  | 1 => some .fulfilled
  | _ => none

/-- The name shown to a user. -/
def name : Status → String
  | .pending => "pending"
  | .fulfilled => "fulfilled"

end Status

/-- What a randomness account says. -/
structure Randomness where
  seed : Bytes
  randomness : Option Bytes
  status : Status
deriving DecidableEq

namespace Randomness

def discriminator : Bytes := Wire.account "Randomness"

def seedLength : Nat := 32

def signatureLength : Nat := 64

/-- Discriminator, seed, tag and status: the length without randomness. -/
def minLength : Nat := Wire.discriminatorLength + seedLength + 1 + 1

/-- Whether the randomness is final: the status says so and it is there. -/
def isFulfilled (r : Randomness) : Bool := r.status = .fulfilled && r.randomness.isSome

/-- The optional field: a zero byte, or a one byte and the value. -/
def optional : Option Bytes → Except EncodeError Bytes
  | none => .ok [0]
  | some bs => do return 1 :: (← Wire.fixed signatureLength bs)

/-- The account data of given fields, whatever the status code. -/
def encodeFields (seed : Bytes) (randomness : Option Bytes) (status : Int) :
    Except EncodeError Bytes := do
  let seed ← Wire.fixed seedLength seed
  let randomness ← optional randomness
  let status ← Wire.number 1 status
  return discriminator ++ (seed ++ randomness ++ status)

/-- The account data of a record. -/
def encode (r : Randomness) : Except EncodeError Bytes :=
  encodeFields r.seed r.randomness r.status.code

/-- The record with this status byte. -/
def withStatus (seed : Bytes) (randomness : Option Bytes) (code : UInt8) :
    Except DecodeError Randomness :=
  match Status.ofCode? code.toNat with
  | some status => .ok ⟨seed, randomness, status⟩
  | none => .error (.unknownStatus code.toNat)

/-- The record after its discriminator and seed: tag, perhaps randomness, status. -/
def decodeTail (seed : Bytes) : Bytes → Except DecodeError Randomness
  | [] => .error .truncatedSignature
  | tag :: rest =>
    if tag = 0 then
      match rest with
      | status :: _ => withStatus seed none status
      | [] => .error .truncatedSignature
    else if tag = 1 then
      match rest.drop signatureLength with
      | status :: _ => withStatus seed (some (rest.take signatureLength)) status
      | [] => .error .truncatedSignature
    else .error (.optionTag tag.toNat)

/-- The record that account data holds. -/
def decode (data : Bytes) : Except DecodeError Randomness :=
  if data.length < minLength then .error (.randomnessTooShort data.length)
  else if data.take Wire.discriminatorLength ≠ discriminator then
    .error (.discriminator "Randomness" (data.take Wire.discriminatorLength) discriminator)
  else
    let body := data.drop Wire.discriminatorLength
    decodeTail (body.take seedLength) (body.drop seedLength)

end Randomness

end VrfClient
