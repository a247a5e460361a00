import VrfClient.Address
import VrfClient.Hash.Sha2

/-!
What the program's byte layouts have in common: every account and every instruction starts with an
eight-byte discriminator, the first bytes of the hash of its qualified name; fields follow without
gaps, numbers little-endian. -/

namespace VrfClient

/-- Why bytes do not have the layout they should have. -/
inductive DecodeError where
  | randomnessTooShort (length : Nat)
  | configTooShort (length : Nat)
  | discriminator (account : String) (found expected : Bytes)
  | optionTag (tag : Nat)
  | truncatedSignature
  | unknownStatus (code : Nat)
  /-- A field of the network configuration starts beyond the end, or runs past it. -/
  | shortRead (field : String) (expected found : Nat)
  /-- The account stores another seed than the one it was derived from. -/
  | foreignSeed (address : Address) (found : Bytes) (expected : Seed)
  | notRequest
  | notFulfill
deriving DecidableEq

def DecodeError.message : DecodeError → String
  | .randomnessTooShort n => s!"Randomness: account too short ({n} < 42 bytes)"
  | .configTooShort n => s!"NetworkState: account too short ({n} bytes)"
  | .discriminator account found expected =>
    s!"{account}: discriminator mismatch {found.hex} != {expected.hex}"
  | .optionTag tag => s!"Randomness: invalid option tag {tag}"
  | .truncatedSignature => "Randomness: truncated signature"
  | .unknownStatus code => s!"Randomness: unknown status {code}"
  | .shortRead field expected found =>
    s!"NetworkState: Error in path (parsing) -> {field}\nstream read less than specified amount, expected {expected}, found {found}"
  | .foreignSeed address found expected =>
    s!"Account {address.text} holds seed {found.hex}, expected {expected.hex}"
  | .notRequest => "Not a Request instruction"
  | .notFulfill => "Not a Fulfill instruction"

/-- Why fields cannot be laid out. -/
inductive EncodeError where
  /-- A byte string does not have the length of its field. -/
  | wrongLength
  /-- A number does not fit its field. -/
  | outOfRange
deriving DecidableEq

namespace Wire

def discriminatorLength : Nat := 8

/-- The discriminator of a name within a name space. -/
def discriminator (space name : String) : Bytes :=
  (sha256 (Bytes.ofText (space ++ ":" ++ name))).bytes.take discriminatorLength

/-- The discriminator of an account type. -/
def account (name : String) : Bytes := discriminator "account" name

/-- The discriminator of an instruction. -/
def instruction (name : String) : Bytes := discriminator "global" name

/-- A byte string as a field of `length` bytes. -/
def fixed (length : Nat) (bs : Bytes) : Except EncodeError Bytes :=
  if bs.length = length then .ok bs else .error .wrongLength

/-- A number as a field of `width` bytes. -/
def number (width : Nat) (n : Int) : Except EncodeError Bytes :=
  if 0 ≤ n ∧ n < 256 ^ width then .ok (Bytes.ofNatLE width n.toNat) else .error .outOfRange

theorem length_discriminator (space name : String) :
    (discriminator space name).length = discriminatorLength := by
  simp [discriminator, discriminatorLength, (sha256 _).length_bytes]

end Wire

end VrfClient
