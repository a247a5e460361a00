import VrfClient.Address
import VrfClient.Wire.Codec

/-!
The account that configures the oracle network: discriminator, authority, treasury, request fee in
eight bytes, and a counted list of fulfilment authorities. `decode` reads all of it; a request only
needs the treasury, and `decodeTreasury` reads no further than that. Bytes after the list are
ignored. -/

namespace VrfClient

/-- What the network configuration account says. The fee is any integer until it is laid out. -/
structure NetworkConfig where
  authority : Address
  treasury : Address
  requestFee : Int
  authorities : List Address
deriving DecidableEq

namespace NetworkConfig

def discriminator : Bytes := Wire.account "NetworkState"

/-- Discriminator, authority and treasury. -/
def minLength : Nat := Wire.discriminatorLength + 32 + 32

/-- Where the treasury starts. -/
def treasuryOffset : Nat := Wire.discriminatorLength + 32

/-- The account data of a configuration. -/
def encode (c : NetworkConfig) : Except EncodeError Bytes := do
  let fee ← Wire.number 8 c.requestFee
  let count ← Wire.number 4 c.authorities.length
  return discriminator ++
    (c.authority.bytes ++ c.treasury.bytes ++ fee ++ count ++ c.authorities.flatMap Octets.bytes)

/-- The 32 bytes at a position, zero where the data ends before. -/
def addressAt (data : Bytes) (start : Nat) : Address :=
  (Octets.ofBytes? 32 (data.slice start 32)).getD (Octets.zero 32)

/-- The checks that every reading of the account makes. -/
def checkHeader (data : Bytes) : Except DecodeError Unit :=
  if data.length < minLength then .error (.configTooShort data.length)
  else if data.take Wire.discriminatorLength ≠ discriminator then
    .error (.discriminator "NetworkState" (data.take Wire.discriminatorLength) discriminator)
  else .ok ()

/-- The treasury alone. -/
def decodeTreasury (data : Bytes) : Except DecodeError Address := do
  checkHeader data
  return addressAt data treasuryOffset

/-- A number field and the rest of the data. -/
def takeNumber (field : String) (width : Nat) (data : Bytes) : Except DecodeError (Nat × Bytes) :=
  if data.length < width then .error (.shortRead field width data.length)
  else .ok (Bytes.toNatLE (data.take width), data.drop width)

/-- `count` addresses from the start of the data; they are read byte by byte. -/
def takeAddresses : Nat → Bytes → Except DecodeError (List Address)
  | 0, _ => .ok []
  | count + 1, data =>
    match Octets.ofBytes? 32 (data.take 32) with
    | none => .error (.shortRead "fulfillment_authorities -> items" 1 0)
    | some a => do return a :: (← takeAddresses count (data.drop 32))

/-- The whole configuration. -/
def decode (data : Bytes) : Except DecodeError NetworkConfig := do
  checkHeader data
  let (fee, rest) ← takeNumber "request_fee" 8 (data.drop minLength)
  let (count, rest) ← takeNumber "fulfillment_authorities -> count" 4 rest
  let authorities ← takeAddresses count rest
  return ⟨addressAt data Wire.discriminatorLength, addressAt data treasuryOffset, fee, authorities⟩

end NetworkConfig

end VrfClient
